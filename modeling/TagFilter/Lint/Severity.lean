import TagFilter.Text.Quoted

/-!
# Severities

How much a finding matters, from errors down to hints.
-/

namespace TagFilter

/-- How much a finding matters. -/
inductive Severity where
  | error
  | warning
  | info
  | hint
  deriving DecidableEq, Inhabited, Repr

namespace Severity

/-- The severities, the gravest first. -/
def all : List Severity := [error, warning, info, hint]

/-- The place of a severity, the gravest being 0. -/
def rank : Severity → Nat
  | error => 0
  | warning => 1
  | info => 2
  | hint => 3

/-- The name of a severity. -/
def name : Severity → String
  | error => "error"
  | warning => "warning"
  | info => "info"
  | hint => "hint"

/-- The severity of a name, whatever its letter case. -/
def ofName? (t : Text) : Option Severity := all.find? fun s => (s.name : Text) == t.toLower

/-- The name of the severity at a place. -/
def nameAt (n : Int) : String := ((all.find? fun s => s.rank == n).map name).getD "unknown"

/-- What to say of a name that is no severity. -/
def unknownMessage (t : Text) : Text := "unknown severity " ++ t.quoted

end Severity

end TagFilter
