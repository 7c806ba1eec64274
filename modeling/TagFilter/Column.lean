import TagFilter.Date.Layout
import TagFilter.Date.Mask

/-!
# Columns of the tag table

A tag keeps its value in one of three columns.  A `Sniffer` tells from a literal which one: a date
under its mask goes to the date column, else a 64-bit integer to the number column, and anything
else to the text column.
-/

namespace TagFilter

/-- The value columns of the tag table. -/
inductive Column where
  | date
  | number
  | text
  deriving DecidableEq, Repr

/-- The name of a column in SQL. -/
def Column.name : Column → String
  | date => "date_value"
  | number => "num_value"
  | text => "str_value"

/-- The 64-bit integer that a text is: an optional sign and one or more ASCII digits. -/
def Text.toInt64? (t : Text) : Option Int :=
  let (negative, digits) :=
    match t with
    | b :: rest =>
      if b = byte '-' then (true, rest) else if b = byte '+' then (false, rest) else (false, t)
    | [] => (false, t)
  if digits.isEmpty || !digits.all Text.isDigitByte then none
  else
    let n : Int := Text.digitsValue digits
    let n := if negative then -n else n
    if -(int64Bound : Int) ≤ n ∧ n < int64Bound then some n else none

/-- Tells dates from other literals by a date mask. -/
structure Sniffer where
  mask : Text
  layout : Layout
  deriving DecidableEq, Repr

namespace Sniffer

/-- The mask of years, months and days. -/
def defaultMask : Text := "%Y-%m-%d"

/-- The sniffer of a mask, or why the mask is none. -/
def ofMask (mask : Text) : Except DateMask.Cause Sniffer :=
  (DateMask.layout mask).map fun layout => ⟨mask, Layout.ofText layout⟩

/-- The sniffer of the default mask. -/
def default : Sniffer := ⟨defaultMask, Layout.ofText "2006-01-02"⟩

/-- The text without one quote in front and one at the end, each if it is there. -/
def trimQuotes (t : Text) : Text :=
  let t := if t.head? = some (byte '\'') then t.tail else t
  if t.getLast? = some (byte '\'') then t.dropLast else t

/-- The moment that a literal names. -/
def moment? (s : Sniffer) (literal : Text) : Option Calendar.Moment :=
  s.layout.read? (trimQuotes literal)

/-- The column of a literal. -/
def column (s : Sniffer) (literal : Text) : Column :=
  if (s.moment? literal).isSome then .date
  else if literal.toInt64?.isSome then .number
  else .text

theorem ofMask_defaultMask : ofMask defaultMask = .ok default := by
  rfl

end Sniffer

end TagFilter
