import TagFilter.Lint.Severity
import TagFilter.Text.Blank

/-!
# Lint configurations

A configuration disables rules and gives rules another severity.  Rules are named without regard to
letter case and surrounding blanks; of two severities for one rule the later one counts.
-/

namespace TagFilter

/-- Which rules are off and which have another severity. -/
structure LintConfig where
  disabled : List Text := []
  severities : List (Text × Severity) := []
  deriving DecidableEq, Repr

namespace LintConfig

/-- The form in which names of rules are compared. -/
def normalize (id : Text) : Text := id.trim.toUpper

/-- Turns a rule off. -/
def disable (c : LintConfig) (id : Text) : LintConfig :=
  { c with disabled := normalize id :: c.disabled }

/-- Gives a rule another severity. -/
def setSeverity (c : LintConfig) (id : Text) (severity : Severity) : LintConfig :=
  { c with severities := (normalize id, severity) :: c.severities }

/-- Whether a rule is off. -/
def isDisabled (c : LintConfig) (id : Text) : Bool := c.disabled.elem (normalize id)

/-- The severity of a rule that has one of its own. -/
def severityOf (c : LintConfig) (id : Text) (own : Severity) : Severity :=
  (c.severities.lookup (normalize id)).getD own

/-- A rule with a severity that is none. -/
structure BadSeverity where
  rule : Text
  name : Text
  deriving DecidableEq, Repr

/-- The error in words. -/
def BadSeverity.message (e : BadSeverity) : Text :=
  "rule " ++ e.rule ++ ": " ++ Severity.unknownMessage e.name

/-- Sets the severities of a list. -/
def setSeverities (c : LintConfig) : List (Text × Text) → Except BadSeverity LintConfig
  | [] => .ok c
  | (id, name) :: rest =>
    match Severity.ofName? name with
    | some severity => (c.setSeverity id severity).setSeverities rest
    | none => .error ⟨id, name⟩

/-- The configuration that turns rules off and gives rules the severities of given names. -/
def ofLists (disabled : List Text) (severities : List (Text × Text)) :
    Except BadSeverity LintConfig :=
  (disabled.foldl disable {}).setSeverities severities

end LintConfig

end TagFilter
