import TagFilter.Text.Basic

/-!
# Problems with statements

A `Problem` is why a statement in SQL cannot run: it cannot be read, or something that it names is
not there.  Some problems name a limit, which is given here.
-/

namespace TagFilter.Sql

/-- What is wrong with a statement. -/
inductive Problem where
  | unexpected (token : Text)
  | incomplete
  | unrecognized (token : Text)
  | oversized (literal : Text)
  | parameterNumber
  | noTables
  | noTable (name : Text)
  | noColumn (name : Text)
  | noFunction (name : Text)
  | argumentCount (function : Text)
  | noCollation (name : Text)
  | rowMisused
  | tooDeep
  deriving DecidableEq, Repr

/-- The greatest number of a parameter. -/
def greatestParameter : Nat := 32766

/-- How many parts of an expression may be inside one another. -/
def greatestDepth : Nat := 1000

/-- The problem in words. -/
def Problem.message : Problem → Text
  | unexpected token => "near \"" ++ token ++ "\": syntax error"
  | incomplete => "incomplete input"
  | unrecognized token => "unrecognized token: \"" ++ token ++ "\""
  | oversized literal => "hex literal too big: " ++ literal
  | parameterNumber =>
    "variable number must be between ?1 and ?" ++ Text.ofNat greatestParameter
  | noTables => "no tables specified"
  | noTable name => "no such table: " ++ name
  | noColumn name => "no such column: " ++ name
  | noFunction name => "no such function: " ++ name
  | argumentCount function => "wrong number of arguments to function " ++ function ++ "()"
  | noCollation name => "no such collation sequence: " ++ name
  | rowMisused => "row value misused"
  | tooDeep => "Expression tree is too large (maximum depth " ++ Text.ofNat greatestDepth ++ ")"

end TagFilter.Sql
