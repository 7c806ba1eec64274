import TagFilter.Sql.Query

/-!
# Texts of statements

A text may hold several statements with semicolons between them: `select` runs one after the other
and gives what the last one shows.  A statement cannot run while it has a parameter, since none is
ever given a value.
-/

namespace TagFilter.Sql

/-! ## Parameters -/

/-- A parameter without a value, by its name if it has one. -/
inductive Unbound where
  | nameless
  | named (name : Text)
  deriving DecidableEq, Repr

/-- The missing value in words. -/
def Unbound.message : Unbound → Text
  | nameless => "missing argument with index 1"
  | named name => "missing named argument " ++ name.quoted

/-- The name of the first parameter among those of a statement, if it has one.  A parameter without
a name is the next one, a number is that of the parameter, and a name is the next one when it is
new.  `count` is the greatest number so far. -/
def firstName? (count : Nat) : List Text → Option Text
  | [] => none
  | p :: ps =>
    if p = [byte '?'] then firstName? (count + 1) ps
    else if p.head? = some (byte '?') then
      let n := Text.digitsValue p.tail
      if n = 1 then some p else firstName? (max count n) ps
    else if count = 0 then some p
    else firstName? (count + 1) ps

/-- The first of the parameters in the tokens of a statement. -/
def unbound? (tokens : List Token) : Option Unbound :=
  let parameters := tokens.filterMap fun t => match t.lexeme with
    | .parameter p => some p
    | _ => none
  if parameters.isEmpty then none
  else some (((firstName? 0 parameters).map fun p => .named p.tail).getD .nameless)

/-! ## Texts of statements -/

/-- What goes wrong with a statement. -/
inductive Failure where
  | problem (p : Problem)
  | unbound (u : Unbound)
  deriving DecidableEq, Repr

/-- What goes wrong in words. -/
def Failure.message : Failure → Text
  | problem p => "SQL logic error: " ++ p.message ++ " (1)"
  | unbound u => u.message

/-- What the statement at the start of a rest shows, and what follows it. -/
def selectOne (tables : List Text) (rows : List Row) (r : Rest) :
    Except Failure (Table × Rest) := do
  let (select, after) ← (Select.read r).mapError .problem
  let query ← (select.resolve tables).mapError .problem
  let tokens := r.upTo after
  match oversized? false tokens, unbound? tokens with
  | some literal, _ => throw (.problem (.oversized literal))
  | none, some u => throw (.unbound u)
  | none, none => return (query.run rows, after)

/-- Runs the statements of a rest: what the last one of them shows, or else what was shown last. -/
def selectAll (fuel : Nat) (tables : List Text) (rows : List Row) (last : Table) (r : Rest) :
    Except Failure Table := do
  match fuel with
  | 0 => return last
  | fuel + 1 =>
    if r.atSymbol ";" then selectAll fuel tables rows last r.next
    else if r.tokens.isEmpty && r.problem?.isNone then return last
    else
      let (table, r) ← selectOne tables rows r
      selectAll fuel tables rows table r

/-- Runs the statements of a text. -/
def select (tables : List Text) (rows : List Row) (t : Text) : Except Failure Table :=
  let r := Rest.ofText t
  selectAll (r.tokens.length + 1) tables rows ⟨[], []⟩ r

end TagFilter.Sql
