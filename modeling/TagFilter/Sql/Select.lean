import TagFilter.Sql.Reader

/-!
# Statements that select

`Select.read` reads a statement `select … from entry_tags where …` up to its end or its semicolon.
-/

namespace TagFilter.Sql

/-- What a statement shows: all columns of the table, also of a named one, or an expression, with
the name it is given and the way it is written. -/
inductive Shown where
  | all
  | allOf (table : Text)
  | expr (name? : Option Text) (written : Text) (e : Expr)
  deriving Repr

/-- A table in a statement, with the name it goes by there. -/
structure Source where
  table : Text
  name? : Option Text := none
  deriving DecidableEq, Repr

/-- A statement: whether it leaves out rows that it has shown, what it shows, from which table, and
under which condition. -/
structure Select where
  distinct : Bool
  shown : List Shown
  source? : Option Source
  condition : Expr
  deriving Repr

/-- Reads one thing that a statement shows. -/
def readShown (fuel : Nat) (r : Rest) : Except Problem (Shown × Rest) := do
  if r.atSymbol "*" then return (.all, r.next)
  else if (nameHead? r).isSome && r.next.atSymbol "." && r.next.next.atSymbol "*" then
    let (table, r) ← r.name
    return (.allOf table, r.next.next)
  else
    let (e, after) ← readExpr fuel orLevel false r
    let (name?, rest) ← after.otherName?
    return (.expr name? (r.written after) e, rest)

/-- Reads what a statement shows. -/
def readAllShown (fuel : Nat) (r : Rest) : Except Problem (List Shown × Rest) := do
  match fuel with
  | 0 => throw r.problem
  | fuel + 1 =>
    let (shown, r) ← readShown fuel r
    if r.atSymbol "," then
      let (more, r) ← readAllShown fuel r.next
      return (shown :: more, r)
    else return ([shown], r)

/-- Reads the table of a statement and the name it goes by. -/
def readSource (r : Rest) : Except Problem (Source × Rest) := do
  let (table, r) ← readTable r
  let (name?, r) ← r.otherName?
  return (⟨table, name?⟩, r)

/-- The condition of a statement without one. -/
def noCondition : Expr := .datum (.ofInt 1)

namespace Select

/-- Reads a statement up to its end or its semicolon, whatever is wrong with its tokens in
themselves. -/
def readLoosely (r : Rest) : Except Problem (Select × Rest) := do
  let fuel := 16 * (r.tokens.length + 1)
  let r ← r.word "select"
  let distinct := r.atWord "distinct"
  let (shown, r) ← readAllShown fuel (if distinct || r.atWord "all" then r.next else r)
  let (source?, r) ←
    if r.atWord "from" then do let (s, r) ← readSource r.next; pure (some s, r) else pure (none, r)
  let (condition, r) ←
    if r.atWord "where" then readExpr fuel orLevel false r.next else pure (noCondition, r)
  let select : Select := ⟨distinct, shown, source?, condition⟩
  if r.atSymbol ";" then return (select, r.next)
  else if r.tokens.isEmpty && r.problem?.isNone then return (select, r)
  else throw r.problem

/-- Whether a statement can go on as far as some tokens do. -/
def goesOn (tokens : List Token) : Bool :=
  match readLoosely ⟨tokens, none⟩ with
  | .error (.unexpected _) => false
  | _ => true

/-- Reads a statement up to its end or its semicolon.  A token that is wrong in itself is the
problem if the one behind it can stand there, and otherwise that one is. -/
def read (r : Rest) : Except Problem (Select × Rest) :=
  match readLoosely r with
  | .ok (select, after) =>
    match (r.upTo after).findSome? fault? with
    | some p => .error p
    | none =>
      if greatestDepth < select.condition.depth then .error .tooDeep else .ok (select, after)
  | .error p =>
    let sound := r.tokens.takeWhile fun t => (fault? t).isNone
    match r.tokens.drop sound.length with
    | t :: u :: _ => .error (if goesOn (sound ++ [t, u]) then (fault? t).getD p else p)
    | _ => .error p

end Select

end TagFilter.Sql
