import TagFilter.Sql.Function
import TagFilter.Sql.Token

/-!
# Expressions in SQL

`Expr` is an expression over a row of the tag table and `Expr.eval` its value.  Names have first to
be resolved: `Expr.resolve` finds the columns and functions that they stand for.  Conditions have
three truth values: a comparison with nothing is neither true nor false, and `and` and `or` decide
as soon as one side settles the matter.
-/

namespace TagFilter.Sql

/-- The operators that compare. -/
inductive Comparison where
  | eq
  | ne
  | lt
  | le
  | gt
  | ge
  deriving DecidableEq, Repr

/-- Whether an order of two values is one that a comparison asks for. -/
def Comparison.holds : Comparison → Ordering → Bool
  | eq, o => o == .eq
  | ne, o => o != .eq
  | lt, o => o == .lt
  | le, o => o != .gt
  | gt, o => o == .gt
  | ge, o => o != .lt

/-- The words for the present. -/
inductive Clock where
  | date
  | time
  | timestamp
  deriving DecidableEq, Repr

/-- What a word for the present stands for.  A database keeps no clock of its own: for it, the
present is one moment. -/
def Clock.toText : Clock → String
  | date => "2026-01-01"
  | time => "00:00:00"
  | timestamp => "2026-01-01 00:00:00"

/-- A name in an expression: what stands in front of its points, and how it is written. -/
structure Name where
  path : List Text := []
  column : Text
  quoted : Bool := false
  double : Bool := false
  deriving DecidableEq, Repr

/-- A name as it shows. -/
def Name.toText (n : Name) : Text := Text.join "." (n.path ++ [n.column])

/-- An expression over a row.  `name`, `call` and `table` stand for what is yet to be found. -/
inductive Expr where
  | datum (d : Datum)
  | name (n : Name)
  | column (c : RowColumn)
  | rowNumber
  | parameter
  | clock (c : Clock)
  | minus (e : Expr)
  | plus (e : Expr)
  | complement (e : Expr)
  | not (e : Expr)
  | and (a b : Expr)
  | or (a b : Expr)
  | compare (c : Comparison) (a b : Expr)
  | same (a b : Expr)
  | isTruth (b : Bool) (e : Expr)
  | among (a : Expr) (items : List Expr)
  | arithmetic (o : Arithmetic) (a b : Expr)
  | remainder (a b : Expr)
  | bitwise (o : Bitwise) (a b : Expr)
  | concat (a b : Expr)
  | choice (condition yes no : Expr)
  | cast (c : Datum.CastType) (e : Expr)
  | collate (e : Expr) (name : Text)
  | call (name : Text) (args : List Expr)
  | apply (f : Function) (args : List Expr)
  | row (items : List Expr)
  | table (name : Text)
  deriving Inhabited, Repr

/-- What names can stand for: the columns of the table of a statement, if it has one, and the
expressions that it gives names to. -/
structure Scope where
  table? : Option Text := none
  named : List (Text × Expr) := []
  deriving Repr

namespace Scope

/-- The names of the number of a row. -/
def rowNumberNames : List String := ["rowid", "oid", "_rowid_"]

/-- What a name without points stands for in the table. -/
def column? (t : Text) : Option Expr :=
  match RowColumn.ofName? t with
  | some c => some (.column c)
  | none => if Token.isOneOf t rowNumberNames then some .rowNumber else none

/-- Whether what stands in front of the points of a name leads to the table. -/
def reaches (s : Scope) (path : List Text) : Bool :=
  match s.table?, path with
  | none, _ => false
  | some _, [] => true
  | some table, [t] => t.folded == table.folded
  | some table, [schema, t] => Token.isOneOf schema ["main"] && t.folded == table.folded
  | _, _ => false

/-- What a name stands for in a statement: a column of the table, else an expression that has it. -/
def named? (s : Scope) (n : Name) : Option Expr :=
  let column? := if s.reaches n.path then column? n.column else none
  if n.path.isEmpty then
    column?.or ((s.named.find? fun p => p.1.folded == n.column.folded).map Prod.snd)
  else column?

/-- The truth value that a name is a word for. -/
def switch? (n : Name) : Option Bool :=
  if n.quoted || !n.path.isEmpty then none
  else if Token.isOneOf n.column ["true"] then some true
  else if Token.isOneOf n.column ["false"] then some false
  else none

/-- What a name stands for: something in the statement, else a truth value or, between double
quotes, a text. -/
def find? (s : Scope) (n : Name) : Option Expr :=
  if n.double && n.path.isEmpty then (s.named? n).or (some (.datum (.text n.column)))
  else (s.named? n).or ((switch? n).map fun b => .datum (.ofTruth (some b)))

end Scope

namespace Expr

/-! ## Names -/

/-- The truth value that an expression is a word for. -/
def switch? (s : Scope) : Expr → Option Bool
  | .name n => if (s.named? n).isSome then none else Scope.switch? n
  | _ => none

mutual

/-- Finds what the names in an expression stand for; one that stands for nothing is an error. -/
def resolve (s : Scope) : Expr → Except Problem Expr
  | .name n => ((s.find? n).map .ok).getD (.error (.noColumn n.toText))
  | .minus e => (e.resolve s).map .minus
  | .plus e => (e.resolve s).map .plus
  | .complement e => (e.resolve s).map .complement
  | .not e => (e.resolve s).map .not
  | .and a b => do return .and (← a.resolve s) (← b.resolve s)
  | .or a b => do return .or (← a.resolve s) (← b.resolve s)
  | .compare c a b => do return .compare c (← a.resolve s) (← b.resolve s)
  | .same a b =>
    match b.switch? s with
    | some t => (a.resolve s).map (.isTruth t)
    | none => do return .same (← a.resolve s) (← b.resolve s)
  | .isTruth t e => (e.resolve s).map (.isTruth t)
  | .among _ [] => .ok (.datum (.ofTruth (some false)))
  | .among a items => do return .among (← a.resolve s) (← resolveAll s items)
  | .arithmetic o a b => do return .arithmetic o (← a.resolve s) (← b.resolve s)
  | .remainder a b => do return .remainder (← a.resolve s) (← b.resolve s)
  | .bitwise o a b => do return .bitwise o (← a.resolve s) (← b.resolve s)
  | .concat a b => do return .concat (← a.resolve s) (← b.resolve s)
  | .choice c a b => do return .choice (← c.resolve s) (← a.resolve s) (← b.resolve s)
  | .cast c e => (e.resolve s).map (.cast c)
  | .collate e t => do
    let e ← e.resolve s
    if (Collation.ofName? t).isNone then throw (.noCollation t)
    return .collate e t
  | .call t args =>
    match Function.ofName? t with
    | none => .error (.noFunction t)
    | some f =>
      if f.takes args.length then (resolveAll s args).map (.apply f)
      else .error (.argumentCount t)
  | .apply f args => (resolveAll s args).map (.apply f)
  | .row items => do
    discard (resolveAll s items)
    throw .rowMisused
  | .table t => .error (.noTable t)
  | e => .ok e

/-- Finds what the names in several expressions stand for. -/
def resolveAll (s : Scope) : List Expr → Except Problem (List Expr)
  | [] => .ok []
  | e :: es => do return (← e.resolve s) :: (← resolveAll s es)

end

/-! ## Parts -/

mutual

/-- What is gathered from an expression, of each part from those that it is made of. -/
def gather {α : Type} (f : Expr → List α → α) : Expr → α
  | e@(.minus a) | e@(.plus a) | e@(.complement a) | e@(.not a) | e@(.isTruth _ a)
  | e@(.cast _ a) | e@(.collate a _) => f e [gather f a]
  | e@(.and a b) | e@(.or a b) | e@(.compare _ a b) | e@(.same a b) | e@(.arithmetic _ a b)
  | e@(.remainder a b) | e@(.bitwise _ a b) | e@(.concat a b) => f e [gather f a, gather f b]
  | e@(.choice c a b) => f e [gather f c, gather f a, gather f b]
  | e@(.among a items) => f e (gather f a :: gatherAll f items)
  | e@(.call _ args) | e@(.apply _ args) | e@(.row args) => f e (gatherAll f args)
  | e => f e []

/-- What is gathered from several expressions. -/
def gatherAll {α : Type} (f : Expr → List α → α) : List Expr → List α
  | [] => []
  | e :: es => gather f e :: gatherAll f es

end

/-- The columns whose values an expression needs. -/
def columns : Expr → List RowColumn :=
  gather fun e parts =>
    match e with
    | .column c => [c]
    | _ => parts.flatten

/-- How many parts an expression has inside one another. -/
def depth : Expr → Nat := gather fun _ parts => 1 + parts.foldl max 0

/-! ## Truth -/

/-- The negation of a truth value. -/
def notTruth (a : Option Bool) : Option Bool := a.map (!·)

/-- The conjunction of two truth values. -/
def andTruth : Option Bool → Option Bool → Option Bool
  | some false, _ | _, some false => some false
  | some true, some true => some true
  | _, _ => none

/-- The disjunction of two truth values. -/
def orTruth : Option Bool → Option Bool → Option Bool
  | some true, _ | _, some true => some true
  | some false, some false => some false
  | _, _ => none

/-! ## Values -/

/-- What an expression makes of values that are compared with it. -/
def affinity : Expr → Datum.Affinity
  | .column (.value .number) | .rowNumber => .numeric
  | .column _ => .text
  | .cast c _ => c.affinity
  | .collate e _ => e.affinity
  | _ => .none

/-- The collation that an expression asks for. -/
def collation? : Expr → Option Collation
  | .collate _ t => Collation.ofName? t
  | .plus e | .cast _ e => e.collation?
  | _ => none

/-- What texts are equal when two expressions are compared. -/
def collationOf (a b : Expr) : Collation := (a.collation?.or b.collation?).getD .binary

/-- Whether two values are in an order. -/
def compareTruth (c : Comparison) (k : Collation) (a b : Datum.Affinity) (x y : Datum) :
    Option Bool :=
  let (x, y) := Datum.align a b x y
  (Datum.compare? k x y).map c.holds

/-- Whether two values are the same, nothing being the same as nothing. -/
def sameTruth (k : Collation) (a b : Datum.Affinity) (x y : Datum) : Bool :=
  let (x, y) := Datum.align a b x y
  match Datum.compare? k x y with
  | some o => o == .eq
  | none => x == .null && y == .null

/-- A row with its number in the table, from 1. -/
structure NumberedRow where
  number : Nat
  row : Row
  deriving DecidableEq, Repr

mutual

/-- The value of an expression at a row. -/
def eval (r : NumberedRow) : Expr → Datum
  | .datum d => d
  | .name _ | .parameter | .call _ _ | .row _ | .table _ => .null
  | .column c => .ofCell (r.row.cell c)
  | .rowNumber => .ofInt r.number
  | .clock c => .text c.toText
  | .minus e => (e.eval r).minus
  | .plus e => e.eval r
  | .complement e => (e.eval r).complement
  | .not e => .ofTruth (notTruth (e.eval r).truth)
  | .and a b => .ofTruth (andTruth (a.eval r).truth (b.eval r).truth)
  | .or a b => .ofTruth (orTruth (a.eval r).truth (b.eval r).truth)
  | .compare c a b =>
    .ofTruth (compareTruth c (collationOf a b) a.affinity b.affinity (a.eval r) (b.eval r))
  | .same a b =>
    .ofTruth (some (sameTruth (collationOf a b) a.affinity b.affinity (a.eval r) (b.eval r)))
  | .isTruth t e => .ofTruth (some ((e.eval r).truth == some t))
  | .among a items =>
    .ofTruth (equalsAny ((a.collation?).getD .binary) a.affinity (a.eval r) r items)
  | .arithmetic o a b => .arithmetic o (a.eval r) (b.eval r)
  | .remainder a b => (a.eval r).remainder (b.eval r)
  | .bitwise o a b => .bitwise o (a.eval r) (b.eval r)
  | .concat a b => (a.eval r).concat (b.eval r)
  | .choice c a b => if (c.eval r).truth = some true then a.eval r else b.eval r
  | .cast c e => (e.eval r).cast c
  | .collate e _ => e.eval r
  | .apply f args => f.apply (evalAll r args)

/-- The values of several expressions at a row. -/
def evalAll (r : NumberedRow) : List Expr → List Datum
  | [] => []
  | e :: es => e.eval r :: evalAll r es

/-- Whether a value equals that of one of several expressions. -/
def equalsAny (k : Collation) (a : Datum.Affinity) (x : Datum) (r : NumberedRow) :
    List Expr → Option Bool
  | [] => some false
  | e :: es => orTruth (compareTruth .eq k a .none x (e.eval r)) (equalsAny k a x r es)

end

/-- Whether a row meets a condition. -/
def holds (e : Expr) (r : NumberedRow) : Bool := (e.eval r).truth == some true

end Expr

end TagFilter.Sql
