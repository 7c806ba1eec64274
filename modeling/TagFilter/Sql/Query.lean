import TagFilter.Sql.Select

/-!
# Queries

`Select.resolve` finds what the names of a statement stand for and makes it a `Query`, and
`Query.run` applies that to the rows of the tag table.  The tag table has an index of its names and
one of its entries; the order in which rows are found depends on which of them a condition can use.
-/

namespace TagFilter.Sql

/-! ## Names -/

/-- A statement whose names have been found: each column that it shows, under its name. -/
structure Query where
  distinct : Bool
  columns : List (Text × Expr)
  condition : Expr
  deriving Repr

/-- The columns of the tag table. -/
def allColumns : List (Text × Expr) := RowColumn.all.map fun c => (Text.ofString c.label, .column c)

/-- The name under which an expression shows that is given none. -/
def shownName (written : Text) : Expr → Text
  | .column c => c.label
  | .rowNumber => "rowid"
  | _ => written

namespace Shown

/-- The columns of something that a statement shows. -/
def columns (s : Scope) : Shown → Except Problem (List (Text × Expr))
  | all => if s.table?.isSome then .ok allColumns else .error .noTables
  | allOf table => if s.reaches [table] then .ok allColumns else .error (.noTable table)
  | expr name? written e => do
    let e ← e.resolve s
    return [(name?.getD (shownName written e), e)]

/-- The columns of what a statement shows. -/
def allColumns (s : Scope) : List Shown → Except Problem (List (Text × Expr))
  | [] => .ok []
  | c :: cs => do return (← c.columns s) ++ (← allColumns s cs)

/-- The expressions of a statement that are given names. -/
def named (s : Scope) : List Shown → Except Problem (List (Text × Expr))
  | [] => .ok []
  | expr (some name) _ e :: cs => do return (name, ← e.resolve s) :: (← named s cs)
  | _ :: cs => named s cs

end Shown

/-- Finds the table and the columns that a statement names. -/
def Select.resolve (s : Select) (tables : List Text) : Except Problem Query := do
  match s.source? with
  | some source => if !tables.elem source.table.folded then throw (.noTable source.table)
  | none => pure ()
  let scope : Scope := ⟨s.source?.map fun source => source.name?.getD source.table, []⟩
  let columns ← Shown.allColumns scope s.shown
  let named ← Shown.named scope s.shown
  return ⟨s.distinct, columns, ← s.condition.resolve { scope with named }⟩

/-! ## Running -/

namespace Query

/-- The entries and names that a condition asks for, each of which an index finds. -/
def keys : Expr → List (RowColumn × Datum)
  | .compare .eq (.column .name) (.datum d) => [(.name, d)]
  | .compare .eq (.column .entry) (.datum d) => [(.entry, d)]
  | .and a b => keys a ++ keys b
  | _ => []

/-- The conditions of which one has to hold. -/
def alternatives : Expr → List Expr
  | .or a b => alternatives a ++ alternatives b
  | e => [e]

/-- The column that a condition asks for and nothing else. -/
def onlyKey? : Expr → Option RowColumn
  | .compare .eq (.column .name) (.datum _) => some .name
  | .compare .eq (.column .entry) (.datum _) => some .entry
  | _ => none

/-- The column that all of several conditions ask for and nothing else. -/
def sharedColumn? (conditions : List Expr) : Option RowColumn := do
  let column ← conditions.head?.bind onlyKey?
  if conditions.all fun c => onlyKey? c == some column then some column else none

/-- Whether two conditions ask for the same entry or name. -/
def shareKey : List Expr → Bool
  | [a, b] => (keys a).any fun k => (keys b).contains k
  | _ => false

/-- The rows that meet one of several conditions: those of an earlier one come first. -/
def matchingAny (rows : List Expr.NumberedRow) : List Expr → List Expr.NumberedRow
  | [] => []
  | c :: cs => rows.filter c.holds ++ matchingAny (rows.filter fun r => !c.holds r) cs

/-- The text of a row in a column, by which an index sorts. -/
def keyText (c : RowColumn) (r : Expr.NumberedRow) : Text :=
  ((Datum.ofCell (r.row.cell c)).toText?).getD []

/-- The rows in the order of an index. -/
def sortedBy (c : RowColumn) (rows : List Expr.NumberedRow) : List Expr.NumberedRow :=
  rows.mergeSort fun r q => Text.le (keyText c r) (keyText c q)

/-- The column with an index that is all a statement needs. -/
def coveringColumn? (q : Query) : Option RowColumn :=
  let needed := (q.condition :: q.columns.map Prod.snd).flatMap Expr.columns
  if needed.isEmpty then none
  else [RowColumn.name, RowColumn.entry].find? fun c => needed.all (· == c)

/-- The rows that meet the condition of a statement, in the order in which they are found.  A key is
looked up in its index, which keeps the order of the table; alternatives that only name a key are
looked up in the order of the keys, and others that have different keys one after the other.
Without a key all rows are gone through, in the order of the table or of an index that is enough. -/
def matching (q : Query) (rows : List Expr.NumberedRow) : List Expr.NumberedRow :=
  let found := rows.filter q.condition.holds
  let conditions := alternatives q.condition
  if conditions.any fun c => (keys c).isEmpty then
    (q.coveringColumn?.map fun c => sortedBy c found).getD found
  else
    match sharedColumn? conditions with
    | some c => sortedBy c found
    | none => if shareKey conditions then found else matchingAny rows conditions

/-- The rows with their numbers. -/
def numbered (rows : List Row) : List Expr.NumberedRow := rows.zipIdx.map fun (r, i) => ⟨i + 1, r⟩

/-- The table that a statement shows. -/
def run (q : Query) (rows : List Row) : Table :=
  let shown := (q.matching (numbered rows)).map fun r =>
    q.columns.map fun (_, e) => (e.eval r).toCell
  ⟨q.columns.map Prod.fst, if q.distinct then shown.eraseDups else shown⟩

end Query

end TagFilter.Sql
