import TagFilter.Predicate
import TagFilter.Report.Table
import TagFilter.Text.Blank
import TagFilter.Tree.Parse

/-!
# Batches

A batch is a text with one expression a line.  Blank lines and lines that start with `#` are left
out, and every other line is rendered by itself: the result of a line hangs on no other line, so the
results are the same in whatever order the lines are compiled.
-/

namespace TagFilter.Batch

/-- An expression of a batch, with the number of its line. -/
structure Item where
  line : Nat
  expression : Text
  deriving DecidableEq, Repr

/-- An expression of a batch with its statement, or why it has none. -/
structure Result extends Item where
  outcome : Except CompileError Text

/-- A batch with a line that is too long. -/
inductive ReadError where
  | lineTooLong
  deriving DecidableEq, Repr

/-- The error in words. -/
def ReadError.message : ReadError → Text
  | lineTooLong => "bufio.Scanner: token too long"

/-- The number of bytes that a line must stay below. -/
def lineLimit : Nat := 65536

/-- The lines of a text; a newline at its end starts no line. -/
def lines (t : Text) : List Text :=
  let ls := t.splitOn (byte '\n')
  if ls.getLast? = some [] then ls.dropLast else ls

/-- Whether a line holds an expression. -/
def isExpression (line : Text) : Bool := !line.isEmpty && line.head? != some (byte '#')

/-- The expressions of lines, of which the first one has a number. -/
def itemsFrom (number : Nat) : List Text → List Item
  | [] => []
  | line :: rest =>
    let text := line.trim
    if isExpression text then ⟨number, text⟩ :: itemsFrom (number + 1) rest
    else itemsFrom (number + 1) rest

/-- The expressions of a batch. -/
def read (t : Text) : Except ReadError (List Item) :=
  let ls := lines t
  if ls.any fun l => decide (lineLimit ≤ l.length) then .error .lineTooLong
  else .ok (itemsFrom 1 ls)

/-- Renders an expression. -/
def renderItem (s : Sniffer) (statement : Text) (item : Item) : Result :=
  { item with outcome := (compile item.expression).map (s.render statement) }

/-- Renders expressions. -/
def render (s : Sniffer) (statement : Text) (items : List Item) : List Result :=
  items.map (renderItem s statement)

namespace Result

/-- The statement, empty if there is none. -/
def sql (r : Result) : Text := r.outcome.toOption.getD []

/-- Why there is no statement, empty if there is one. -/
def problem (r : Result) : Text :=
  match r.outcome with
  | .ok _ => []
  | .error e => e.message

/-- Whether there is no statement. -/
def failed (r : Result) : Bool := !r.problem.isEmpty

/-- The result as JSON, without what is empty. -/
def toJson (r : Result) : Json :=
  let sql : List (Text × Json) := if r.sql.isEmpty then [] else [("sql", .str r.sql)]
  let problem : List (Text × Json) :=
    if r.problem.isEmpty then [] else [("error", .str r.problem)]
  .obj (("line", .num r.line) :: ("expression", .str r.expression) :: (sql ++ problem))

/-- The result as a row of a table. -/
def cells (r : Result) : List Cell :=
  [.int r.line, .text r.expression, .text r.sql, .text r.problem]

/-- The result as a line of its own. -/
def toOutput (c : Console) (r : Result) : Output :=
  match r.outcome with
  | .ok sql => .line sql
  | .error e => c.failure ("line " ++ Text.ofNat r.line ++ ": " ++ e.message)

end Result

/-- The results in the console's mode. -/
def report (c : Console) (results : List Result) : Output :=
  match c.effectiveMode with
  | .json => .print (Json.arr (results.map Result.toJson)).write
  | .text => .concat (results.map (Result.toOutput c))
  | _ => c.table ⟨["line", "expression", "sql", "error"], results.map Result.cells⟩

/-- The number of results without a statement. -/
def failures (results : List Result) : Nat := results.countP Result.failed

/-- What to say of a batch in which expressions failed. -/
def failureMessage (results : List Result) : Text :=
  Text.ofNat (failures results) ++ " of " ++ Text.ofNat results.length ++ " expressions failed"

end TagFilter.Batch
