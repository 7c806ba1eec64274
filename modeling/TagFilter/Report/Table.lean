import TagFilter.Json
import TagFilter.Report.Console
import TagFilter.Text.Width

/-!
# Tables

`Console.table` lays out columns and rows in the console's mode: a markdown table, comma-separated
lines, a frame of box-drawing characters, or a JSON array with one object a row.
-/

namespace TagFilter

/-- A value in a table. -/
inductive Cell where
  | null
  | text (t : Text)
  | int (n : Int)
  | bool (b : Bool)
  deriving DecidableEq, Repr

namespace Cell

/-- A value as it shows. -/
def toText : Cell → Text
  | null => "NULL"
  | text t => t
  | int n => Text.ofInt n
  | bool b => if b then "true" else "false"

/-- A value as JSON. -/
def toJson : Cell → Json
  | null => .null
  | text t => .str t
  | int n => .num n
  | bool b => .bool b

end Cell

/-- Columns and rows of values. -/
structure Table where
  columns : List Text
  rows : List (List Cell)
  deriving DecidableEq, Repr

namespace Table

/-- A row brought to the number of columns: missing values are null. -/
def fit : List Text → List Cell → List Cell
  | [], _ => []
  | _ :: columns, [] => .null :: fit columns []
  | _ :: columns, cell :: cells => cell :: fit columns cells

/-- A text in one cell: tabs are four blanks and carriage returns are left out. -/
def cellText (t : Text) : Text :=
  (t.replaceByte (byte '\t') "    ").filter (· != byte '\r')

/-- The texts of the header. -/
def header (t : Table) : List Text := t.columns.map cellText

/-- The texts of the rows. -/
def body (t : Table) : List (List Text) :=
  t.rows.map fun row => (fit t.columns row).map fun cell => cellText cell.toText

/-! ## JSON -/

/-- Puts a member into an object whose keys are in order; an earlier one of that key gives way. -/
def insertMember (key : Text) (value : Json) : List (Text × Json) → List (Text × Json)
  | [] => [(key, value)]
  | (k, v) :: members =>
    if k = key then (key, value) :: members
    else if Text.le key k then (key, value) :: (k, v) :: members
    else (k, v) :: insertMember key value members

/-- An object with its keys in order; of several values for a key the last one counts. -/
def sortedObject (members : List (Text × Json)) : Json :=
  .obj (members.foldl (fun sorted (key, value) => insertMember key value sorted) [])

/-- The rows as JSON objects. -/
def toJson (t : Table) : Json :=
  .arr (t.rows.map fun row =>
    sortedObject (t.columns.zip ((fit t.columns row).map Cell.toJson)))

/-! ## Markdown -/

/-- A text in a markdown table. -/
def markdownCell (t : Text) : Text :=
  (t.replaceByte (byte '|') "\\|").replaceByte (byte '\n') "<br/>"

/-- A line of a markdown table. -/
def markdownLine (cells : List Text) : Text :=
  "|" ++ (cells.map fun c => (" " ++ c ++ " |" : Text)).flatten ++ "\n"

/-- The table in markdown. -/
def toMarkdown (t : Table) : Text :=
  if t.columns.isEmpty then []
  else
    markdownLine (t.header.map markdownCell) ++ markdownLine (t.columns.map fun _ => "---") ++
      t.body.flatMap fun row => markdownLine (row.map markdownCell)

/-! ## Comma-separated values -/

/-- A text between commas. -/
def csvCell (t : Text) : Text :=
  if t.any fun b => b == byte '"' || b == byte ',' || b == byte '\n' then
    "\"" ++ (t.replaceByte (byte '"') "\\\"").replaceByte (byte ',') "\\," ++ "\""
  else t

/-- Adds a line to what stands before it, if anything does. -/
def addLine (before line : Text) : Text := if before.isEmpty then line else before ++ "\n" ++ line

/-- The table as comma-separated values. -/
def toCsv (t : Table) : Text :=
  if t.columns.isEmpty then []
  else
    let lines := (t.header :: t.body).map fun row => Text.join "," (row.map csvCell)
    let text := lines.foldl addLine []
    if text.isEmpty then [] else text ++ "\n"

/-! ## Frames -/

/-- Where a text stands with respect to escape sequences: outside, just after an escape, or in a
sequence up to a character. -/
inductive Sequence where
  | outside
  | opened
  | upTo (last : Char)

/-- The characters of a text, each with whether it shows: those of an escape sequence do not. -/
def showing (s : Sequence) : List Char → List (Char × Bool)
  | [] => []
  | c :: rest =>
    match s with
    | .outside => if c.toNat = 27 then (c, false) :: showing .opened rest
      else (c, true) :: showing .outside rest
    | .opened =>
      let s := if c = '[' then .upTo 'm' else if c = ']' then .upTo '\\' else .opened
      (c, false) :: showing s rest
    | .upTo last => (c, false) :: showing (if c = last then .outside else s) rest

/-- The columns that a line takes in a cell. -/
def lineWidth (line : Text) : Nat :=
  (showing .outside line.decode).foldl (fun n p => if p.2 then n + Text.columns p.1 else n) 0

/-- A line in upper case, but for its escape sequences, which here go up to the next `m`; `escaped`
says that the line starts in one. -/
def upperCase (escaped : Bool) : List Char → List Char
  | [] => []
  | c :: rest =>
    let escaped := escaped || c.toNat == 27
    (if escaped then c else Text.upperChar c) :: upperCase (escaped && c != 'm') rest

/-- A line of the header as it shows. -/
def headerLine (line : Text) : Text := Text.encode (upperCase false line.decode)

/-- The lines of a cell. -/
def cellLines (t : Text) : List Text := t.splitOn (byte '\n')

/-- The columns of the widest line of a cell; a line break in an escape sequence does not count. -/
def cellWidth (t : Text) : Nat :=
  let (widest, last) := (showing .outside t.decode).foldl (fun (widest, n) (c, shows) =>
    if !shows then (widest, n)
    else if c = '\n' then (max widest n, 0)
    else (widest, n + Text.columns c)) (0, 0)
  max widest last

/-- The widths of columns: of each, the widest cell. -/
def widths : List (List Text) → List Nat
  | [] => []
  | [row] => row.map cellWidth
  | row :: rows => (row.map cellWidth).zipWith max (widths rows)

/-- A line of a cell filled up to a width; blanks at its end do not count. -/
def padLine (width : Nat) (line : Text) : Text :=
  let line : Text := (line.reverse.dropWhile (· == byte ' ')).reverse
  line ++ List.replicate (width - lineWidth line) (byte ' ')

/-- A horizontal line of a frame. -/
def rule (left middle right : String) (widths : List Nat) : Text :=
  left ++ Text.join middle (widths.map fun w => Text.replicate (w + 2) "─") ++ right ++ "\n"

/-- The lines of a row in a frame, as `shown` makes them; cells start at the top. -/
def framedRow (widths : List Nat) (shown : Text → Text) (row : List Text) : Text :=
  let height := ((row.map fun c => (cellLines c).length).foldl max 1)
  (List.range height).flatMap fun i =>
    "│" ++ Text.join "│" ((widths.zip row).map fun (w, c) =>
      " " ++ padLine w (shown (((cellLines c)[i]?).getD [])) ++ " ") ++ "│\n"

/-- The table in a frame.  The header is in upper case, but takes the room of its own letters. -/
def toFrame (t : Table) : Text :=
  if t.columns.isEmpty then []
  else
    let widths := widths (t.header :: t.body)
    rule "┌" "┬" "┐" widths ++ framedRow widths headerLine t.header ++ rule "├" "┼" "┤" widths ++
      t.body.flatMap (framedRow widths id) ++ rule "└" "┴" "┘" widths

end Table

/-- A table in the console's mode. -/
def Console.table (c : Console) (t : Table) : Output :=
  match c.effectiveMode with
  | .json => .print t.toJson.write
  | .csv => .print t.toCsv
  | mode =>
    if t.rows.isEmpty then .line "(0 rows)"
    else if mode = .markdown then .print t.toMarkdown
    else .print (t.toFrame ++ "(" ++ Text.ofNat t.rows.length ++ " rows)\n")

end TagFilter
