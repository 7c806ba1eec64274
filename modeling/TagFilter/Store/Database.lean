import TagFilter.Sql.Statement

/-!
# Databases

A database holds the tag table once it has been migrated.  `Database.toText` is what a database file
holds: a heading, and one line a row with tabs between the columns.  Nothing is `\N`, and tabs,
newlines and backslashes inside a text are escaped, so that `Database.ofText?` reads the rows back.
An empty file is an empty database.
-/

namespace TagFilter

/-- The tag table, if it has been made. -/
structure Database where
  migrated : Bool := false
  rows : List Row := []
  deriving DecidableEq, Repr

namespace Database

/-- The version of the schema. -/
def version (d : Database) : Nat := if d.migrated then 1 else 0

/-- Makes the tag table, unless it is there. -/
def migrate (d : Database) : Database := { d with migrated := true }

/-- The tables that statements can name. -/
def tables (d : Database) : List Text := if d.migrated then ["entry_tags"] else []

/-- The problem that the tag table is not there. -/
def noTable : Sql.Failure := .problem (.noTable "entry_tags")

/-- Adds a row to the tag table. -/
def insert (d : Database) (r : Row) : Except Sql.Failure Database :=
  if d.migrated then .ok { d with rows := d.rows ++ [r] } else .error noTable

/-- Runs statements that select. -/
def select (d : Database) (statements : Text) : Except Sql.Failure Table :=
  Sql.select d.tables d.rows statements

/-! ## Files -/

/-- How a byte stands in a column. -/
def escapeByte (b : UInt8) : Text :=
  if b = byte '\\' then "\\\\"
  else if b = byte '\t' then "\\t"
  else if b = byte '\n' then "\\n"
  else [b]

/-- A text in a column. -/
def escape (t : Text) : Text := t.flatMap escapeByte

/-- The byte that a letter after a backslash stands for. -/
def unescapeByte? (b : UInt8) : Option UInt8 :=
  if b = byte '\\' then some (byte '\\')
  else if b = byte 't' then some (byte '\t')
  else if b = byte 'n' then some (byte '\n')
  else none

/-- The text of a column. -/
def unescape? : Text → Option Text
  | [] => some []
  | [b] => if b = byte '\\' then none else some [b]
  | b :: c :: rest =>
    if b = byte '\\' then do
      let d ← unescapeByte? c
      return d :: (← unescape? rest)
    else do return b :: (← unescape? (c :: rest))

/-- What stands for nothing. -/
def nothing : Text := "\\N"

/-- The columns of a row as texts. -/
def rowFields (r : Row) : List Text :=
  [escape r.entry, escape r.name, r.values.text?.elim nothing escape,
    r.values.number?.elim nothing Text.ofInt, r.values.date?.elim nothing escape]

/-- The line of a row. -/
def rowLine (r : Row) : Text := Text.join "\t" (rowFields r) ++ "\n"

/-- Reads the text of a column that may hold nothing. -/
def held? {α : Type} (read? : Text → Option α) (t : Text) : Option (Option α) :=
  if t = nothing then some none else (read? t).map some

/-- The row of the texts of its columns. -/
def rowOfFields? : List Text → Option Row
  | [entry, name, text, number, date] => do
    let entry ← unescape? entry
    let name ← unescape? name
    let text? ← held? unescape? text
    let number? ← held? (·.toInteger.toOption) number
    let date? ← held? unescape? date
    return ⟨entry, name, text?, number?, date?⟩
  | _ => none

/-- The heading of a database file without and with the tag table. -/
def heading (migrated : Bool) : Text := if migrated then "tag table 1" else "tag table 0"

/-- What a database file holds. -/
def toText (d : Database) : Text := heading d.migrated ++ "\n" ++ d.rows.flatMap rowLine

/-- The rows of lines, of which the last one is empty. -/
def rowsOfLines? : List Text → Option (List Row)
  | [] => none
  | [last] => if last.isEmpty then some [] else none
  | line :: lines => do
    return (← rowOfFields? (line.splitOn (byte '\t'))) :: (← rowsOfLines? lines)

/-- The database in a file. -/
def ofText? (t : Text) : Option Database :=
  if t.isEmpty then some {}
  else
    match t.splitOn (byte '\n') with
    | first :: lines =>
      if first = heading true then (rowsOfLines? lines).map fun rows => ⟨true, rows⟩
      else if first = heading false then (rowsOfLines? lines).map fun rows => ⟨false, rows⟩
      else none
    | [] => none

end Database

end TagFilter
