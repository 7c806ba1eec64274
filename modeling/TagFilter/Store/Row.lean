import TagFilter.Column
import TagFilter.Report.Table
import TagFilter.Text.Integer

/-!
# Rows of the tag table

A row says that an entry has a tag of some name with a value.  It has three value columns, and each
may hold something or nothing.  `NewTag.row` fills the one that a tag asks for.
-/

namespace TagFilter

/-- What the value columns of a row hold. -/
structure RowValues where
  text? : Option Text := none
  number? : Option Int := none
  date? : Option Text := none
  deriving DecidableEq, Repr

/-- A row of the tag table. -/
structure Row where
  entry : Text
  name : Text
  values : RowValues
  deriving DecidableEq, Repr

/-- The columns of the tag table. -/
inductive RowColumn where
  | entry
  | name
  | value (c : Column)
  deriving DecidableEq, Repr

namespace RowColumn

/-- The columns in their order. -/
def all : List RowColumn := [entry, name, value .text, value .number, value .date]

/-- The name of a column. -/
def label : RowColumn → String
  | entry => "entry_id"
  | name => "name"
  | value c => c.name

/-- The column of a name, whatever the case of its ASCII letters. -/
def ofName? (t : Text) : Option RowColumn := all.find? fun c => (c.label : Text) == t.folded

end RowColumn

/-- What a value column holds. -/
def RowValues.cell (v : RowValues) : Column → Cell
  | .text => v.text?.elim .null .text
  | .number => v.number?.elim .null .int
  | .date => v.date?.elim .null .text

namespace Row

/-- What a row holds in a column. -/
def cell (r : Row) : RowColumn → Cell
  | .entry => .text r.entry
  | .name => .text r.name
  | .value c => r.values.cell c

/-- What a row holds in all columns. -/
def cells (r : Row) : List Cell := RowColumn.all.map r.cell

end Row

/-! ## Tags to be stored -/

/-- A tag to be stored: the value is still a text, and the column still a name. -/
structure NewTag where
  entry : Text
  name : Text
  column : Text
  value : Text
  deriving DecidableEq, Repr

/-- Why a tag cannot be stored. -/
inductive TagProblem where
  | incomplete
  | notInteger (name value : Text) (problem : NumberProblem)
  | unknownColumn (name column : Text)
  deriving DecidableEq, Repr

/-- The problem in words. -/
def TagProblem.message : TagProblem → Text
  | incomplete => "tag needs an entry id and a name"
  | notInteger name value problem =>
    "tag " ++ name ++ ": " ++ value.quoted ++ " is not an integer: strconv.ParseInt: parsing " ++
      value.quoted ++ ": " ++ problem.message
  | unknownColumn name column => "tag " ++ name ++ ": unknown value column " ++ column.quoted

namespace NewTag

/-- The value columns of a tag. -/
def values (t : NewTag) : Except TagProblem RowValues :=
  if t.column = Column.text.name then .ok { text? := some t.value }
  else if t.column = Column.date.name then .ok { date? := some t.value }
  else if t.column = Column.number.name then
    (t.value.toInteger.map fun n => { number? := some n }).mapError (.notInteger t.name t.value)
  else .error (.unknownColumn t.name t.column)

/-- The row of a tag. -/
def row (t : NewTag) : Except TagProblem Row :=
  if t.entry.isEmpty ∨ t.name.isEmpty then .error .incomplete
  else t.values.map fun values => ⟨t.entry, t.name, values⟩

end NewTag

end TagFilter
