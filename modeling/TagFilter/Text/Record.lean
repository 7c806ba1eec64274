import TagFilter.Text.Utf8

/-!
# Records

A record is a line of fields with commas between them.  A field may stand between double quotes;
then commas and newlines in it are its own, and a quote is written twice.  `Text.toRecord` reads the
first line that is not empty.
-/

namespace TagFilter

/-- What is wrong with a field. -/
inductive FieldProblem where
  | bareQuote
  | looseQuote
  deriving DecidableEq, Repr

/-- The problem in words. -/
def FieldProblem.message : FieldProblem → String
  | bareQuote => "bare \" in non-quoted-field"
  | looseQuote => "extraneous or missing \" in quoted-field"

/-- Why a text holds no record: there is nothing in it, or a field is wrong.  Lines and columns
count from one, and `first` is the line on which the record starts. -/
inductive RecordError where
  | nothing
  | field (first line column : Nat) (problem : FieldProblem)
  deriving DecidableEq, Repr

/-- The error in words. -/
def RecordError.message : RecordError → Text
  | nothing => "EOF"
  | field first line column problem =>
    let record : Text := if first = line then [] else "record on line " ++ Text.ofNat first ++ "; "
    record ++ "parse error on line " ++ Text.ofNat line ++ ", column " ++ Text.ofNat column ++
      ": " ++ problem.message

namespace Record

/-- Where the reading of a field stands. -/
inductive Mode where
  /-- Nothing of the field has been read. -/
  | start
  /-- The field has no quotes around it. -/
  | plain
  /-- The quote in front has been read. -/
  | quoted
  /-- The quote at the end has been read, unless another one follows it. -/
  | closed
  deriving DecidableEq, Repr

/-- The byte between fields. -/
def comma : UInt8 := byte ','

/-- The byte around fields. -/
def quote : UInt8 := byte '"'

/-- The byte that ends a record. -/
def newline : UInt8 := byte '\n'

/-- Reads fields of a record that starts on line `first`, of which `field` has been read. -/
def fields (first : Nat) (mode : Mode) (line column : Nat) (field : Text) :
    Text → Except RecordError (List Text)
  | [] => if mode = .quoted then .error (.field first line column .looseQuote) else .ok [field]
  | b :: rest =>
    match mode with
    | .quoted =>
      if b = quote then fields first .closed line (column + 1) field rest
      else if b = newline ∧ rest ≠ [] then fields first .quoted (line + 1) 1 (field ++ [b]) rest
      else fields first .quoted line (column + 1) (field ++ [b]) rest
    | mode =>
      if b = newline then .ok [field]
      else if b = comma then (fields first .start line (column + 1) [] rest).map (field :: ·)
      else if mode = .closed then
        if b = quote then fields first .quoted line (column + 1) (field ++ [b]) rest
        else .error (.field first line (column - 1) .looseQuote)
      else if b = quote then
        if mode = .start then fields first .quoted line (column + 1) [] rest
        else .error (.field first line column .bareQuote)
      else fields first .plain line (column + 1) (field ++ [b]) rest

/-- The text with a newline for every carriage return and newline, and without a carriage return at
its end. -/
def joinBreaks : Text → Text
  | [] => []
  | b :: rest =>
    if b = byte '\r' ∧ (rest.isEmpty ∨ rest.head? = some newline) then joinBreaks rest
    else b :: joinBreaks rest

end Record

/-- The fields of the first record of a text. -/
def Text.toRecord (t : Text) : Except RecordError (List Text) :=
  let text := Record.joinBreaks t
  let blank := text.takeWhile (· == Record.newline)
  let rest := text.drop blank.length
  if rest.isEmpty then .error .nothing
  else Record.fields (blank.length + 1) .start (blank.length + 1) 1 [] rest

end TagFilter
