import TagFilter.Report.Terminal

/-!
# Consoles

A console is where reports go: an output mode, and whether it is a terminal.  Reports are values of
`Output`, the text for the output and the text for the errors, put together with `++`.

A styled line has its tabs spread to four blanks.  On a terminal the lines of one message are also
filled up with blanks to a common width.
-/

namespace TagFilter

/-- How reports are laid out. -/
inductive OutputMode where
  | auto
  | text
  | markdown
  | json
  | csv
  | xml
  deriving DecidableEq, Repr

namespace OutputMode

/-- The name of a mode. -/
def name : OutputMode → String
  | auto => "auto"
  | text => "text"
  | markdown => "md"
  | json => "json"
  | csv => "csv"
  | xml => "xml"

/-- The modes with every name they go by. -/
def names : List (String × OutputMode) :=
  [("auto", auto), ("text", text), ("md", markdown), ("markdown", markdown), ("json", json),
   ("csv", csv), ("xml", xml)]

/-- The mode of a name, whatever its letter case; any other name means `auto`. -/
def ofName (t : Text) : OutputMode :=
  ((names.find? fun n => (n.1 : Text) == t.toLower).map Prod.snd).getD auto

end OutputMode

/-- What goes to the output and what goes to the errors. -/
structure Output where
  out : Text := []
  err : Text := []
  deriving DecidableEq, Repr

namespace Output

instance : Append Output := ⟨fun a b => ⟨a.out ++ b.out, a.err ++ b.err⟩⟩

/-- Text for the output. -/
def print (t : Text) : Output := ⟨t, []⟩

/-- A line for the output. -/
def line (t : Text) : Output := ⟨t ++ "\n", []⟩

/-- A line for the errors. -/
def errorLine (t : Text) : Output := ⟨[], t ++ "\n"⟩

/-- Several outputs in order. -/
def concat (os : List Output) : Output := os.foldr (· ++ ·) {}

end Output

/-- A mode, and whether the output is a terminal. -/
structure Console where
  mode : OutputMode
  terminal : Bool := false
  deriving DecidableEq, Repr

namespace Console

/-- The mode that counts: `auto` is text on a terminal and markdown elsewhere. -/
def effectiveMode (c : Console) : OutputMode :=
  match c.mode with
  | .auto => if c.terminal then .text else .markdown
  | mode => mode

/-! ## Styled lines -/

/-- The text with tabs spread to four blanks. -/
def expandTabs (t : Text) : Text := t.replaceByte (byte '\t') "    "

/-- The lines filled up with blanks to the width of the widest. -/
def fill (lines : List Text) : List Text :=
  let widest := (lines.map Terminal.width).foldl max 0
  lines.map fun l => l ++ List.replicate (widest - Terminal.width l) (byte ' ')

/-- The text with every carriage return before a newline left out. -/
def joinBreaks : Text → Text
  | [] => []
  | b :: rest =>
    if b = byte '\r' ∧ rest.head? = some (byte '\n') then joinBreaks rest else b :: joinBreaks rest

/-- A message as it shows. -/
def style (c : Console) (message : Text) : Text :=
  let message := expandTabs message
  if c.terminal then
    Text.join "\n" (fill ((joinBreaks message).splitOn (byte '\n')))
  else message

/-! ## Messages -/

/-- A heading in markdown. -/
def heading (level : Int) (text : Text) : Text :=
  List.replicate (max level 1).toNat (byte '#') ++ " " ++ text

/-- A named value in markdown. -/
def keyValue (key value : Text) : Text := "**" ++ key ++ ":** " ++ value

/-- A block of code in markdown; newlines at its end are left out. -/
def codeBlock (language code : Text) : Text :=
  "```" ++ language ++ "\n" ++ (code.reverse.dropWhile (· == byte '\n')).reverse ++ "\n```"

/-- A heading: a line of its own in text, markdown in every other mode. -/
def header (c : Console) (level : Int) (text : Text) : Output :=
  .line (if c.effectiveMode = .text then c.style text else heading level text)

/-- A line that says that something worked. -/
def success (c : Console) (message : Text) : Output := .line (c.style ("✓ " ++ message))

/-- A line that says that something did not work. -/
def failure (c : Console) (message : Text) : Output := .errorLine (c.style ("✗ " ++ message))

/-- A line that matters less. -/
def muted (c : Console) (message : Text) : Output := .line (c.style message)

end Console

end TagFilter
