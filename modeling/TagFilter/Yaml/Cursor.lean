import TagFilter.Yaml.Basic

/-!
# Places in a YAML document

A `Mark` is a place in a document and a `Cursor` a place with the characters that follow it.  Lines
end with a newline, a return or one of three further characters.
-/

namespace TagFilter.Yaml

/-- A place in a document: the characters before it, its line and its column, all from 0. -/
structure Mark where
  index : Nat := 0
  line : Nat := 0
  col : Nat := 0
  deriving DecidableEq, Repr

/-- A place in a document, with what follows it. -/
structure Cursor extends Mark where
  rest : List Char
  deriving DecidableEq, Repr

/-! ## Characters -/

/-- Whether a character is a blank within a line. -/
def isBlank (c : Char) : Bool := c == ' ' || c == '\t'

/-- Whether a character ends a line. -/
def isBreak (c : Char) : Bool :=
  c == '\n' || c == '\r' || c.toNat == 0x85 || c.toNat == 0x2028 || c.toNat == 0x2029

/-- What a line break stands for in a scalar: a newline, unless it separates lines or paragraphs. -/
def breakChar (c : Char) : Char := if c.toNat == 0x2028 || c.toNat == 0x2029 then c else '\n'

/-- Whether a word ends before these characters. -/
def endsWord : List Char → Bool
  | [] => true
  | c :: _ => isBlank c || isBreak c

/-- Whether a character may stand in a name. -/
def isNameChar (c : Char) : Bool := c.isAlphanum || c == '_' || c == '-'

/-- Whether a document may hold a character. -/
def isAllowed (c : Char) : Bool :=
  let n := c.toNat
  n == 9 || n == 10 || n == 13 || (32 ≤ n && n ≤ 126) || n == 0x85 || (0xA0 ≤ n && n ≤ 0xFFFD) ||
    0x10000 ≤ n

/-- The value of a hexadecimal digit. -/
def hexValue? (c : Char) : Option Nat :=
  if '0' ≤ c ∧ c ≤ '9' then some (c.toNat - 48)
  else if 'a' ≤ c ∧ c ≤ 'f' then some (c.toNat - 87)
  else if 'A' ≤ c ∧ c ≤ 'F' then some (c.toNat - 55)
  else none

/-- The number written in hexadecimal digits. -/
def hexNumber? (cs : List Char) : Option Nat :=
  cs.foldl (fun n c => do return 16 * (← n) + (← hexValue? c)) (some 0)

/-! ## Moving -/

namespace Mark

/-- The place behind a character within a line. -/
def right (m : Mark) : Mark := ⟨m.index + 1, m.line, m.col + 1⟩

/-- The place behind a line break. -/
def down (m : Mark) : Mark := ⟨m.index + 1, m.line + 1, 0⟩

/-- The place behind a character. -/
def past (m : Mark) (c : Char) : Mark := if isBreak c then m.down else m.right

/-- Whether characters at a place start a line with three copies of one and nothing right behind. -/
def startsTriple (m : Mark) (c : Char) (rest : List Char) : Bool :=
  m.col == 0 && rest.take 3 == [c, c, c] && endsWord (rest.drop 3)

/-- Whether characters at a place mark the start or the end of a document. -/
def startsMarker (m : Mark) (rest : List Char) : Bool :=
  m.startsTriple '-' rest || m.startsTriple '.' rest

end Mark

namespace Cursor

/-- Moves past one character. -/
def advance (c : Cursor) : Cursor :=
  match c.rest with
  | [] => c
  | ch :: rest => ⟨c.toMark.past ch, rest⟩

/-- Moves past `n` characters. -/
def forward (c : Cursor) (n : Nat) : Cursor := n.repeat advance c

/-- Moves past the characters that are of a kind. -/
def skipWhile (c : Cursor) (p : Char → Bool) : Cursor := c.forward (c.rest.takeWhile p).length

/-- Moves past the blanks of a line. -/
def skipBlanks (c : Cursor) : Cursor := c.skipWhile isBlank

/-- Moves to the end of a line. -/
def skipLine (c : Cursor) : Cursor := c.skipWhile fun ch => !isBreak ch

/-- Whether a character follows. -/
def startsWith (c : Cursor) (ch : Char) : Bool := c.rest.head? == some ch

/-- Whether a line break follows. -/
def atBreak (c : Cursor) : Bool := (c.rest.head?.map isBreak).getD false

/-- Whether a blank follows. -/
def atBlank (c : Cursor) : Bool := (c.rest.head?.map isBlank).getD false

end Cursor

/-! ## Problems -/

/-- A problem found while characters are read: it belongs to the line where the reading started or,
if that is the first one, to the line where the problem shows, and the first line is not named. -/
def readingProblem (start here : Mark) (problem : String) : YamlError :=
  let line := if start.line ≠ 0 then start.line else here.line
  ⟨if line = 0 then none else some (line + 1), problem⟩

/-- A problem found while nodes are put together: it belongs to the line before the one where the
node starts or, if that is the first one, where the problem shows. -/
def nodeProblem (start here : Mark) (problem : String) : YamlError :=
  let line := if start.line ≠ 0 then start.line else here.line
  ⟨if line = 0 then none else some line, problem⟩

end TagFilter.Yaml
