import TagFilter.Text.Cluster
import TagFilter.Text.Utf8

/-!
# Columns on a terminal

`Terminal.width` is the number of columns that a line takes on a terminal.  Clusters of characters
take the room of what they show as, and escape sequences take none.  A sequence is followed byte by
byte through the states of a terminal (`Escape`).
-/

namespace TagFilter.Terminal

/-- Where a terminal stands: in text, or in some part of an escape sequence. -/
inductive Escape where
  | text
  | escape
  | escapeMiddle
  | control
  | controlParameters
  | controlMiddle
  | device
  | deviceParameters
  | deviceMiddle
  | deviceString
  | system
  | message
  deriving DecidableEq, Repr

/-- Whether a byte is a control that leaves a sequence as it is. -/
def isInert (b : UInt8) : Bool := b ≤ 0x17 || b == 0x19 || (0x1C ≤ b && b ≤ 0x1F)

/-- Whether a byte is one of the middle of a sequence. -/
def isMiddle (b : UInt8) : Bool := 0x20 ≤ b && b ≤ 0x2F

/-- Whether a byte belongs to the parameters of a sequence. -/
def isParameter (b : UInt8) : Bool := 0x30 ≤ b && b ≤ 0x3F

/-- Whether a byte ends a sequence. -/
def isFinal (b : UInt8) : Bool := 0x40 ≤ b && b ≤ 0x7E

namespace Escape

/-- Where a byte leads that means the same everywhere. -/
def anywhere (b : UInt8) : Escape :=
  if b == 0x1B then escape
  else if b == 0x90 then device
  else if b == 0x9B then control
  else if b == 0x9D then system
  else if b == 0x98 || b == 0x9E || b == 0x9F then message
  else text

/-- Where a byte leads in a string that only an escape, a cancel or a terminator ends. -/
def within (s : Escape) (b : UInt8) : Escape :=
  if b == 0x1B then escape
  else if b == 0x18 || b == 0x1A || b == 0x9C then text
  else s

/-- Where a byte leads. -/
def next (s : Escape) (b : UInt8) : Escape :=
  match s with
  | text => anywhere b
  | escape =>
    if isInert b || b == 0x7F then escape
    else if isMiddle b then escapeMiddle
    else if b == byte '[' then control
    else if b == byte ']' then system
    else if b == byte 'P' then device
    else if b == byte 'X' || b == byte '^' || b == byte '_' then message
    else anywhere b
  | escapeMiddle => if isInert b || b == 0x7F || isMiddle b then escapeMiddle else anywhere b
  | control =>
    if isInert b || b == 0x7F then control
    else if isMiddle b then controlMiddle
    else if isParameter b then controlParameters
    else anywhere b
  | controlParameters =>
    if isInert b || b == 0x7F || isParameter b then controlParameters
    else if isMiddle b then controlMiddle
    else anywhere b
  | controlMiddle => if isInert b || b == 0x7F || isMiddle b then controlMiddle else anywhere b
  | device =>
    if 0x08 ≤ b && b ≤ 0x0D || b == 0x1B || isFinal b then deviceString
    else if isInert b || b == 0x7F then device
    else if isMiddle b then deviceMiddle
    else if isParameter b then deviceParameters
    else anywhere b
  | deviceParameters =>
    if isInert b || b == 0x7F || isParameter b then deviceParameters
    else if isMiddle b then deviceMiddle
    else if isFinal b then deviceString
    else anywhere b
  | deviceMiddle =>
    if isInert b || b == 0x7F || isMiddle b then deviceMiddle
    else if isParameter b || isFinal b then deviceString
    else anywhere b
  | deviceString => within deviceString b
  | system => if b == 0x07 then text else within system b
  | message => if b ≤ 0x7F || b == 0x9C then within message b else anywhere b

/-- Whether a byte starts a character that shows. -/
def shows (s : Escape) (b : UInt8) : Bool :=
  0xC2 ≤ b && b ≤ 0xF4 && s != deviceString && s != system

end Escape

/-- Where the measuring of a line stands. -/
inductive Place where
  | outside (s : Escape)
  | within (cluster : Text.Cluster)
  deriving DecidableEq, Repr

/-- The columns of what has been measured, but for a cluster that may go on. -/
structure Measure where
  columns : Nat := 0
  place : Place := .outside .text
  deriving DecidableEq, Repr

namespace Measure

/-- The columns of a byte, and where it leads. -/
def takeByte (m : Nat × Escape) (b : UInt8) : Nat × Escape :=
  if m.2 = .text ∧ 0x20 ≤ b ∧ b ≤ 0x7E then (m.1 + 1, .text) else (m.1, m.2.next b)

/-- Measures a character that continues no cluster. -/
def take (columns : Nat) (s : Escape) (piece : Char × Text) : Measure :=
  if (piece.2.head?.map s.shows).getD false then ⟨columns, .within (.start piece.1)⟩
  else
    let (columns, s) := piece.2.foldl takeByte (columns, s)
    ⟨columns, .outside s⟩

/-- Measures one more character. -/
def step (m : Measure) (piece : Char × Text) : Measure :=
  match m.place with
  | .outside s => take m.columns s piece
  | .within cluster =>
    match cluster.push? piece.1 with
    | some cluster => { m with place := .within cluster }
    | none => take (m.columns + cluster.width) .text piece

/-- All columns that have been measured. -/
def total (m : Measure) : Nat :=
  match m.place with
  | .outside _ => m.columns
  | .within cluster => m.columns + cluster.width

end Measure

/-- The columns that a line takes. -/
def width (line : Text) : Nat := (line.pieces.foldl Measure.step {}).total

end TagFilter.Terminal
