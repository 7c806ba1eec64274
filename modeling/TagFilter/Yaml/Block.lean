import TagFilter.Yaml.Scalar

/-!
# Scalars in blocks

A literal block keeps its lines and a folded one joins them.  The lines of a block are indented by
the same number of columns, which a digit in the header gives or else the first line that is not
empty.  The header also says what becomes of the line breaks at the end.
-/

namespace TagFilter.Yaml

/-- What becomes of the line breaks at the end of a block: one is kept, none or all. -/
inductive Chomp where
  | clip
  | strip
  | keep
  deriving DecidableEq, Repr

/-- What the header of a block says. -/
structure BlockHeader where
  chomp : Chomp := .clip
  digit : Nat := 0
  deriving DecidableEq, Repr

/-- What a sign in the header of a block says. -/
def chompOf? (c : Char) : Option Chomp :=
  if c = '+' then some .keep else if c = '-' then some .strip else none

/-- Reads the indicators of a header: a sign and a digit, in either order; a zero is refused.  The
number of characters comes along. -/
def headerOf : List Char → Option (BlockHeader × Nat)
  | [] => some ({}, 0)
  | c :: rest =>
    match chompOf? c with
    | some chomp =>
      match rest.head? with
      | some d =>
        if !d.isDigit then some (⟨chomp, 0⟩, 1)
        else if d = '0' then none
        else some (⟨chomp, d.toNat - 48⟩, 2)
      | none => some (⟨chomp, 0⟩, 1)
    | none =>
      if !c.isDigit then some ({}, 0)
      else if c = '0' then none
      else
        match rest.head?.bind chompOf? with
        | some chomp => some (⟨chomp, c.toNat - 48⟩, 2)
        | none => some (⟨.clip, c.toNat - 48⟩, 1)

/-- Moves past the header of a block and its line break. -/
def readHeader (c : Cursor) : Except YamlError (BlockHeader × Cursor) :=
  let here := c.advance
  match headerOf here.rest with
  | none => .error (readingProblem c.toMark here.toMark "found an indentation indicator equal to 0")
  | some (header, length) =>
    let after := (here.forward length).skipBlanks
    let after := if after.startsWith '#' then after.skipLine else after
    if after.rest.isEmpty then .ok (header, after)
    else if after.atBreak then .ok (header, after.advance)
    else
      .error (readingProblem c.toMark after.toMark "did not find expected comment or line break")

/-- The empty lines of a block: the line breaks, the largest column reached, and what follows. -/
structure EmptyLines where
  breaks : List Char
  width : Nat
  after : Cursor

/-- Moves past empty lines and the indentation behind them, from a place on and behind the line
breaks in `breaks`, the last one first; an indentation of 0 is not known yet. -/
def emptyLines (indent : Nat) (start : Mark) (breaks : List Char) (width : Nat) (m : Mark) :
    List Char → Except YamlError EmptyLines
  | [] => .ok ⟨breaks.reverse, max width m.col, ⟨m, []⟩⟩
  | c :: rest =>
    let width := max width m.col
    let indenting := indent = 0 || m.col < indent
    if indenting && c = ' ' then emptyLines indent start breaks width m.right rest
    else if indenting && c = '\t' then
      .error (readingProblem start m "found a tab character where an indentation space is expected")
    else if isBreak c then emptyLines indent start (breakChar c :: breaks) width m.down rest
    else .ok ⟨breaks.reverse, width, ⟨m, c :: rest⟩⟩

/-- The part of a block that has been read: its text, the last line break, the empty lines after it,
and whether the last line was indented further. -/
structure BlockPart where
  text : List Char := []
  lead : List Char := []
  trail : List Char := []
  further : Bool := false
  after : Cursor

/-- What the line breaks before a line stand for. -/
def BlockPart.joint (p : BlockPart) (folded further : Bool) : List Char :=
  (if folded && !p.further && !further && p.lead == ['\n'] then
    (if p.trail.isEmpty then [' '] else [])
  else p.lead) ++ p.trail

/-- Reads the lines of a block that are indented by `indent`. -/
def blockLines (folded : Bool) (indent : Nat) (start : Mark) (p : BlockPart) :
    Nat → Except YamlError BlockPart
  | 0 => .ok p
  | fuel + 1 =>
    let c := p.after
    if c.col == indent && !c.rest.isEmpty then do
      let line := c.rest.takeWhile fun ch => !isBreak ch
      let ending := c.skipLine
      let lead := (ending.rest.take 1).map breakChar
      let next := ending.advance
      let e ← emptyLines indent start [] 0 next.toMark next.rest
      blockLines folded indent start
        ⟨p.text ++ p.joint folded c.atBlank ++ line, lead, e.breaks, c.atBlank, e.after⟩ fuel
    else .ok p

/-- Reads a block, from its indicator on, below a node that is indented by `indent`. -/
def readBlock (folded : Bool) (indent : Int) (c : Cursor) : Except YamlError ReadScalar := do
  let (header, body) ← readHeader c
  let given := if header.digit = 0 then 0 else (max indent 0).toNat + header.digit
  let e ← emptyLines given c.toMark [] 0 body.toMark body.rest
  let columns := if given = 0 then max (max e.width (indent + 1).toNat) 1 else given
  let p ← blockLines folded columns c.toMark { trail := e.breaks, after := e.after }
    (c.rest.length + 1)
  let ending := match header.chomp with
    | .strip => []
    | .clip => p.lead
    | .keep => p.lead ++ p.trail
  return ⟨p.text ++ ending, true, p.after⟩

end TagFilter.Yaml
