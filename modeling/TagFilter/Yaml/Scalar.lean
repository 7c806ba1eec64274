import TagFilter.Yaml.Cursor

/-!
# Scalars in lines

Reading plain scalars and scalars between quotes.  Both may go on over several lines: a `Gap` holds
the blanks and line breaks between two words, and `Gap.text` is what they stand for.  A single line
break is a blank, and of several the first does not count.
-/

namespace TagFilter.Yaml

/-- A scalar that has been read: its text, whether lines have ended behind it, and what follows. -/
structure ReadScalar where
  text : List Char
  broken : Bool
  after : Cursor

/-! ## Gaps -/

/-- The blanks and line breaks between two words of a scalar: the blanks as long as the line has not
ended, then whether it has, the first line break, and the others. -/
structure Gap where
  blanks : List Char := []
  broken : Bool := false
  first : List Char := []
  breaks : List Char := []
  deriving DecidableEq, Repr

namespace Gap

/-- Whether nothing stands between two words. -/
def isEmpty (g : Gap) : Bool := g.blanks.isEmpty && !g.broken

/-- What a gap stands for. -/
def text (g : Gap) : List Char :=
  if !g.broken then g.blanks
  else if g.first == ['\n'] then (if g.breaks.isEmpty then [' '] else g.breaks)
  else g.first ++ g.breaks

/-- The gap with one more blank or line break. -/
def push (g : Gap) (c : Char) : Gap :=
  if isBlank c then (if g.broken then g else { g with blanks := g.blanks ++ [c] })
  else if g.broken then { g with breaks := g.breaks ++ [breakChar c] }
  else { broken := true, first := [breakChar c] }

end Gap

/-! ## Plain scalars -/

/-- Whether a character ends a plain scalar inside brackets. -/
def endsInBrackets (c : Char) : Bool := ",?[]\x7b\x7d".toList.contains c

/-- Whether a plain scalar ends before a character that has others behind it, at a place behind a
gap. -/
def endsPlain (inBrackets : Bool) (least : Nat) (g : Gap) (m : Mark) (c : Char) (rest : List Char) :
    Bool :=
  (!g.isEmpty && ((!inBrackets && m.col < least) || m.startsMarker (c :: rest) || c == '#')) ||
    (c == ':' && endsWord rest) || (inBrackets && endsInBrackets c)

/-- Reads a plain scalar from a place on, behind the characters in `taken`, the last one first, and
a gap.  Further lines start in column `least` or behind it, unless brackets stand around the scalar;
a tab in front of that column is an error. -/
def plainFrom (inBrackets : Bool) (least : Nat) (start : Mark) (taken : List Char) (g : Gap)
    (m : Mark) : List Char → Except YamlError ReadScalar
  | [] => .ok ⟨taken.reverse, g.broken, ⟨m, []⟩⟩
  | c :: rest =>
    if g.broken && m.col < least && c == '\t' then
      .error (readingProblem start m "found a tab character that violates indentation")
    else if isBlank c || isBreak c then
      plainFrom inBrackets least start taken (g.push c) (m.past c) rest
    else if endsPlain inBrackets least g m c rest then
      .ok ⟨taken.reverse, g.broken, ⟨m, c :: rest⟩⟩
    else plainFrom inBrackets least start (c :: g.text.reverse ++ taken) {} m.right rest

/-- Reads a plain scalar below a node that is indented by `indent`. -/
def readPlain (inBrackets : Bool) (indent : Int) (c : Cursor) : Except YamlError ReadScalar :=
  plainFrom inBrackets (indent + 1).toNat c.toMark [] {} c.toMark c.rest

/-! ## Quoted scalars -/

/-- The characters that a letter stands for after a backslash. -/
def escapes : List (Char × Nat) :=
  [('0', 0), ('a', 7), ('b', 8), ('t', 9), ('\t', 9), ('n', 10), ('v', 11), ('f', 12), ('r', 13),
   ('e', 27), (' ', 32), ('"', 34), ('\'', 39), ('\\', 92), ('N', 0x85), ('_', 0xA0),
   ('L', 0x2028), ('P', 0x2029)]

/-- The number of hexadecimal digits after an escape letter. -/
def escapeDigits (c : Char) : Nat :=
  if c = 'x' then 2 else if c = 'u' then 4 else if c = 'U' then 8 else 0

/-- The character that the letters after a backslash write, and their number. -/
def escape : List Char → Except String (Char × Nat)
  | [] => .error "found unknown escape character"
  | c :: rest =>
    let digits := rest.take (escapeDigits c)
    if escapeDigits c = 0 then
      match escapes.lookup c with
      | some n => .ok (Char.ofNat n, 1)
      | none => .error "found unknown escape character"
    else
      match hexNumber? digits with
      | some n =>
        if digits.length < escapeDigits c then .error "did not find expected hexdecimal number"
        else if n.isValidChar then .ok (Char.ofNat n, digits.length + 1)
        else .error "found invalid Unicode character escape code"
      | none => .error "did not find expected hexdecimal number"

/-- Reads a scalar up to its closing quote from a place on, behind the characters in `taken`, the
last one first, and a gap.  The next `skip` characters have been read.  A line break after a
backslash leaves no blank. -/
def quotedFrom (quote : Char) (start : Mark) (taken : List Char) (g : Gap) (m : Mark) (skip : Nat) :
    List Char → Except YamlError ReadScalar
  | [] => .error (readingProblem start m "found unexpected end of stream")
  | c :: rest =>
    match skip with
    | skip + 1 => quotedFrom quote start taken g (m.past c) skip rest
    | 0 =>
      if isBlank c || isBreak c then quotedFrom quote start taken (g.push c) (m.past c) 0 rest
      else if m.startsMarker (c :: rest) then
        .error (readingProblem start m "found unexpected document indicator")
      else
        let taken := g.text.reverse ++ taken
        if c = quote then
          if c = '\'' && rest.head? = some '\'' then
            quotedFrom quote start ('\'' :: taken) {} m.right 1 rest
          else .ok ⟨taken.reverse, false, ⟨m.right, rest⟩⟩
        else if quote = '"' && c = '\\' then
          if (rest.head?.map isBreak).getD false then
            quotedFrom quote start taken { broken := true } m.right 1 rest
          else
            match escape rest with
            | .error problem => .error (readingProblem start m problem)
            | .ok (e, length) => quotedFrom quote start (e :: taken) {} m.right length rest
        else quotedFrom quote start (c :: taken) {} m.right 0 rest

/-- Reads a scalar between quotes, from the opening quote on. -/
def readQuoted (quote : Char) (c : Cursor) : Except YamlError ReadScalar :=
  quotedFrom quote c.toMark [] {} c.toMark.right 0 c.rest.tail

end TagFilter.Yaml
