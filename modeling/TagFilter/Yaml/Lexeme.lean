import TagFilter.Yaml.Block

/-!
# Lexemes of a YAML document

The smallest parts of a document that mean something: scalars, the characters that structure it, the
starts and ends of blocks that only the indentation shows, and the names, tags and directives, which
this module also reads.
-/

namespace TagFilter.Yaml

/-- What a lexeme is. -/
inductive LexemeKind where
  | streamEnd
  | version (major minor : Nat)
  | handle (name uri : Text)
  | documentStart
  | documentEnd
  | sequenceStart
  | mappingStart
  | blockEnd
  | openBracket
  | closeBracket
  | openBrace
  | closeBrace
  | dash
  | comma
  | key
  | value
  | reference (name : Text)
  | anchor (name : Text)
  | tag (handle suffix : Text)
  | scalar (text : Text) (style : ScalarStyle)
  deriving Repr

/-- A lexeme and the place where it starts. -/
structure Lexeme where
  kind : LexemeKind
  start : Mark
  deriving Repr

/-! ## Names -/

/-- Whether the name of an anchor may end before these characters. -/
def endsName (rest : List Char) : Bool :=
  endsWord rest || ((rest.head?.map fun c => "?:,]\x7d%@`".toList.contains c).getD false)

/-- Reads the name of an anchor or a reference, from its indicator on. -/
def readName (c : Cursor) : Except YamlError (Text × Cursor) :=
  let name := c.rest.tail.takeWhile isNameChar
  let after := c.forward (name.length + 1)
  if name.isEmpty || !endsName after.rest then
    .error (readingProblem c.toMark after.toMark
      "did not find expected alphabetic or numeric character")
  else .ok (Text.encode name, after)

/-! ## Tags -/

/-- Whether a character may stand in a tag. -/
def isTagChar (c : Char) : Bool := isNameChar c || ";/?:@&=+$,.!~*'()[]%".toList.contains c

/-- The number of bytes in a sequence that a byte starts; none for a byte that starts none. -/
def sequenceLength (b : Nat) : Nat :=
  if b < 0x80 then 1
  else if b / 32 = 6 then 2
  else if b / 16 = 14 then 3
  else if b / 8 = 30 then 4
  else 0

/-- A byte written as a percent sign and two hexadecimal digits. -/
def escapedByte? : List Char → Option Nat
  | '%' :: a :: b :: _ => hexNumber? [a, b]
  | _ => none

/-- Reads the escaped bytes of a character of which `missing` are left. -/
def escapedTail (start : Mark) (bytes : Text) (c : Cursor) : Nat → Except YamlError (Text × Cursor)
  | 0 => .ok (bytes, c)
  | missing + 1 =>
    match escapedByte? c.rest with
    | none => .error (readingProblem start c.toMark "did not find URI escaped octet")
    | some b =>
      if b / 64 = 2 then escapedTail start (bytes ++ [b.toUInt8]) (c.forward 3) missing
      else .error (readingProblem start c.toMark "found an incorrect trailing UTF-8 octet")

/-- Reads a character that is written as escaped bytes. -/
def escapedChar (start : Mark) (c : Cursor) : Except YamlError (Text × Cursor) :=
  match escapedByte? c.rest with
  | none => .error (readingProblem start c.toMark "did not find URI escaped octet")
  | some b =>
    match sequenceLength b with
    | 0 => .error (readingProblem start c.toMark "found an incorrect leading UTF-8 octet")
    | length + 1 => escapedTail start [b.toUInt8] (c.forward 3) length

/-- Reads the characters of a tag behind those in `taken`. -/
def tagChars (start : Mark) (taken : Text) (c : Cursor) : Nat → Except YamlError (Text × Cursor)
  | 0 => .ok (taken, c)
  | fuel + 1 =>
    match c.rest with
    | [] => .ok (taken, c)
    | ch :: _ =>
      if ch = '%' then do
        let (bytes, after) ← escapedChar start c
        tagChars start (taken ++ bytes) after fuel
      else if isTagChar ch then tagChars start (taken ++ Text.encode [ch]) c.advance fuel
      else .ok (taken, c)

/-- Reads the characters of a tag; there has to be one. -/
def tagBody (start : Mark) (c : Cursor) : Except YamlError (Text × Cursor) := do
  let (body, after) ← tagChars start [] c c.rest.length
  if after.index = c.index then
    throw (readingProblem start after.toMark "did not find expected tag URI")
  return (body, after)

/-- A handle: exclamation marks around a name, or one alone.  What starts as a handle and does not
end as one comes without its second mark. -/
def handleLength (rest : List Char) : Nat :=
  let name := (rest.tail.takeWhile isNameChar).length
  if (rest.drop (name + 1)).head? = some '!' then name + 2 else name + 1

/-- Reads a tag, from its exclamation mark on: its handle and what follows it. -/
def readTag (c : Cursor) : Except YamlError (Text × Text × Cursor) := do
  let start := c.toMark
  let length := handleLength c.rest
  let handle := Text.encode (c.rest.take length)
  let (handle, suffix, after) ←
    if c.advance.startsWith '<' then do
      let (uri, after) ← tagBody start (c.forward 2)
      if !after.startsWith '>' then
        throw (readingProblem start after.toMark "did not find the expected '>'")
      pure (([] : Text), uri, after.advance)
    else if 1 < length && handle.getLast? == some (byte '!') then do
      let (suffix, after) ← tagBody start (c.forward length)
      pure (handle, suffix, after)
    else do
      let (suffix, after) ← tagChars start handle.tail (c.forward length) c.rest.length
      pure (if suffix.isEmpty then (([] : Text), ("!" : Text), after)
        else (("!" : Text), suffix, after))
  if !endsWord after.rest then
    throw (readingProblem start after.toMark "did not find expected whitespace or line break")
  return (handle, suffix, after)

/-! ## Directives -/

/-- Reads a number of at most two digits. -/
def versionNumber (start : Mark) (c : Cursor) : Except YamlError (Nat × Cursor) :=
  let digits := c.rest.takeWhile Char.isDigit
  let after := c.forward digits.length
  if 2 < digits.length then
    .error (readingProblem start after.toMark "found extremely long version number")
  else if digits.isEmpty then
    .error (readingProblem start after.toMark "did not find expected version number")
  else .ok (Text.digitsValue (Text.encode digits), after)

/-- Reads two numbers with a point between them. -/
def readVersion (start : Mark) (c : Cursor) : Except YamlError (LexemeKind × Cursor) := do
  let (major, after) ← versionNumber start c.skipBlanks
  if !after.startsWith '.' then
    throw (readingProblem start after.toMark "did not find expected digit or '.' character")
  let (minor, after) ← versionNumber start after.advance
  return (.version major minor, after)

/-- Reads a handle and what it stands for. -/
def readHandle (start : Mark) (c : Cursor) : Except YamlError (LexemeKind × Cursor) := do
  let c := c.skipBlanks
  let length := handleLength c.rest
  let name := Text.encode (c.rest.take length)
  let closed := length = 1 || name.getLast? == some (byte '!')
  if !c.startsWith '!' || !closed then
    throw (readingProblem start c.toMark "did not find expected '!'")
  let after := c.forward length
  if !after.atBlank then
    throw (readingProblem start after.toMark "did not find expected whitespace")
  let (uri, after) ← tagBody start after.skipBlanks
  if !endsWord after.rest then
    throw (readingProblem start after.toMark "did not find expected whitespace or line break")
  return (.handle name uri, after)

/-- Reads a directive, from its percent sign to the end of the line. -/
def readDirective (c : Cursor) : Except YamlError (LexemeKind × Cursor) := do
  let start := c.toMark
  let name := c.rest.tail.takeWhile isNameChar
  let after := c.forward (name.length + 1)
  if name.isEmpty then
    throw (readingProblem start after.toMark "could not find expected directive name")
  if !endsWord after.rest then
    throw (readingProblem start after.toMark "found unexpected non-alphabetical character")
  let (kind, after) ←
    if name = "YAML".toList then readVersion start after
    else if name = "TAG".toList then readHandle start after
    else throw (readingProblem start after.toMark "found unknown directive name")
  let after := after.skipBlanks
  let after := if after.startsWith '#' then after.skipLine else after
  if after.rest.isEmpty then return (kind, after)
  else if after.atBreak then return (kind, after.advance)
  else throw (readingProblem start after.toMark "did not find expected comment or line break")

end TagFilter.Yaml
