import TagFilter.Yaml.Lexeme

/-!
# Reading lexemes

A `Source` is what is left of a document together with the lexemes that have been read ahead.
`Source.fetch` reads one more, and `Source.fill` reads as many as are needed before the first one is
looked at: two beyond it, and more while it may still turn out to start the key of an entry.  That a
scalar was a key shows only at the colon behind it; the lexemes that say so are then put in front.
-/

namespace TagFilter.Yaml

/-- A place where the key of an entry may have started, and the number of its lexeme.  In a line
that starts in the column of a mapping a key is required. -/
structure KeyPlace where
  possible : Bool := false
  required : Bool := false
  position : Nat := 0
  mark : Mark := {}
  deriving DecidableEq, Repr

/-- A key ends on the line where it starts, and is not too long. -/
def KeyPlace.isStale (k : KeyPlace) (m : Mark) : Bool :=
  k.mark.line < m.line || k.mark.index + 1024 < m.index

/-- What is left of a document: the cursor, the indentation of the block around it and of the blocks
around that, whether a key may start here, the place of a key at this level and at the levels
outside the brackets around it, the lexemes read ahead, and the number of those before them. -/
structure Source where
  cursor : Cursor
  indent : Int := -1
  outerIndents : List Int := []
  keyAllowed : Bool := true
  key : KeyPlace := {}
  outerKeys : List KeyPlace := []
  ahead : List Lexeme := []
  taken : Nat := 0
  deriving Repr

namespace Source

/-- The place of the cursor. -/
def mark (s : Source) : Mark := s.cursor.toMark

/-- Whether brackets stand around the cursor. -/
def inBrackets (s : Source) : Bool := !s.outerKeys.isEmpty

/-- Takes the first lexeme away. -/
def drop (s : Source) : Source := { s with ahead := s.ahead.tail, taken := s.taken + 1 }

/-- Adds a lexeme. -/
def push (s : Source) (kind : LexemeKind) (start : Mark) : Source :=
  { s with ahead := s.ahead ++ [⟨kind, start⟩] }

/-- Puts a lexeme in front of the one with a number. -/
def insert (s : Source) (position : Nat) (kind : LexemeKind) (start : Mark) : Source :=
  { s with ahead := s.ahead.insertIdx (position - s.taken) ⟨kind, start⟩ }

/-! ## Keys -/

/-- The problem that no colon follows a key. -/
def missingColon (s : Source) (k : KeyPlace) : YamlError :=
  readingProblem k.mark s.mark "could not find expected ':'"

/-- Gives up the place of a key at this level. -/
def forgetKey (s : Source) : Except YamlError Source :=
  if s.key.possible && s.key.required then .error (s.missingColon s.key)
  else .ok { s with key := { s.key with possible := false } }

/-- Notes that a key may start here. -/
def noteKey (s : Source) : Except YamlError Source := do
  if !s.keyAllowed then return s
  let key : KeyPlace :=
    { possible := true, required := !s.inBrackets && s.indent == (s.cursor.col : Int),
      position := s.taken + s.ahead.length, mark := s.mark }
  return { ← s.forgetKey with key }

/-! ## Blocks -/

/-- Starts a block in a column behind the indentation, in front of a lexeme or at the end. -/
def enterBlock (s : Source) (col : Nat) (position? : Option Nat) (kind : LexemeKind)
    (start : Mark) : Source :=
  if s.inBrackets || (col : Int) ≤ s.indent then s
  else
    let s := { s with indent := col, outerIndents := s.indent :: s.outerIndents }
    match position? with
    | some position => s.insert position kind start
    | none => s.push kind start

/-- The blocks around a column among blocks of some indentations: the number of blocks that end, the
indentation that is left, and the others around it. -/
def closeBlocks (col : Int) (indent : Int) : List Int → Nat × Int × List Int
  | [] => (0, indent, [])
  | outer :: outers =>
    if col < indent then
      let (n, indent, outers) := closeBlocks col outer outers
      (n + 1, indent, outers)
    else (0, indent, outer :: outers)

/-- Ends the blocks that are indented beyond a column. -/
def leaveBlocks (s : Source) (col : Int) (start : Mark) : Source :=
  if s.inBrackets then s
  else
    let (n, indent, outerIndents) := closeBlocks col s.indent s.outerIndents
    { s with indent, outerIndents, ahead := s.ahead ++ List.replicate n ⟨.blockEnd, start⟩ }

/-! ## Blanks and comments -/

/-- What the characters between two lexemes belong to: blanks, a comment, or the space between two
comments. -/
inductive Between where
  | blank
  | comment
  | space
  deriving DecidableEq, Repr

/-- Whether nothing but blanks and line breaks stands before another comment. -/
def leadsToComment (rest : List Char) : Bool :=
  (rest.dropWhile fun c => isBlank c || c == '\n' || c == '\r').head? == some '#'

/-- Moves to the next lexeme, and says whether a key may start there: after a line break outside
brackets it may.  A tab is no blank where a key may start. -/
def lexemeFrom (inBrackets keyAllowed : Bool) (between : Between) (m : Mark) :
    List Char → Bool × Cursor
  | [] => (keyAllowed, ⟨m, []⟩)
  | c :: rest =>
    match between with
    | .space =>
      lexemeFrom inBrackets keyAllowed (if c = '#' then .comment else .space) (m.past c) rest
    | .comment =>
      if !isBreak c then lexemeFrom inBrackets keyAllowed .comment m.right rest
      else if leadsToComment (c :: rest) then lexemeFrom inBrackets keyAllowed .space m.down rest
      else lexemeFrom inBrackets (keyAllowed || !inBrackets) .blank m.down rest
    | .blank =>
      if c = ' ' || (c = '\t' && (inBrackets || !keyAllowed)) then
        lexemeFrom inBrackets keyAllowed .blank m.right rest
      else if c = '#' then lexemeFrom inBrackets keyAllowed .comment m.right rest
      else if isBreak c then lexemeFrom inBrackets (keyAllowed || !inBrackets) .blank m.down rest
      else (keyAllowed, ⟨m, c :: rest⟩)

/-- Moves to the next lexeme. -/
def skipToLexeme (s : Source) : Source :=
  let (keyAllowed, cursor) := lexemeFrom s.inBrackets s.keyAllowed .blank s.mark s.cursor.rest
  { s with keyAllowed, cursor }

/-- Moves past a comment on the same line. -/
def skipLineComment (s : Source) : Source :=
  let c := s.cursor.skipBlanks
  if c.startsWith '#' then { s with cursor := c.skipLine } else s

/-! ## One lexeme -/

/-- Adds a lexeme of one character. -/
def indicator (s : Source) (kind : LexemeKind) (keyAllowed : Bool) : Source :=
  { s.push kind s.mark with cursor := s.cursor.advance, keyAllowed }

/-- Reads the end of the document; a line that is not finished ends here. -/
def fetchEnd (s : Source) : Except YamlError Source := do
  let c := s.cursor
  let c := if c.col = 0 then c else ⟨⟨c.index, c.line + 1, 0⟩, c.rest⟩
  let s := { s with cursor := c }
  let s ← (s.leaveBlocks (-1) s.mark).forgetKey
  return { s.push .streamEnd s.mark with keyAllowed := false }

/-- Reads a directive. -/
def fetchDirective (s : Source) : Except YamlError Source := do
  let s ← (s.leaveBlocks (-1) s.mark).forgetKey
  let (kind, cursor) ← readDirective s.cursor
  return { s.push kind s.mark with cursor, keyAllowed := false }

/-- Reads the mark of the start or the end of a document. -/
def fetchMarker (s : Source) (kind : LexemeKind) : Except YamlError Source := do
  let s ← (s.leaveBlocks (-1) s.mark).forgetKey
  return { s.push kind s.mark with cursor := s.cursor.forward 3, keyAllowed := false }

/-- Reads an opening bracket or brace. -/
def fetchOpen (s : Source) (kind : LexemeKind) : Except YamlError Source := do
  let s ← s.noteKey
  return ({ s with key := {}, outerKeys := s.key :: s.outerKeys }).indicator kind true

/-- Reads a closing bracket or brace. -/
def fetchClose (s : Source) (kind : LexemeKind) : Except YamlError Source := do
  let s ← s.forgetKey
  let s := match s.outerKeys with
    | [] => s
    | key :: outerKeys => { s with key, outerKeys }
  return s.indicator kind false

/-- Reads the dash of an item. -/
def fetchDash (s : Source) : Except YamlError Source := do
  if !s.inBrackets && !s.keyAllowed then
    throw (readingProblem s.mark s.mark "block sequence entries are not allowed in this context")
  let s ← (s.enterBlock s.cursor.col none .sequenceStart s.mark).forgetKey
  return s.indicator .dash true

/-- Reads the question mark of a key. -/
def fetchKey (s : Source) : Except YamlError Source := do
  if !s.inBrackets && !s.keyAllowed then
    throw (readingProblem s.mark s.mark "mapping keys are not allowed in this context")
  let s ← (s.enterBlock s.cursor.col none .mappingStart s.mark).forgetKey
  return s.indicator .key (!s.inBrackets)

/-- Reads the colon of a value. -/
def fetchValue (s : Source) : Except YamlError Source := do
  let key := s.key
  if key.possible && key.required && key.isStale s.mark then throw (s.missingColon key)
  if key.possible && !key.isStale s.mark then
    let s := s.insert key.position .key key.mark
    let s := s.enterBlock key.mark.col (some key.position) .mappingStart key.mark
    return ({ s with key := { key with possible := false } }).indicator .value false
  else if !s.inBrackets && !s.keyAllowed then
    throw (readingProblem s.mark s.mark "mapping values are not allowed in this context")
  else
    return (s.enterBlock s.cursor.col none .mappingStart s.mark).indicator .value (!s.inBrackets)

/-- Reads an anchor or a reference. -/
def fetchName (s : Source) (kind : Text → LexemeKind) : Except YamlError Source := do
  let s ← s.noteKey
  let (name, cursor) ← readName s.cursor
  return { s.push (kind name) s.mark with cursor, keyAllowed := false }

/-- Reads a tag. -/
def fetchTag (s : Source) : Except YamlError Source := do
  let s ← s.noteKey
  let (handle, suffix, cursor) ← readTag s.cursor
  return { s.push (.tag handle suffix) s.mark with cursor, keyAllowed := false }

/-- Adds a scalar that has been read; a comment may follow it on the same line. -/
def pushScalar (s : Source) (r : ReadScalar) (style : ScalarStyle) : Source :=
  let s := { s.push (.scalar (Text.encode r.text) style) s.mark with
    cursor := r.after, keyAllowed := r.broken }
  if r.broken then s else s.skipLineComment

/-- Reads a block. -/
def fetchBlock (s : Source) (style : ScalarStyle) : Except YamlError Source := do
  let s ← s.forgetKey
  return s.pushScalar (← readBlock (style == .folded) s.indent s.cursor) style

/-- Reads a scalar between quotes. -/
def fetchQuoted (s : Source) (quote : Char) (style : ScalarStyle) : Except YamlError Source := do
  let s ← s.noteKey
  return s.pushScalar (← readQuoted quote s.cursor) style

/-- Reads a plain scalar. -/
def fetchPlain (s : Source) : Except YamlError Source := do
  let s ← s.noteKey
  return s.pushScalar (← readPlain s.inBrackets s.indent s.cursor) .plain

/-- The characters that cannot start a plain scalar. -/
def indicators : List Char := "-?:,[]\x7b\x7d#&*!|>'\"%@`".toList

/-- Whether a plain scalar starts with a character that has others behind it. -/
def startsPlain (inBrackets : Bool) (c : Char) (rest : List Char) : Bool :=
  !(isBlank c || isBreak c || indicators.contains c) ||
    (c == '-' && !((rest.head?.map isBlank).getD false)) ||
    (!inBrackets && (c == '?' || c == ':') && !endsWord rest)

/-- Reads the lexeme that starts with a character. -/
def fetchAt (s : Source) (c : Char) (rest : List Char) : Except YamlError Source := do
  if c = '[' then return (← s.fetchOpen .openBracket).skipLineComment
  else if c = '\x7b' then return (← s.fetchOpen .openBrace).skipLineComment
  else if c = ']' then return (← s.fetchClose .closeBracket).skipLineComment
  else if c = '\x7d' then return (← s.fetchClose .closeBrace).skipLineComment
  else if c = ',' then return ((← s.forgetKey).indicator .comma true).skipLineComment
  else if c = '-' && endsWord rest then s.fetchDash
  else if c = '?' && (s.inBrackets || endsWord rest) then return (← s.fetchKey).skipLineComment
  else if c = ':' && (s.inBrackets || endsWord rest) then return (← s.fetchValue).skipLineComment
  else if c = '*' then return (← s.fetchName .reference).skipLineComment
  else if c = '&' then return (← s.fetchName .anchor).skipLineComment
  else if c = '!' then return (← s.fetchTag).skipLineComment
  else if c = '|' && !s.inBrackets then s.fetchBlock .literal
  else if c = '>' && !s.inBrackets then s.fetchBlock .folded
  else if c = '\'' then s.fetchQuoted '\'' .singleQuoted
  else if c = '"' then s.fetchQuoted '"' .doubleQuoted
  else if startsPlain s.inBrackets c rest then s.fetchPlain
  else throw (readingProblem s.mark s.mark "found character that cannot start any token")

/-- Reads one more lexeme, with those that the indentation puts in front of it. -/
def fetch (s : Source) : Except YamlError Source :=
  let before := s.mark
  let s := s.skipToLexeme
  let s := s.leaveBlocks s.cursor.col before
  match s.cursor.rest with
  | [] => s.fetchEnd
  | c :: rest =>
    if s.cursor.col = 0 && c = '%' then s.fetchDirective
    else if s.mark.startsTriple '-' s.cursor.rest then s.fetchMarker .documentStart
    else if s.mark.startsTriple '.' s.cursor.rest then s.fetchMarker .documentEnd
    else s.fetchAt c rest

/-! ## Reading ahead -/

/-- The place of a key that the first lexeme may be. -/
def firstKey? (s : Source) : Option KeyPlace :=
  (s.key :: s.outerKeys).find? fun k => k.possible && k.position == s.taken

/-- Reads lexemes until the first one can be looked at. -/
def fill (s : Source) : Nat → Except YamlError Source
  | 0 => .ok s
  | fuel + 1 =>
    if s.ahead.length ≤ 2 then do fill (← s.fetch) fuel
    else
      match s.firstKey? with
      | none => .ok s
      | some key =>
        if !key.isStale s.mark then do fill (← s.fetch) fuel
        else if key.required then .error (s.missingColon key)
        else .ok s

end Source

end TagFilter.Yaml
