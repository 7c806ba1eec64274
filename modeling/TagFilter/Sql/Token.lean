import TagFilter.Sql.Number
import TagFilter.Sql.Problem

/-!
# Tokens of SQL

`Token.all` takes a statement apart into words, names in quotes, texts, runs of bytes, numbers,
parameters and symbols.  Blanks and comments stand between them and are kept beside the token that
they come before, so that a part of a statement can be shown as it was written.  Reading ends at the
first bytes that are no token, with the problem that they are.
-/

namespace TagFilter.Sql

/-- The kinds of tokens.  A number and a parameter are kept as they are written; a name between
double quotes may turn out to be a text. -/
inductive Lexeme where
  | word (t : Text)
  | quotedName (t : Text) (double : Bool)
  | text (t : Text)
  | blob (t : Text)
  | number (t : Text)
  | parameter (t : Text)
  | symbol (t : Text)
  deriving DecidableEq, Repr

/-- A token with the text it was read from, and what stands between it and the token before. -/
structure Token where
  lexeme : Lexeme
  raw : Text
  gap : Text := []
  deriving DecidableEq, Repr

namespace Token

/-! ## Classes of bytes -/

/-- Whether a byte is a blank. -/
def isSpace (b : UInt8) : Bool := b == byte ' ' || (9 ≤ b && b ≤ 13 && b != 11)

/-- Whether a byte can start a word. -/
def startsWord (b : UInt8) : Bool :=
  (byte 'a' ≤ b && b ≤ byte 'z') || (byte 'A' ≤ b && b ≤ byte 'Z') || b == byte '_' || 0x80 ≤ b

/-- Whether a byte can go on in a word. -/
def inWord (b : UInt8) : Bool := startsWord b || Text.isDigitByte b || b == byte '$'

/-- Whether a byte is a hexadecimal digit. -/
def isHexByte (b : UInt8) : Bool :=
  Text.isDigitByte b || (byte 'a' ≤ b && b ≤ byte 'f') || (byte 'A' ≤ b && b ≤ byte 'F')

/-- The byte that may separate the digits of a number. -/
def separator : UInt8 := byte '_'

/-! ## Blanks and comments -/

/-- The number of bytes up to the end of a comment between `/*` and `*/`. -/
def commentLength : Text → Nat
  | [] => 0
  | b :: rest =>
    if b = byte '*' ∧ rest.head? = some (byte '/') then 2 else 1 + commentLength rest

/-- The number of bytes at the start of a text that are a blank, a comment or a byte order mark. -/
def gapLength (t : Text) : Nat :=
  match t with
  | [] => 0
  | b :: rest =>
    if isSpace b then 1
    else if (Text.ofString "--").isPrefixOf t then (t.takeWhile (· != byte '\n')).length
    else if (Text.ofString "/*").isPrefixOf t && 2 < t.length then 2 + commentLength rest.tail
    else if [0xEF, 0xBB, 0xBF].isPrefixOf t then 3
    else 0

/-! ## One token -/

/-- Reads up to a closing quote, which stands for itself when it is doubled: what stands between,
and the number of bytes read. -/
def quotedPart (quote : UInt8) (skip : Bool) : Text → Option (Text × Nat)
  | [] => none
  | b :: rest =>
    if skip then (quotedPart quote false rest).map fun (t, n) => (b :: t, n + 1)
    else if b = quote then
      if rest.head? = some quote then (quotedPart quote true rest).map fun (t, n) => (t, n + 1)
      else some ([], 1)
    else (quotedPart quote false rest).map fun (t, n) => (b :: t, n + 1)

/-- The text of the number that a text starts with.  Underscores may stand among its digits. -/
def numberPart (t : Text) : Text :=
  let digits (isDigit : UInt8 → Bool) (u : Text) : Text :=
    u.takeWhile fun b => isDigit b || b == separator
  let isHex := match t with
    | z :: x :: d :: _ => z == byte '0' && (x == byte 'x' || x == byte 'X') && isHexByte d
    | _ => false
  if isHex then t.take 2 ++ digits isHexByte (t.drop 2)
  else
    let whole := digits Text.isDigitByte t
    let rest := t.drop whole.length
    let fraction := match rest with
      | b :: after => if b = byte '.' then b :: digits Text.isDigitByte after else []
      | [] => []
    let rest := rest.drop fraction.length
    let power := match Number.readPower? rest with
      | some _ => rest.take 2 ++ digits Text.isDigitByte (rest.drop 2)
      | none => []
    whole ++ fraction ++ power

/-- The name of a parameter, behind the byte that says it is one: letters and digits, pairs of
colons and, after a letter, something in parentheses, which ends it.  The flag says whether it is a
name: it has a letter and no parenthesis is left open. -/
def parameterPart (lettered : Bool) : Text → Text × Bool
  | [] => ([], lettered)
  | b :: rest =>
    if inWord b then
      let (t, isName) := parameterPart true rest
      (b :: t, isName)
    else if b = byte '(' ∧ lettered then
      let inside := rest.takeWhile fun c => c != byte ')' && !Number.isSpace c
      if (rest.drop inside.length).head? = some (byte ')') then (b :: inside ++ [byte ')'], true)
      else (b :: inside, false)
    else
      match rest with
      | c :: rest =>
        if b = byte ':' ∧ c = byte ':' then
          let (t, isName) := parameterPart lettered rest
          (b :: c :: t, isName)
        else ([], lettered)
      | [] => ([], lettered)

/-- The symbols, the longer ones first. -/
def symbols : List String :=
  ["->>", "->", "==", "!=", "<>", "<=", ">=", "||", "<<", ">>", "=", "<", ">", "(", ")", ",", "*",
   ";", "-", "+", "/", "%", ".", "|", "&", "~"]

/-- The bytes that pairs of hexadecimal digits stand for. -/
def hexBytes : Text → Text
  | a :: b :: rest =>
    (16 * (Text.anyDigit? a).getD 0 + (Text.anyDigit? b).getD 0).toUInt8 :: hexBytes rest
  | _ => []

/-- The token of a text that starts with `x` and a quote: a run of bytes, in pairs of digits. -/
def blobToken (t : Text) : Except Problem Token :=
  let digits := (t.drop 2).takeWhile isHexByte
  let rest := t.drop (2 + digits.length)
  if rest.head? = some (byte '\'') ∧ digits.length % 2 = 0 then
    .ok ⟨.blob (hexBytes digits), t.take (digits.length + 3), []⟩
  else
    let tail := rest.takeWhile (· != byte '\'')
    .error (.unrecognized (t.take (2 + digits.length + tail.length + 1)))

/-- The token at the start of a text that does not start with a blank. -/
def first (t : Text) : Except Problem Token :=
  match t with
  | [] => .error .incomplete
  | b :: rest =>
    if (b = byte 'x' ∨ b = byte 'X') ∧ rest.head? = some (byte '\'') then blobToken t
    else if startsWord b then
      let word := b :: rest.takeWhile inWord
      .ok ⟨.word word, word, []⟩
    else if b = byte '\'' ∨ b = byte '"' ∨ b = 96 then
      match quotedPart b false rest with
      | some (inside, n) =>
        let lexeme := if b = byte '\'' then .text inside else .quotedName inside (b == byte '"')
        .ok ⟨lexeme, b :: rest.take n, []⟩
      | none => .error (.unrecognized t)
    else if b = byte '[' then
      let inside := rest.takeWhile (· != byte ']')
      if inside.length < rest.length then
        .ok ⟨.quotedName inside false, t.take (inside.length + 2), []⟩
      else .error (.unrecognized t)
    else if Text.isDigitByte b ∨ (b = byte '.' ∧ (rest.head?.map Text.isDigitByte).getD false) then
      let number := numberPart t
      let tail := (t.drop number.length).takeWhile inWord
      if tail.isEmpty then .ok ⟨.number number, number, []⟩
      else .error (.unrecognized (number ++ tail))
    else if b = byte '?' then
      let raw := b :: rest.takeWhile Text.isDigitByte
      .ok ⟨.parameter raw, raw, []⟩
    else if b = byte '$' ∨ b = byte '@' ∨ b = byte '#' ∨ b = byte ':' then
      let (name, isName) := parameterPart false rest
      if isName then .ok ⟨.parameter (b :: name), b :: name, []⟩
      else .error (.unrecognized (b :: name))
    else
      match (symbols.map Text.ofString).find? fun s => s.isPrefixOf t with
      | some s => .ok ⟨.symbol s, s, []⟩
      | none => .error (.unrecognized [b])

/-- The tokens of a text, after `skip` bytes, up to the first one that is none; `gap` is what stands
in front of the next one. -/
def all (skip : Nat) (gap : Text) : Text → List Token × Option Problem
  | [] => ([], none)
  | b :: rest =>
    match skip with
    | skip + 1 => all skip gap rest
    | 0 =>
      let blank := gapLength (b :: rest)
      if 0 < blank then all (blank - 1) (gap ++ (b :: rest).take blank) rest
      else
        match first (b :: rest) with
        | .ok token =>
          let (tokens, problem?) := all (token.raw.length - 1) [] rest
          ({ token with gap } :: tokens, problem?)
        | .error problem => ([], some problem)

/-! ## Words -/

/-- The words that are no names. -/
def keywords : List String :=
  ["add", "all", "alter", "and", "as", "autoincrement", "between", "case", "check", "collate",
   "commit", "constraint", "create", "default", "deferrable", "delete", "distinct", "drop", "else",
   "escape", "except", "exists", "foreign", "from", "group", "having", "in", "index", "insert",
   "intersect", "into", "is", "isnull", "join", "limit", "not", "nothing", "notnull", "null", "on",
   "or", "order", "primary", "references", "returning", "select", "set", "table", "then", "to",
   "transaction", "union", "unique", "update", "using", "values", "when", "where"]

/-- The words that join tables; they can be names, but not without `as` behind what they name. -/
def joinWords : List String := ["cross", "full", "inner", "left", "natural", "outer", "right"]

/-- Whether a word is one of several, whatever the case of its letters. -/
def isOneOf (w : Text) (words : List String) : Bool :=
  words.any fun k => Text.ofString k == w.folded

/-- Whether a token is a certain word. -/
def isWord (t : Token) (w : String) : Bool :=
  match t.lexeme with
  | .word u => u.folded == Text.ofString w
  | _ => false

/-- Whether a token is a certain symbol. -/
def isSymbol (t : Token) (s : String) : Bool := t.lexeme == .symbol s

end Token

end TagFilter.Sql
