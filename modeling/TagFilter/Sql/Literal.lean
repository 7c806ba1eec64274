import TagFilter.Sql.Token

/-!
# Literals

`literalNumber` is the number that a literal writes.  A literal or a parameter may be wrong in
itself (`fault?`), and a literal in hexadecimal digits may need more than 64 bits (`oversized?`).
-/

namespace TagFilter.Sql

/-! ## Numbers and parameters -/

/-- The literal `t` as it is blamed for an underscore that does not stand between two digits.  The
last such one counts, and the digits before it have moved together by then: they are `moved`.  The
text is what follows the byte `last`. -/
def blamed? (isDigit : UInt8 → Bool) (t moved : Text) (last : UInt8) : Text → Option Text
  | [] => none
  | b :: rest =>
    if b = Token.separator then
      (blamed? isDigit t moved b rest).or
        (if isDigit last && (rest.head?.map isDigit).getD false then none
        else some (moved ++ t.drop moved.length))
    else blamed? isDigit t (moved ++ [b]) b rest

/-- Whether a literal starts like one in hexadecimal digits. -/
def isHexLiteral : Text → Bool
  | z :: x :: _ => z == byte '0' && (x == byte 'x' || x == byte 'X')
  | _ => false

/-- The number that a literal writes, in decimal or in hexadecimal digits, which stand for 64 bits.
-/
def literalNumber (t : Text) : Number :=
  let digits := t.filter (· != Token.separator)
  if isHexLiteral t then
    .int (Int.bmod ((digits.drop 2).foldl (fun n b => 16 * n + (Text.anyDigit? b).getD 0) 0 : Nat)
      (Nat.pow 2 64))
  else .ofLeading digits

/-- What is wrong with a token in itself, wherever it stands: a number with an underscore out of
place, or a parameter with a number that is none. -/
def fault? (t : Token) : Option Problem :=
  match t.lexeme with
  | .number n =>
    (blamed? (if isHexLiteral n then Token.isHexByte else Text.isDigitByte) n [] 0 n).map
      .unrecognized
  | .parameter (b :: d :: digits) =>
    let n := Text.digitsValue (d :: digits)
    if b = byte '#' ∧ Text.isDigitByte d then some (.unexpected t.raw)
    else if b = byte '?' ∧ (n = 0 ∨ greatestParameter < n) then some .parameterNumber
    else none
  | _ => none

/-! ## Literals of more than 64 bits -/

/-- The digits of a literal in hexadecimal digits that count. -/
def hexDigits? (t : Token) : Option Text :=
  match t.lexeme with
  | .number n =>
    if isHexLiteral n then
      some (((n.drop 2).filter (· != Token.separator)).dropWhile (· == byte '0'))
    else none
  | _ => none

/-- Whether a literal has hexadecimal digits for more than 64 bits. -/
def isOversized (t : Token) : Bool :=
  ((hexDigits? t).map fun d => decide (16 < d.length)).getD false

/-- Whether 64 bits do not hold the negative of a literal in hexadecimal digits. -/
def isOversizedBelow (t : Token) : Bool :=
  isOversized t || hexDigits? t == some (Text.ofString "8000000000000000")

/-- Whether an operand can end with a token, so that a sign behind it stands between two. -/
def endsOperand (t : Token) : Bool :=
  match t.lexeme with
  | .symbol s => s == Text.ofString ")"
  | .word w => t.isWord "null" || !Token.isOneOf w Token.keywords
  | _ => true

/-- The first literal of more than 64 bits, with its sign; `behind` says whether an operand is in
front of the tokens. -/
def oversized? (behind : Bool) : List Token → Option Text
  | [] => none
  | t :: rest =>
    let written (u : Token) : Text := u.raw.filter (· != Token.separator)
    if isOversized t then some (written t)
    else
      match rest.head? with
      | some u =>
        if t.isSymbol "-" && !behind && isOversizedBelow u then some (byte '-' :: written u)
        else oversized? (endsOperand t) rest
      | none => none

end TagFilter.Sql
