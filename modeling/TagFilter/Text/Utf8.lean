import TagFilter.Text.Basic
import TagFilter.Text.Case

/-!
# Characters of a text

`Text.pieces` reads a text as UTF-8.  Each piece is a character with the bytes that encode it; a
byte that belongs to no well-formed sequence is a piece of its own and stands for the replacement
character U+FFFD.  `Text.decode` keeps the characters, `Text.encode` goes back.
-/

namespace TagFilter.Text

/-- The character that stands for bytes that encode nothing. -/
def replacement : Char := Char.ofNat 0xFFFD

/-- The low six bits of a continuation byte. -/
def tailBits (b : UInt8) : Nat := b.toNat % 64

/-- Whether a byte continues a sequence. -/
def isTail (b : UInt8) : Bool := 0x80 ≤ b && b < 0xC0

/-- The character of a two-byte sequence. -/
def decodeTwo (a b : UInt8) : Option Char :=
  if 0xC2 ≤ a && a < 0xE0 && isTail b then
    some (Char.ofNat (a.toNat % 32 * 64 + tailBits b))
  else none

/-- The character of a three-byte sequence; overlong forms and surrogates are refused. -/
def decodeThree (a b c : UInt8) : Option Char :=
  let n := a.toNat % 16 * 4096 + tailBits b * 64 + tailBits c
  if 0xE0 ≤ a && a < 0xF0 && isTail b && isTail c && 0x800 ≤ n && !(0xD800 ≤ n && n < 0xE000) then
    some (Char.ofNat n)
  else none

/-- The character of a four-byte sequence; overlong forms and numbers past U+10FFFF are refused. -/
def decodeFour (a b c d : UInt8) : Option Char :=
  let n := a.toNat % 8 * 262144 + tailBits b * 4096 + tailBits c * 64 + tailBits d
  if 0xF0 ≤ a && a < 0xF8 && isTail b && isTail c && isTail d && 0x10000 ≤ n && n ≤ 0x10FFFF then
    some (Char.ofNat n)
  else none

/-- How a text starts: the character there and how many bytes beyond the first encode it. -/
inductive Lead where
  | one (c : Char)
  | two (c : Char)
  | three (c : Char)
  | four (c : Char)

/-- The well-formed sequence that starts with byte `a`; a stray byte stands for `replacement`. -/
def lead (a : UInt8) (rest : Text) : Lead :=
  if a < 0x80 then .one (Char.ofNat a.toNat)
  else
    match rest with
    | [] => .one replacement
    | [b] => ((decodeTwo a b).map Lead.two).getD (.one replacement)
    | [b, c] =>
      (((decodeTwo a b).map Lead.two).or ((decodeThree a b c).map Lead.three)).getD
        (.one replacement)
    | b :: c :: d :: _ =>
      ((((decodeTwo a b).map Lead.two).or ((decodeThree a b c).map Lead.three)).or
        ((decodeFour a b c d).map Lead.four)).getD (.one replacement)

/-- The characters of a text, each with its bytes. -/
def pieces : Text → List (Char × Text)
  | [] => []
  | a :: rest =>
    match lead a rest with
    | .one ch => (ch, [a]) :: pieces rest
    | .two ch =>
      match rest with
      | b :: rest => (ch, [a, b]) :: pieces rest
      | [] => [(ch, [a])]
    | .three ch =>
      match rest with
      | b :: c :: rest => (ch, [a, b, c]) :: pieces rest
      | rest => [(ch, a :: rest)]
    | .four ch =>
      match rest with
      | b :: c :: d :: rest => (ch, [a, b, c, d]) :: pieces rest
      | rest => [(ch, a :: rest)]

/-- The characters of a text. -/
def decode (t : Text) : List Char := t.pieces.map Prod.fst

/-- The UTF-8 form of some characters. -/
def encode (cs : List Char) : Text := cs.flatMap String.utf8EncodeChar

/-- Whether a piece is a byte that encodes nothing. -/
def isStray (piece : Char × Text) : Bool := piece.1 == replacement && piece.2.length == 1

/-- The lower-case form of a text, character by character. -/
def toLower (t : Text) : Text := encode (t.decode.map lowerChar)

/-- The upper-case form of a text, character by character. -/
def toUpper (t : Text) : Text := encode (t.decode.map upperChar)

/-- The pieces of a text make up the text: reading characters loses no byte. -/
theorem pieces_flatten (t : Text) : (t.pieces.map Prod.snd).flatten = t := by
  fun_induction pieces t <;> simp_all

end TagFilter.Text
