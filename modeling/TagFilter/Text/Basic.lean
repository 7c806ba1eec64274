/-!
# Texts

A text is a list of bytes.  Most texts are the UTF-8 form of some characters, but a filter
expression may hold any bytes and every offset into it counts bytes, so the bytes come first.
String literals stand for their UTF-8 bytes (`Text.ofString`), and `byte` names a byte by the ASCII
character it encodes.
-/

namespace TagFilter

/-- A text is a list of bytes. -/
abbrev Text := List UInt8

/-- The byte that encodes an ASCII character. -/
def byte (c : Char) : UInt8 := c.toNat.toUInt8

namespace Text

/-- The UTF-8 bytes of a string. -/
def ofString (s : String) : Text := s.toByteArray.data.toList

instance : Coe String Text := ⟨ofString⟩

/-- The string whose UTF-8 form a text is, if it is well formed. -/
def toString? (t : Text) : Option String := String.fromUTF8? ⟨t.toArray⟩

/-! ## Digits and numbers -/

/-- Whether a byte is an ASCII digit. -/
def isDigitByte (b : UInt8) : Bool := byte '0' ≤ b && b ≤ byte '9'

/-- The number an ASCII digit stands for. -/
def digitValue (b : UInt8) : Nat := b.toNat - 48

/-- The number written by a run of ASCII digits. -/
def digitsValue (t : Text) : Nat := t.foldl (fun n b => 10 * n + digitValue b) 0

/-- A number in decimal digits. -/
def ofNat (n : Nat) : Text := ofString (toString n)

/-- The number of integers of 64 bits that are not negative. -/
def int64Bound : Nat := 9223372036854775808

/-- An integer in decimal digits, with a minus sign when it is negative. -/
def ofInt (n : Int) : Text := if n < 0 then byte '-' :: ofNat n.natAbs else ofNat n.natAbs

/-! ## Letter case -/

/-- An ASCII letter in lower case. -/
def lowerByte (b : UInt8) : UInt8 := if byte 'A' ≤ b && b ≤ byte 'Z' then b + 32 else b

/-- An ASCII letter in upper case. -/
def upperByte (b : UInt8) : UInt8 := if byte 'a' ≤ b && b ≤ byte 'z' then b - 32 else b

/-- A text with its ASCII letters in lower case. -/
def folded (t : Text) : Text := t.map lowerByte

/-! ## Taking texts apart and putting them together -/

/-- The texts in order with `separator` between neighbours. -/
def join (separator : Text) : List Text → Text
  | [] => []
  | [t] => t
  | t :: u :: rest => t ++ separator ++ join separator (u :: rest)

/-- The pieces between the occurrences of a byte; one more than there are occurrences. -/
def splitOn (b : UInt8) : Text → List Text
  | [] => [[]]
  | c :: rest =>
    if c = b then [] :: splitOn b rest
    else
      match splitOn b rest with
      | [] => [[c]]
      | piece :: pieces => (c :: piece) :: pieces

/-- The part before the first occurrence of a byte and, if there is one, the part after it. -/
def cut (b : UInt8) : Text → Text × Option Text
  | [] => ([], none)
  | c :: rest =>
    if c = b then ([], some rest)
    else
      let (before, after) := cut b rest
      (c :: before, after)

/-- The text without `start` in front, if it begins with it. -/
def dropPrefix? (t : Text) (start : Text) : Option Text :=
  if start.isPrefixOf t then some (t.drop start.length) else none

/-- The text with every occurrence of a byte replaced. -/
def replaceByte (t : Text) (b : UInt8) (other : Text) : Text :=
  t.flatMap fun c => if c = b then other else [c]

/-- `n` copies of a text. -/
def replicate (n : Nat) (t : Text) : Text := (List.replicate n t).flatten

/-- Whether the second text occurs in the first. -/
def contains (t : Text) (part : Text) : Bool :=
  part.isPrefixOf t ||
    match t with
    | [] => false
    | _ :: rest => contains rest part

/-- The order of texts by their bytes. -/
def le : Text → Text → Bool
  | [], _ => true
  | _ :: _, [] => false
  | a :: s, b :: t => a < b || (a == b && le s t)

end Text

end TagFilter
