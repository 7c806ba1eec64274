import TagFilter.Text.Basic

/-!
# Bytes in base 64

Four letters of an alphabet of 64 stand for three bytes.  The last group may lack one or two bytes,
and has an equals sign in place of each.
-/

namespace TagFilter.Text

/-- The value of a letter of the alphabet. -/
def sextet? (b : UInt8) : Option Nat :=
  if byte 'A' ≤ b && b ≤ byte 'Z' then some (b.toNat - 65)
  else if byte 'a' ≤ b && b ≤ byte 'z' then some (b.toNat - 71)
  else if isDigitByte b then some (b.toNat + 4)
  else if b = byte '+' then some 62
  else if b = byte '/' then some 63
  else none

/-- The three bytes of a group of four letters. -/
def groupBytes? (a b c d : UInt8) : Option Text := do
  let n := 262144 * (← sextet? a) + 4096 * (← sextet? b) + 64 * (← sextet? c) + (← sextet? d)
  return [(n / 65536).toUInt8, (n / 256).toUInt8, n.toUInt8]

/-- The bytes of the last group. -/
def lastBytes? (a b c d : UInt8) : Option Text :=
  let zero := byte 'A'
  let pad := byte '='
  if c = pad && d = pad then (groupBytes? a b zero zero).map (·.take 1)
  else if d = pad then (groupBytes? a b c zero).map (·.take 2)
  else groupBytes? a b c d

/-- The bytes of some groups. -/
def groupsBytes? : Text → Option Text
  | [] => some []
  | [a, b, c, d] => lastBytes? a b c d
  | a :: b :: c :: d :: rest => do return (← groupBytes? a b c d) ++ (← groupsBytes? rest)
  | _ => none

/-- The bytes that a text writes in base 64; line breaks do not count. -/
def ofBase64? (t : Text) : Option Text :=
  groupsBytes? (t.filter fun b => b != byte '\n' && b != byte '\r')

end TagFilter.Text
