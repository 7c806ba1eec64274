import TagFilter.Text.Integer

/-!
# Decimals

A `Decimal` is a number in decimal digits.  Numbers with a point are kept to the precision of 64
bits, of which 53 are digits: `Decimal.nearest?` is the closest such number, a multiple of a power
of two, and `Decimal.shortest?` the decimal with the fewest digits that is still closest to it.
`Decimal.toText` writes a decimal without an exponent, and `Decimal.toShortText` one that is very
large or very small with it.
-/

namespace TagFilter

/-- The number `digits * 10 ^ exponent`, with a sign. -/
structure Decimal where
  negative : Bool
  digits : Nat
  exponent : Int
  deriving DecidableEq, Repr

/-- The number `digits * 2 ^ exponent`. -/
structure Binary where
  digits : Nat
  exponent : Int
  deriving DecidableEq, Repr

namespace Decimal

/-! ## Reading and writing -/

/-- The decimal that a text writes with digits, a point and an exponent. -/
def ofText? (t : Text) : Option Decimal :=
  let (negative, number) := Text.splitSign t
  let isExponent (b : UInt8) : Bool := b == byte 'e' || b == byte 'E'
  let mantissa := number.takeWhile fun b => !isExponent b
  let (whole, fraction?) := Text.cut (byte '.') mantissa
  let fraction := fraction?.getD []
  let digits := whole ++ fraction
  let (below, power) := Text.splitSign (number.drop (mantissa.length + 1))
  let written := mantissa.length < number.length
  if digits.isEmpty || !digits.all Text.isDigitByte || !power.all Text.isDigitByte ||
      (written && power.isEmpty) then none
  else
    let power : Int := Text.digitsValue power
    some ⟨negative, Text.digitsValue digits, (if below then -power else power) - fraction.length⟩

/-- The decimal without an exponent, and without zeros that do not count. -/
def toText (d : Decimal) : Text :=
  let digits := Text.ofNat d.digits
  let point : Int := digits.length + d.exponent
  let padded : Text := List.replicate (-point).toNat (byte '0') ++ digits ++
    List.replicate d.exponent.toNat (byte '0')
  let whole := (padded.take point.toNat).dropWhile (· == byte '0')
  let fraction := ((padded.drop point.toNat).reverse.dropWhile (· == byte '0')).reverse
  (if d.negative then [byte '-'] else []) ++ (if whole.isEmpty then [byte '0'] else whole) ++
    (if fraction.isEmpty then [] else byte '.' :: fraction)

/-- The decimal without zeros at the end of its digits. -/
def trimmed (d : Decimal) : Nat → Decimal
  | 0 => d
  | fuel + 1 =>
    if d.digits ≠ 0 ∧ d.digits % 10 = 0 then
      trimmed ⟨d.negative, d.digits / 10, d.exponent + 1⟩ fuel
    else d

/-- The decimal with an exponent if it is below a ten-thousandth or has more than 21 digits, and
without one otherwise. -/
def toShortText (d : Decimal) : Text :=
  let t := d.trimmed (Text.ofNat d.digits).length
  let digits := Text.ofNat t.digits
  let power : Int := digits.length + t.exponent - 1
  if t.digits = 0 || (-4 ≤ power && power < 21) then d.toText
  else
    let size := Text.ofNat power.natAbs
    (if d.negative then [byte '-'] else []) ++ digits.take 1 ++
      (if digits.length = 1 then [] else byte '.' :: digits.drop 1) ++
      (if power < 0 then "e-" else "e+") ++
      (if size.length = 1 then byte '0' :: size else size)

/-! ## Rounding -/

/-- `b ^ e` above the line and below it, of which one is `1`. -/
def fractionOfPower (b : Nat) (e : Int) : Nat × Nat :=
  (Nat.pow b e.toNat, Nat.pow b (-e).toNat)

/-- The quotient to the nearest integer; a half goes to the even neighbour. -/
def roundedQuotient (n d : Nat) : Nat :=
  let q := n / d
  let r := n % d
  if 2 * r < d then q else if d < 2 * r then q + 1 else q + q % 2

/-- The smallest exponent of a number of 64 bits. -/
def leastExponent : Int := -1074

/-- The largest exponent of a number of 64 bits. -/
def greatestExponent : Int := 971

/-- The number of 64 bits nearest to `n / d`, unless it is too large. -/
def nearestTo? (n d : Nat) : Option Binary :=
  if n = 0 then some ⟨0, leastExponent⟩
  else
    let rounded (e : Int) : Nat :=
      let (up, down) := fractionOfPower 2 e
      roundedQuotient (n * down) (d * up)
    let guess : Int := max ((Nat.log2 n : Int) - Nat.log2 d - 53) leastExponent
    let exponent := if Nat.pow 2 53 ≤ rounded guess then guess + 1 else guess
    let digits := rounded exponent
    let found : Binary :=
      if Nat.pow 2 53 ≤ digits then ⟨digits / 2, exponent + 1⟩ else ⟨digits, exponent⟩
    if greatestExponent < found.exponent then none else some found

/-- The number of 64 bits nearest to a decimal, unless it is too large. -/
def nearest? (d : Decimal) : Option Binary :=
  let size : Int := (Text.ofNat d.digits).length + d.exponent
  if d.digits = 0 || size < -330 then some ⟨0, leastExponent⟩
  else if 310 < size then none
  else
    let (up, down) := fractionOfPower 10 d.exponent
    nearestTo? (d.digits * up) down

/-- Whether a fraction is nearest to a binary number among the numbers of 64 bits. -/
def isNearest (b : Binary) (n d : Nat) : Bool := nearestTo? n d == some b

/-- The decimal with the fewest digits that is nearest to the same number of 64 bits, unless that is
too large. -/
def shortest? (d : Decimal) : Option Decimal := do
  let b ← d.nearest?
  if b.digits = 0 then some ⟨d.negative, 0, 0⟩
  else
    let (up, down) := fractionOfPower 2 b.exponent
    let n := b.digits * up
    let leading : Int := (Text.ofNat d.digits).length + d.exponent
    (List.range 19).findSome? fun (places : Nat) =>
      let exponent := leading - places
      let (gridUp, gridDown) := fractionOfPower 10 exponent
      let below := n * gridDown / (down * gridUp)
      let fits (digits : Nat) : Bool := isNearest b (digits * gridUp) gridDown
      let above := below + 1
      -- Which of the two is closer: twice the number against their sum.
      let closer :=
        if 2 * n * gridDown ≤ (below + above) * (down * gridUp) then [below, above]
        else [above, below]
      (closer.find? fits).map fun digits => ⟨d.negative, digits, exponent⟩

end Decimal

end TagFilter
