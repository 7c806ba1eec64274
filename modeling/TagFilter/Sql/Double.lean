import TagFilter.Text.Decimal

/-!
# Numbers of double precision

A `Double` is a number of 64 bits, a multiple of a power of two, or infinite.  What an operation
gives is the number nearest to the exact result, so the operations compute with fractions and round
once.  Where there is no result, such as the difference of two infinite numbers, they give none.

`Double.toText` shows at most 15 digits, and at least one on each side of the point.
-/

namespace TagFilter.Sql

/-- The number `n * 2 ^ exponent`, or one beyond all of them. -/
inductive Double where
  | finite (n : Int) (exponent : Int)
  | infinite (negative : Bool)
  deriving DecidableEq, Repr

namespace Double

/-- The number nearest to `n / d`. -/
def ofFraction (n : Int) (d : Nat) : Double :=
  match Decimal.nearestTo? n.natAbs d with
  | some b => finite (if n < 0 then -b.digits else b.digits) b.exponent
  | none => infinite (n < 0)

/-- The number nearest to an integer. -/
def ofInt (n : Int) : Double := ofFraction n 1

/-- The number nearest to a decimal. -/
def ofDecimal (d : Decimal) : Double :=
  match d.nearest? with
  | some b => finite (if d.negative then -b.digits else b.digits) b.exponent
  | none => infinite d.negative

/-- The part above the line of a fraction that is `n * 2 ^ exponent`. -/
def above (n exponent : Int) : Int := n * (Nat.pow 2 exponent.toNat : Nat)

/-- The part below the line of a fraction that is a multiple of `2 ^ exponent`. -/
def below (exponent : Int) : Nat := Nat.pow 2 (-exponent).toNat

/-- Whether a number is zero. -/
def isZero : Double → Bool
  | finite n _ => n == 0
  | infinite _ => false

/-- Whether a number is below zero. -/
def isNegative : Double → Bool
  | finite n _ => n < 0
  | infinite negative => negative

/-! ## Arithmetic -/

/-- The negative of a number. -/
def neg : Double → Double
  | finite n e => finite (-n) e
  | infinite negative => infinite (!negative)

/-- The sum of two numbers. -/
def add : Double → Double → Option Double
  | finite n e, finite m f =>
    some (ofFraction (above n e * below f + above m f * below e) (below e * below f))
  | infinite s, infinite t => if s = t then some (infinite s) else none
  | infinite s, _ | _, infinite s => some (infinite s)

/-- The difference of two numbers. -/
def sub (a b : Double) : Option Double := a.add b.neg

/-- The product of two numbers. -/
def mul (a b : Double) : Option Double :=
  match a, b with
  | finite n e, finite m f => some (ofFraction (above n e * above m f) (below e * below f))
  | _, _ =>
    if a.isZero || b.isZero then none else some (infinite (a.isNegative != b.isNegative))

/-- The quotient of two numbers; there is none by zero. -/
def div (a b : Double) : Option Double :=
  match a, b with
  | finite n e, finite m f =>
    if m = 0 then none
    else
      let sign : Int := if m < 0 then -1 else 1
      some (ofFraction (sign * above n e * below f) (below e * (above m f).natAbs))
  | finite _ _, infinite _ => some (finite 0 0)
  | infinite s, finite m _ => if m = 0 then none else some (infinite (s != decide (m < 0)))
  | infinite _, infinite _ => none

/-- Compares two numbers. -/
def compare : Double → Double → Ordering
  | finite n e, finite m f => Ord.compare (above n e * below f) (above m f * below e)
  | infinite s, infinite t => if s = t then .eq else if s then .lt else .gt
  | infinite s, finite _ _ => if s then .lt else .gt
  | finite _ _, infinite s => if s then .gt else .lt

/-- The integer of 64 bits that a number has before its point; beyond them the outermost one. -/
def toInt : Double → Int
  | finite n e =>
    let whole := (above n e).tdiv (below e)
    max (-(Text.int64Bound : Int)) (min whole ((Text.int64Bound : Int) - 1))
  | infinite negative => if negative then -Text.int64Bound else (Text.int64Bound : Int) - 1

/-! ## Texts -/

/-- How many digits show. -/
def shownDigits : Nat := 15

/-- The digits that show of `n / d`, with the power of ten of the first one. -/
def significant (n d : Nat) : Text × Int :=
  -- No number is so small that this many places leave nothing of it.
  let places := 330
  let first : Int := (Text.ofNat (n * Nat.pow 10 places / d)).length - 1 - places
  let (up, down) := Decimal.fractionOfPower 10 (shownDigits - 1 - first)
  let digits := Text.ofNat ((2 * n * up + d * down) / (2 * d * down))
  let first := if shownDigits < digits.length then first + 1 else first
  ((digits.reverse.dropWhile (· == byte '0')).reverse, first)

/-- Some digits behind a point, at least one. -/
def fractionText (digits : Text) : Text := if digits.isEmpty then ".0" else byte '.' :: digits

/-- Digits, the first one of a power of ten, as a text: with an exponent when the number is very
large or very small. -/
def digitsText (digits : Text) (first : Int) : Text :=
  if first < -4 ∨ shownDigits ≤ first then
    let power := Text.ofNat first.natAbs
    digits.take 1 ++ fractionText digits.tail ++ (if first < 0 then "e-" else "e+" : String) ++
      (if power.length < 2 then byte '0' :: power else power)
  else if first < 0 then "0." ++ List.replicate (-first - 1).toNat (byte '0') ++ digits
  else
    let padded := digits ++ List.replicate ((first + 1).toNat - digits.length) (byte '0')
    padded.take (first + 1).toNat ++ fractionText (padded.drop (first + 1).toNat)

/-- A number as a text. -/
def toText : Double → Text
  | finite n e =>
    if n = 0 then "0.0"
    else
      let (digits, first) := significant (above n e).natAbs (below e)
      (if n < 0 then "-" else "" : String) ++ digitsText digits first
  | infinite negative => if negative then "-Inf" else "Inf"

end Double

end TagFilter.Sql
