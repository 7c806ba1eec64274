import TagFilter.Sql.Double

/-!
# Numbers in SQL

A number is an integer of 64 bits or a number of double precision.  Sums, differences, products and
quotients of integers are integers as long as 64 bits hold them.  `Number.readLeading?` reads the
number that a text starts with, `Number.ofText?` one that fills the text but for blanks.
-/

namespace TagFilter.Sql

/-- The operators that compute with numbers. -/
inductive Arithmetic where
  | add
  | sub
  | mul
  | div
  deriving DecidableEq, Repr

/-- The operators that compute with the bits of integers. -/
inductive Bitwise where
  | and
  | or
  | shiftLeft
  | shiftRight
  deriving DecidableEq, Repr

/-- Whether 64 bits hold an integer. -/
def isInt64 (n : Int) : Bool := -(Text.int64Bound : Int) ≤ n && n < Text.int64Bound

/-- The bits of an integer moved to the left or, by a negative distance, to the right. -/
def shiftBits (n distance : Int) : Int :=
  if 0 ≤ distance then Int.bmod (n * (Nat.pow 2 (min distance 64).toNat : Nat)) (Nat.pow 2 64)
  else n / (Nat.pow 2 (min (-distance) 64).toNat : Nat)

/-- What an operator makes of two integers of 64 bits. -/
def Bitwise.apply (o : Bitwise) (a b : Int) : Int :=
  match o with
  | .and => (Int64.ofInt a &&& Int64.ofInt b).toInt
  | .or => (Int64.ofInt a ||| Int64.ofInt b).toInt
  | .shiftLeft => shiftBits a b
  | .shiftRight => shiftBits a (-b)

/-- A number in SQL. -/
inductive Number where
  | int (n : Int)
  | real (d : Double)
  deriving DecidableEq, Repr

namespace Number

/-- A number in double precision. -/
def toDouble : Number → Double
  | int n => .ofInt n
  | real d => d

/-- The integer of 64 bits in front of the point. -/
def toInt : Number → Int
  | int n => n
  | real d => d.toInt

/-- Whether a number is zero. -/
def isZero : Number → Bool
  | int n => n == 0
  | real d => d.isZero

/-- Compares two numbers, without rounding either of them. -/
def compare : Number → Number → Ordering
  | int n, int m => Ord.compare n m
  | int n, real d => (Double.finite n 0).compare d
  | real d, int n => d.compare (Double.finite n 0)
  | real d, real e => d.compare e

/-- A number as a text. -/
def toText : Number → Text
  | int n => Text.ofInt n
  | real d => d.toText

/-! ## Arithmetic -/

/-- What an operator makes of two integers, if there is a result. -/
def onIntegers? : Arithmetic → Int → Int → Option Int
  | .add, a, b => some (a + b)
  | .sub, a, b => some (a - b)
  | .mul, a, b => some (a * b)
  | .div, a, b => if b = 0 then none else some (a.tdiv b)

/-- What an operator makes of two numbers of double precision, if there is a result. -/
def onDoubles? : Arithmetic → Double → Double → Option Double
  | .add, a, b => a.add b
  | .sub, a, b => a.sub b
  | .mul, a, b => a.mul b
  | .div, a, b => a.div b

/-- What an operator makes of two numbers, if there is a result. -/
def arithmetic? (o : Arithmetic) (a b : Number) : Option Number :=
  match a, b with
  | int n, int m => do
    let k ← onIntegers? o n m
    if isInt64 k then return int k else (onDoubles? o (.ofInt n) (.ofInt m)).map real
  | _, _ => (onDoubles? o a.toDouble b.toDouble).map real

/-! ## Reading -/

/-- Whether a byte is blank around a number. -/
def isSpace (b : UInt8) : Bool := b == byte ' ' || (9 ≤ b && b ≤ 13)

/-- The number of digits: an integer if 64 bits hold it. -/
def ofDigits (negative : Bool) (digits : Text) : Number :=
  let n : Int := Text.digitsValue digits
  let n := if negative then -n else n
  if isInt64 n then int n else real (.ofInt n)

/-- The power of ten at the start of a text, if digits follow its letter, and what follows it. -/
def readPower? (t : Text) : Option (Int × Text) :=
  match t with
  | [] => none
  | b :: rest =>
    let (negative, after) := Text.splitSign rest
    let digits := after.takeWhile Text.isDigitByte
    if (b = byte 'e' ∨ b = byte 'E') ∧ !digits.isEmpty then
      let n : Int := Text.digitsValue digits
      some (if negative then -n else n, after.drop digits.length)
    else none

/-- The number at the start of a text, and what follows it.  Without a point and a power of ten it
is an integer. -/
def readLeading? (t : Text) : Option (Number × Text) :=
  let (negative, unsigned) := Text.splitSign t
  let whole := unsigned.takeWhile Text.isDigitByte
  let rest := unsigned.drop whole.length
  let (point, fraction) := match rest with
    | b :: after => if b = byte '.' then (1, after.takeWhile Text.isDigitByte) else (0, [])
    | [] => (0, [])
  let rest := rest.drop (point + fraction.length)
  if whole.isEmpty && fraction.isEmpty then none
  else
    match readPower? rest with
    | some (power, after) =>
      let d : Decimal := ⟨negative, Text.digitsValue (whole ++ fraction), power - fraction.length⟩
      some (real (.ofDecimal d), after)
    | none =>
      if point = 0 then some (ofDigits negative whole, rest)
      else
        let d : Decimal := ⟨negative, Text.digitsValue (whole ++ fraction), -fraction.length⟩
        some (real (.ofDecimal d), rest)

/-- The number that a text starts with after blanks; a text that starts with none counts as 0. -/
def ofLeading (t : Text) : Number :=
  ((readLeading? (t.dropWhile isSpace)).map Prod.fst).getD (int 0)

/-- The number that a whole text writes, blanks around it apart. -/
def ofText? (t : Text) : Option Number :=
  match readLeading? (t.dropWhile isSpace) with
  | some (n, rest) => if rest.all isSpace then some n else none
  | none => none

/-- The integer of 64 bits that a text starts with after blanks; beyond them the outermost one. -/
def intOfLeading (t : Text) : Int :=
  let (negative, rest) := Text.splitSign (t.dropWhile isSpace)
  let n : Int := Text.digitsValue (rest.takeWhile Text.isDigitByte)
  if negative then max (-n) (-Text.int64Bound) else min n (Text.int64Bound - 1)

end Number

end TagFilter.Sql
