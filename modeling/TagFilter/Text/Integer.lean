import TagFilter.Text.Quoted

/-!
# Reading integers and switches

`Text.toInteger` reads a 64-bit integer in decimal digits, `Text.toPrefixedInteger` one that may
also be written with `0x`, `0o`, `0b` or a leading zero and with underscores between digits.  A
number that grows past 64 bits is out of range even if what follows is no digit.
-/

namespace TagFilter

/-- Why a text is no number. -/
inductive NumberProblem where
  | malformed
  | outOfRange
  deriving DecidableEq, Repr

/-- The problem in words. -/
def NumberProblem.message : NumberProblem → String
  | malformed => "invalid syntax"
  | outOfRange => "value out of range"

namespace Text

/-- The value of a digit in bases up to 36. -/
def anyDigit? (b : UInt8) : Option Nat :=
  if isDigitByte b then some (digitValue b)
  else if byte 'a' ≤ b && b ≤ byte 'z' then some (b.toNat - 87)
  else if byte 'A' ≤ b && b ≤ byte 'Z' then some (b.toNat - 55)
  else none

/-- Reads digits after those that make `n`. -/
def readDigits (base : Nat) (n : Nat) : Text → Except NumberProblem Nat
  | [] => .ok n
  | b :: rest =>
    match anyDigit? b with
    | some d =>
      if base ≤ d then .error .malformed
      else if 2 * int64Bound ≤ base * n + d then .error .outOfRange
      else readDigits base (base * n + d) rest
    | none => .error .malformed

/-- A sign in front of a text, and the text behind it. -/
def splitSign : Text → Bool × Text
  | [] => (false, [])
  | b :: rest =>
    if b = byte '-' then (true, rest)
    else if b = byte '+' then (false, rest)
    else (false, b :: rest)

/-- Gives a number a sign, if it stays within 64 bits. -/
def signed (negative : Bool) (n : Nat) : Except NumberProblem Int :=
  if negative then (if n ≤ int64Bound then .ok (-(n : Int)) else .error .outOfRange)
  else if n < int64Bound then .ok n else .error .outOfRange

/-- The 64-bit integer that a text writes in decimal digits. -/
def toInteger (t : Text) : Except NumberProblem Int := do
  let (negative, digits) := splitSign t
  if digits.isEmpty then throw .malformed
  signed negative (← readDigits 10 0 digits)

/-- The base that a letter after a zero stands for. -/
def baseOfLetter? (b : UInt8) : Option Nat :=
  if b = byte 'x' ∨ b = byte 'X' then some 16
  else if b = byte 'o' ∨ b = byte 'O' then some 8
  else if b = byte 'b' ∨ b = byte 'B' then some 2
  else none

/-- The base that a number is written in, whether a letter says so, and its digits. -/
def splitBase (t : Text) : Nat × Bool × Text :=
  match t with
  | z :: letter :: d :: rest =>
    if z = byte '0' then
      match baseOfLetter? letter with
      | some base => (base, true, d :: rest)
      | none => (8, false, letter :: d :: rest)
    else (10, false, t)
  | z :: rest => if z = byte '0' then (8, false, rest) else (10, false, t)
  | [] => (10, false, [])

/-- Whether every underscore stands between two digits; `after` says whether one may come next. -/
def underscoresSeparate (after : Bool) : Text → Bool
  | [] => true
  | b :: rest =>
    if b = byte '_' then
      after && (match rest with
        | [] => false
        | c :: _ => c != byte '_') && underscoresSeparate false rest
    else underscoresSeparate true rest

/-- The number below `2 ^ 64` that a text writes in decimal digits or in the base its first digits
name. -/
def toPrefixedNatural (t : Text) : Except NumberProblem Nat := do
  if t.isEmpty then throw .malformed
  let (base, named, digits) := splitBase t
  let n ← readDigits base 0 (digits.filter (· != byte '_'))
  let zeroed := named || base == 8
  if !underscoresSeparate zeroed digits then throw .malformed
  return n

/-- The 64-bit integer that a text writes in decimal digits or in the base its first digits name. -/
def toPrefixedInteger (t : Text) : Except NumberProblem Int := do
  let (negative, number) := splitSign t
  signed negative (← toPrefixedNatural number)

/-- The words that turn a switch on. -/
def trueWords : List String := ["1", "t", "T", "TRUE", "true", "True"]

/-- The words that turn a switch off. -/
def falseWords : List String := ["0", "f", "F", "FALSE", "false", "False"]

/-- The position of a switch that a word names. -/
def toSwitch? (t : Text) : Option Bool :=
  if trueWords.any fun w => (w : Text) == t then some true
  else if falseWords.any fun w => (w : Text) == t then some false
  else none

end Text

end TagFilter
