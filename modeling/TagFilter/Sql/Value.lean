import TagFilter.Sql.Number
import TagFilter.Store.Row

/-!
# Values in SQL

A value is nothing, a number, a text or a run of bytes, in this order.  Before two values are
compared, the column that one of them comes from decides whether the other is first made a number or
a text (`Datum.align`).  Texts compare by their bytes, unless a collation says otherwise.
-/

namespace TagFilter.Sql

/-- What counts as equal between texts. -/
inductive Collation where
  | binary
  | nocase
  | rtrim
  deriving DecidableEq, Repr

namespace Collation

/-- The collation of a name. -/
def ofName? (t : Text) : Option Collation :=
  if t.folded = Text.ofString "binary" then some binary
  else if t.folded = Text.ofString "nocase" then some nocase
  else if t.folded = Text.ofString "rtrim" then some rtrim
  else none

/-- What counts of a text. -/
def key : Collation → Text → Text
  | binary, t => t
  | nocase, t => t.folded
  | rtrim, t => (t.reverse.dropWhile (· == byte ' ')).reverse

end Collation

/-- A value in SQL. -/
inductive Datum where
  | null
  | number (n : Number)
  | text (t : Text)
  | blob (t : Text)
  deriving DecidableEq, Repr

namespace Datum

/-- The value of an integer. -/
def ofInt (n : Int) : Datum := number (.int n)

/-- The value of a cell. -/
def ofCell : Cell → Datum
  | .null => null
  | .text t => text t
  | .int n => ofInt n
  | .bool b => ofInt (if b then 1 else 0)

/-- The cell of a value; numbers of double precision show as texts. -/
def toCell : Datum → Cell
  | null => .null
  | number (.int n) => .int n
  | number (.real d) => .text d.toText
  | text t | blob t => .text t

/-- A value as a text, if there is one. -/
def toText? : Datum → Option Text
  | null => none
  | number n => some n.toText
  | text t | blob t => some t

/-- A value as a number, if there is one. -/
def toNumber? : Datum → Option Number
  | null => none
  | number n => some n
  | text t | blob t => some (.ofLeading t)

/-- A value as an integer of 64 bits, if there is one. -/
def toInt? : Datum → Option Int
  | null => none
  | number n => some n.toInt
  | text t | blob t => some (Number.intOfLeading t)

/-- The value of a truth value; what is not known is nothing. -/
def ofTruth : Option Bool → Datum
  | none => null
  | some b => ofInt (if b then 1 else 0)

/-- Whether a value counts as true: a number that is not 0, or a text that starts with one. -/
def truth (d : Datum) : Option Bool := d.toNumber?.map fun n => !n.isZero

/-- The place of a kind of value among the others. -/
def rank : Datum → Nat
  | null => 0
  | number _ => 1
  | text _ => 2
  | blob _ => 3

/-! ## Operators -/

/-- What an operator makes of two values; of nothing it makes nothing. -/
def arithmetic (o : Arithmetic) (x y : Datum) : Datum :=
  match x.toNumber?, y.toNumber? with
  | some a, some b => ((Number.arithmetic? o a b).map number).getD null
  | _, _ => null

/-- What is left of a value after a division by another one.  Both count as the integers that they
start with, and what is left is an integer if both are. -/
def remainder (x y : Datum) : Datum :=
  match x.toInt?, y.toInt? with
  | some a, some b =>
    if b = 0 then null
    else
      match x.toNumber?, y.toNumber? with
      | some (.int _), some (.int _) => ofInt (a.tmod b)
      | _, _ => number (.real (.ofInt (a.tmod b)))
  | _, _ => null

/-- What an operator makes of the bits of two values. -/
def bitwise (o : Bitwise) (x y : Datum) : Datum :=
  match x.toInt?, y.toInt? with
  | some a, some b => ofInt (o.apply a b)
  | _, _ => null

/-- A value with all bits turned. -/
def complement (x : Datum) : Datum := (x.toInt?.map fun n => ofInt (-n - 1)).getD null

/-- The negative of a value. -/
def minus (x : Datum) : Datum := arithmetic .sub (ofInt 0) x

/-- Two values one after the other. -/
def concat (x y : Datum) : Datum :=
  match x, y with
  | blob s, blob t => blob (s ++ t)
  | _, _ =>
    match x.toText?, y.toText? with
    | some s, some t => text (s ++ t)
    | _, _ => null

/-! ## Order -/

/-- Compares two texts by their bytes. -/
def compareTexts (s t : Text) : Ordering :=
  if s = t then .eq else if Text.le s t then .lt else .gt

/-- Compares two values; with nothing the answer is not known. -/
def compare? (c : Collation) (a b : Datum) : Option Ordering :=
  match a, b with
  | null, _ | _, null => none
  | number x, number y => some (x.compare y)
  | text x, text y => some (compareTexts (c.key x) (c.key y))
  | blob x, blob y => some (compareTexts x y)
  | _, _ => some (Ord.compare a.rank b.rank)

/-! ## What columns make of values -/

/-- What a column makes of a value that is compared with it. -/
inductive Affinity where
  | none
  | text
  | numeric
  deriving DecidableEq, Repr

/-- The value as a column sees it. -/
def coerce (a : Affinity) : Datum → Datum
  | text t =>
    match a with
    | .numeric => ((Number.ofText? t).map number).getD (text t)
    | _ => text t
  | number n =>
    match a with
    | .text => text n.toText
    | _ => number n
  | v => v

/-- Brings two values together before they are compared: a column of numbers makes the other side a
number, and a column of texts makes what comes from no column a text. -/
def align (a b : Affinity) (x y : Datum) : Datum × Datum :=
  match a, b with
  | .numeric, _ | _, .numeric => (x.coerce .numeric, y.coerce .numeric)
  | .text, .none | .none, .text => (x.coerce .text, y.coerce .text)
  | _, _ => (x, y)

/-! ## Types -/

/-- What a value can be made by a cast. -/
inductive CastType where
  | blob
  | text
  | integer
  | real
  | numeric
  deriving DecidableEq, Repr

/-- Parts of the names of types, in the order in which they count. -/
def CastType.parts : List (String × CastType) :=
  [("int", integer), ("char", text), ("clob", text), ("text", text), ("blob", blob),
   ("real", real), ("floa", real), ("doub", real)]

/-- The type of a name. -/
def CastType.ofName (t : Text) : CastType :=
  ((parts.find? fun p => t.folded.contains p.1).map Prod.snd).getD numeric

/-- What a type makes of values that are compared with one of it. -/
def CastType.affinity : CastType → Affinity
  | blob => .none
  | text => .text
  | integer | real | numeric => .numeric

/-- A number as an integer, if it is one. -/
def wholeNumber : Number → Number
  | .int n => .int n
  | .real d => if d.compare (.finite d.toInt 0) = .eq then .int d.toInt else .real d

/-- The value made one of a type; nothing stays nothing. -/
def cast (c : CastType) (d : Datum) : Datum :=
  match c, d with
  | _, null => null
  | .blob, d => (d.toText?.map blob).getD null
  | .text, d => (d.toText?.map text).getD null
  | .integer, d => (d.toInt?.map ofInt).getD null
  | .real, d => (d.toNumber?.map fun n => number (.real n.toDouble)).getD null
  | .numeric, number n => number n
  | .numeric, d => (d.toNumber?.map fun n => number (wholeNumber n)).getD null

/-! ## Patterns -/

/-- A text and its ends, the longest first. -/
def suffixes : List Char → List (List Char)
  | [] => [[]]
  | c :: cs => (c :: cs) :: suffixes cs

/-- An ASCII letter in lower case. -/
def fold (c : Char) : Char := if 'A' ≤ c ∧ c ≤ 'Z' then Char.ofNat (c.toNat + 32) else c

/-- Whether a text fits a pattern: `%` stands for any characters, `_` for one, and ASCII letters for
themselves in either case.  After the escape character, if there is one, each character stands for
itself. -/
def like (escape? : Option Char) : List Char → List Char → Bool
  | [], s => s.isEmpty
  | p :: ps, s =>
    if escape? = some p then
      match ps, s with
      | q :: ps, c :: cs => fold q = fold c && like escape? ps cs
      | _, _ => false
    else if p = '%' then (suffixes s).any fun rest => like escape? ps rest
    else
      match s with
      | [] => false
      | c :: cs => (p = '_' || fold p = fold c) && like escape? ps cs

end Datum

end TagFilter.Sql
