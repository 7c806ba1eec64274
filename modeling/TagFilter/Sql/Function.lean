import TagFilter.Sql.Value

/-!
# Functions in SQL

`Function` names the functions that expressions may call, and `Function.apply` is what one makes of
the values it is given.  Those that read texts work on characters; most make nothing of nothing.
-/

namespace TagFilter.Sql

/-- The functions that expressions may call. -/
inductive Function where
  | abs
  | coalesce
  | hex
  | ifnull
  | iif
  | instr
  | length
  | like
  | lower
  | ltrim
  | max
  | min
  | nullif
  | replace
  | rtrim
  | substr
  | trim
  | typeof
  | upper
  deriving DecidableEq, Repr

namespace Function

/-- The functions by their names; some have two. -/
def names : List (String × Function) :=
  [("abs", abs), ("coalesce", coalesce), ("hex", hex), ("if", iif), ("ifnull", ifnull),
   ("iif", iif), ("instr", instr), ("length", length), ("like", like), ("lower", lower),
   ("ltrim", ltrim), ("max", max), ("min", min), ("nullif", nullif), ("replace", replace),
   ("rtrim", rtrim), ("substr", substr), ("substring", substr), ("trim", trim),
   ("typeof", typeof), ("upper", upper)]

/-- The function of a name, whatever its letter case. -/
def ofName? (t : Text) : Option Function :=
  (names.find? fun p => Text.ofString p.1 == t.folded).map Prod.snd

/-- Whether a function takes a number of values. -/
def takes (f : Function) (n : Nat) : Bool :=
  match f with
  | abs | hex | length | lower | typeof | upper => n == 1
  | ifnull | instr | nullif => n == 2
  | replace => n == 3
  | ltrim | rtrim | trim => n == 1 || n == 2
  | like | substr => n == 2 || n == 3
  | coalesce | iif | max | min => 2 ≤ n

/-! ## Texts -/

/-- What a function on texts makes of a value. -/
def onText (f : Text → Text) (d : Datum) : Datum := (d.toText?.map fun t => .text (f t)).getD .null

/-- The length of the longest text. -/
def greatestLength : Int := 1000000000

/-- The part of some characters that starts at a place, counted from 1 or, if it is negative, from
the end, and has a length; a negative length takes what stands before the place. -/
def part {α : Type} (cs : List α) (start : Int) (length? : Option Int) : List α :=
  let size : Int := cs.length
  let wanted := (length?.map fun n => (n.natAbs : Int)).getD greatestLength
  let (start, wanted) :=
    if start < 0 then
      if start + size < 0 then (0, Max.max (wanted + start + size) 0) else (start + size, wanted)
    else if 0 < start then (start - 1, wanted)
    else (0, if 0 < wanted then wanted - 1 else 0)
  let (start, wanted) :=
    if (length?.map fun n => decide (n < 0)).getD false then
      let before := start - wanted
      if before < 0 then (0, wanted + before) else (before, wanted)
    else (start, wanted)
  (cs.drop start.toNat).take wanted.toNat

/-- The place of some characters among others, counted from 1; 0 if they are not there. -/
def place {α : Type} [BEq α] (wanted : List α) (n : Nat) : List α → Nat
  | [] => if wanted.isEmpty then n else 0
  | c :: cs => if wanted.isPrefixOf (c :: cs) then n else place wanted (n + 1) cs

/-- A text with each occurrence of another one replaced; `skip` bytes are left out first. -/
def replaceAll (old new : Text) (skip : Nat) : Text → Text
  | [] => []
  | b :: rest =>
    match skip with
    | skip + 1 => replaceAll old new skip rest
    | 0 =>
      if old.isPrefixOf (b :: rest) then new ++ replaceAll old new (old.length - 1) rest
      else b :: replaceAll old new 0 rest

/-- Takes characters away from the start or the end of a text, or both. -/
def trimmed (start stop : Bool) (d : Datum) (set : Datum) : Datum :=
  match d.toText?, set.toText? with
  | some t, some u =>
    let isIn (c : Char) : Bool := u.decode.contains c
    let cs := if start then t.decode.dropWhile isIn else t.decode
    .text (Text.encode (if stop then (cs.reverse.dropWhile isIn).reverse else cs))
  | _, _ => .null

/-- Whether a text fits a pattern, if both are there; runs of bytes fit none. -/
def likeTruth (pattern value : Datum) (escape? : Option Char) : Option Bool :=
  match pattern, value with
  | .blob _, _ | _, .blob _ => some false
  | _, _ => do
    return Datum.like escape? (← pattern.toText?).decode (← value.toText?).decode

/-! ## Values -/

/-- The first value that is not nothing. -/
def firstKnown : List Datum → Datum
  | [] => .null
  | d :: ds => if d = .null then firstKnown ds else d

/-- The value behind the first condition that is true, or the last value if it has none in front. -/
def chosen : List Datum → Datum
  | [] => .null
  | [d] => d
  | c :: d :: ds => if c.truth = some true then d else chosen ds

/-- The value that comes first in an order, unless one is nothing. -/
def outermost (o : Ordering) : List Datum → Datum
  | [] => .null
  | [d] => d
  | d :: ds =>
    let e := outermost o ds
    match Datum.compare? .binary d e with
    | none => .null
    | some order => if order = .eq ∨ order = o then d else e

/-- The size of a number. -/
def magnitude : Datum → Datum
  | .null => .null
  | .number n => if n.compare (.int 0) = .lt then Datum.minus (.number n) else .number n
  | d =>
    match d.toNumber? with
    | some n => .number (.real (if n.toDouble.isNegative then n.toDouble.neg else n.toDouble))
    | none => .null

/-- The name of the kind of a value. -/
def kind : Datum → String
  | .null => "null"
  | .number (.int _) => "integer"
  | .number (.real _) => "real"
  | .text _ => "text"
  | .blob _ => "blob"

/-- What a function makes of values, of which it takes as many as there are. -/
def apply (f : Function) (args : List Datum) : Datum :=
  match f, args with
  | abs, [d] => magnitude d
  | coalesce, ds | ifnull, ds => firstKnown ds
  | hex, [d] => .text (((d.toText?.getD []).flatMap fun b => Text.hex 2 b.toNat).map Text.upperByte)
  | iif, ds => chosen ds
  | instr, [.blob t, .blob u] => .ofInt (place u 1 t)
  | instr, [d, e] =>
    match d.toText?, e.toText? with
    | some t, some u => .ofInt (place u.decode 1 t.decode)
    | _, _ => .null
  | length, [.blob t] => .ofInt t.length
  | length, [d] => (d.toText?.map fun t => Datum.ofInt t.decode.length).getD .null
  | like, [p, d] => .ofTruth (likeTruth p d none)
  | like, [p, d, e] =>
    match e.toText? with
    | some t => .ofTruth (likeTruth p d t.decode.head?)
    | none => .null
  | lower, [d] => onText Text.folded d
  | ltrim, [d] => trimmed true false d (.text " ")
  | ltrim, [d, set] => trimmed true false d set
  | max, ds => outermost .gt ds
  | min, ds => outermost .lt ds
  | nullif, [d, e] => if Datum.compare? .binary d e = some .eq then .null else d
  | replace, [d, old, new] =>
    match d.toText?, old.toText?, new.toText? with
    | some t, some u, some v => .text (if u.isEmpty then t else replaceAll u v 0 t)
    | _, _, _ => .null
  | rtrim, [d] => trimmed false true d (.text " ")
  | rtrim, [d, set] => trimmed false true d set
  | substr, d :: start :: size =>
    let size? := size.head?.bind Datum.toInt?
    match d, start.toInt?, size.all (· != .null) with
    | .blob t, some n, true => .blob (part t n size?)
    | d, some n, true => onText (fun t => Text.encode (part t.decode n size?)) d
    | _, _, _ => .null
  | trim, [d] => trimmed true true d (.text " ")
  | trim, [d, set] => trimmed true true d set
  | typeof, [d] => .text (kind d)
  | upper, [d] => onText (fun t => t.map Text.upperByte) d
  | _, _ => .null

end Function

end TagFilter.Sql
