import TagFilter.Date.Layout
import TagFilter.Text.Base64
import TagFilter.Text.Decimal
import TagFilter.Yaml.Basic

/-!
# Values of YAML nodes

What a node means when nothing is known of its shape: a plain scalar may be nothing, a switch, a
number or a moment, and every other scalar is a text, unless a tag says otherwise.  `Value.merge`
lays one value over another; mappings are joined member by member.
-/

namespace TagFilter

/-- What a YAML node means. -/
inductive Value where
  | null
  | bool (b : Bool)
  | int (n : Int)
  | float (text : Text)
  | moment (text : Text)
  | text (t : Text)
  | list (items : List Value)
  | record (members : List (Text × Value))
  deriving Inhabited, Repr

namespace Value

/-! ## Numbers -/

/-- The number that a text writes with digits, a point and an exponent, in as few digits as tell it
from other numbers. -/
def toFloat? (t : Text) : Option Text :=
  ((Decimal.ofText? t).bind Decimal.shortest?).map Decimal.toText

/-- Whether every underscore stands between two digits; `digit` says whether one comes first. -/
def separatesDigits (digit : Bool) : Text → Bool
  | [] => true
  | b :: rest =>
    if b = byte '_' then
      digit && ((rest.head?.map Text.isDigitByte).getD false) && separatesDigits false rest
    else separatesDigits (Text.isDigitByte b) rest

/-- The integer behind a start that names its base; its sign stands behind that start. -/
def signedBehind? (start : String) (base : Nat) (t : Text) : Option Int := do
  let (negative, digits) := Text.splitSign (← Text.dropPrefix? t start)
  if digits.isEmpty then none
  else (((Text.readDigits base 0 digits).bind (Text.signed negative)).toOption)

/-- The integer that a text writes in any base: one with a sign or one of 64 bits without. -/
def toInt? (t : Text) : Option Int :=
  (Text.toPrefixedInteger t).toOption.or <|
    ((Text.toPrefixedNatural t).toOption.map Int.ofNat).or <|
      (signedBehind? "0b" 2 t).or (signedBehind? "0o" 8 t)

/-! ## Moments -/

/-- The ways to write a moment. -/
def momentLayouts : List Layout :=
  ["2006-1-2T15:4:5Z", "2006-1-2T15:4:5-07:00", "2006-1-2t15:4:5Z", "2006-1-2t15:4:5-07:00",
   "2006-1-2 15:4:5", "2006-1-2"].map fun (s : String) => Layout.ofText s

/-- Whether a text writes a moment: a year of four digits, and the rest of one of the layouts. -/
def isMoment (t : Text) : Bool :=
  (t.takeWhile Text.isDigitByte).length == 4 && (t.drop 4).head? == some (byte '-') &&
    momentLayouts.any fun l => (l.read? t).isSome

/-! ## Scalars -/

/-- The plain scalars that are words for something. -/
def words : List (String × Value) :=
  [("", .null), ("~", .null), ("null", .null), ("Null", .null), ("NULL", .null),
   ("true", .bool true), ("True", .bool true), ("TRUE", .bool true),
   ("false", .bool false), ("False", .bool false), ("FALSE", .bool false),
   (".nan", .float "NaN"), (".NaN", .float "NaN"), (".NAN", .float "NaN"),
   (".inf", .float "+Inf"), (".Inf", .float "+Inf"), (".INF", .float "+Inf"),
   ("+.inf", .float "+Inf"), ("+.Inf", .float "+Inf"), ("+.INF", .float "+Inf"),
   ("-.inf", .float "-Inf"), ("-.Inf", .float "-Inf"), ("-.INF", .float "-Inf")]

/-- What a plain scalar means that starts with a digit or a sign. -/
def ofNumber (moments : Bool) (t : Text) : Value :=
  if moments && isMoment t then .moment t
  else
    let number := t.filter (· != byte '_')
    match toInt? number with
    | some n => .int n
    | none => ((toFloat? number).map Value.float).getD (.text t)

/-- What a plain scalar means; `moments` says that it may be a moment. -/
def ofPlain (moments : Bool) (t : Text) : Value :=
  match words.find? fun w => (w.1 : Text) == t with
  | some (_, v) => v
  | none =>
    match t.head? with
    | some b =>
      if b = byte '.' then
        if separatesDigits false t then
          ((toFloat? (t.filter (· != byte '_'))).map Value.float).getD (.text t)
        else .text t
      else if Text.isDigitByte b || b = byte '+' || b = byte '-' then ofNumber moments t
      else .text t
    | none => .null

/-- The tag of what a scalar means. -/
def tag : Value → String
  | null => "!!null"
  | bool _ => "!!bool"
  | int _ => "!!int"
  | float _ => "!!float"
  | moment _ => "!!timestamp"
  | text _ => "!!str"
  | list _ => "!!seq"
  | record _ => "!!map"

/-- The tags of the scalars that can be recognized without one. -/
def scalarTags : List String := ["!!bool", "!!int", "!!float", "!!null", "!!timestamp"]

/-- What a plain scalar means if its tag is one of a scalar, and why it cannot. -/
def ofTagged (wanted : Text) (t : Text) : Except Text Value :=
  let v := ofPlain (wanted == Text.ofString "!!timestamp") t
  if Text.ofString v.tag = wanted then .ok v
  else
    let failure : Text := "cannot decode " ++ v.tag ++ " `" ++ t ++ "` as a " ++ wanted
    match v with
    | .int n =>
      if wanted = Text.ofString "!!float" ∧ n < Text.int64Bound then
        match toFloat? (Text.ofInt n) with
        | some f => .ok (.float f)
        | none => .error failure
      else .error failure
    | _ => .error failure

/-- What a scalar means, and why it means nothing.  A tag that says nothing about scalars leaves a
text. -/
def ofScalar (t : Text) (style : ScalarStyle) (tag : Text) : Except Text Value :=
  if tag.isEmpty then
    .ok (if style = .plain ∧ t ≠ Text.ofString "<<" then ofPlain true t else .text t)
  else if tag = Text.ofString "!!binary" then
    match t.ofBase64? with
    | some bytes => .ok (.text bytes)
    | none => .error "!!binary value contains invalid base64 data"
  else if scalarTags.any fun w => (w : Text) == tag then ofTagged tag t
  else .ok (.text t)

/-- The text of a scalar where a key is needed. -/
def keyText : Value → Text
  | null => "<nil>"
  | bool b => if b then "true" else "false"
  | int n => Text.ofInt n
  | float t => (((Decimal.ofText? t).map Decimal.toShortText)).getD t
  | moment t | text t => t
  | list _ | record _ => []

/-! ## Values in words -/

mutual

/-- A value in words, with the kinds of its parts. -/
def shown : Value → Text
  | null => "interface \x7b\x7d(nil)"
  | text t => t.quoted
  | list items => "[]interface \x7b\x7d\x7b" ++ shownItems items ++ "\x7d"
  | record members => "map[string]interface \x7b\x7d\x7b" ++ shownMembers members ++ "\x7d"
  | bool b => if b then "true" else "false"
  | int n => Text.ofInt n
  | float t => (((Decimal.ofText? t).map Decimal.toShortText)).getD t
  | moment t => t

/-- The items of a list in words. -/
def shownItems : List Value → Text
  | [] => []
  | [v] => shown v
  | v :: vs => shown v ++ ", " ++ shownItems vs

/-- The members of a record in words. -/
def shownMembers : List (Text × Value) → Text
  | [] => []
  | [(name, v)] => name.quoted ++ ":" ++ shown v
  | (name, v) :: members => name.quoted ++ ":" ++ shown v ++ ", " ++ shownMembers members

end

/-! ## Laying values over each other -/

/-- Gives a member a value; a new member goes to the end. -/
def put (key : Text) (value : Value) : List (Text × Value) → List (Text × Value)
  | [] => [(key, value)]
  | (k, v) :: members => if k = key then (k, value) :: members else (k, v) :: put key value members

/-- Gives a member a value, unless it has one. -/
def putNew (key : Text) (value : Value) (members : List (Text × Value)) : List (Text × Value) :=
  if (members.lookup key).isSome then members else members ++ [(key, value)]

mutual

/-- Lays a value over another: mappings are joined and anything else gives way. -/
def laidOver (old : Value) : Value → Value
  | .record members =>
    match old with
    | .record before => .record (merge before members)
    | _ => .record members
  | v => v

/-- Lays members over others. -/
def merge (old : List (Text × Value)) : List (Text × Value) → List (Text × Value)
  | [] => old
  | (key, value) :: members =>
    merge (put key (match old.lookup key with
      | some before => laidOver before value
      | none => value) old) members

end

/-- A value inside one mapping a key. -/
def nest (value : Value) : List Text → Value
  | [] => value
  | key :: keys => .record [(key, nest value keys)]

/-- A character without the difference between ASCII letters of either case and the two letters that
fold to one of them, the long s and the Kelvin sign. -/
def foldCase (c : Char) : Char :=
  if c.toNat = 0x17F then 's' else if c.toNat = 0x212A then 'k' else c.toLower

/-- The value of a member: of that very name or, failing that, of one in another letter case. -/
def member? (name : String) (members : List (Text × Value)) : Option Value :=
  match members.lookup (Text.ofString name) with
  | some v => some v
  | none => (members.find? fun m => m.1.decode.map foldCase == name.toList).map Prod.snd

end Value

end TagFilter
