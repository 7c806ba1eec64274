import TagFilter.Text.Utf8

/-!
# Operators

The meaning of a word of the filter language and of a tree node.  Each operator has a number, a
name for trees and any number of spellings.  `Operator.ofSpelling?` reads a word without regard to
letter case, and `Operator.symbol` is the spelling that predicates use.  A `Tag` is an operator or a
number outside the table, which trees built by hand may carry.
-/

namespace TagFilter

/-- What a word of the filter language or a tree node means. -/
inductive Operator where
  | nop | val
  | not | and | or
  | eq | ne | lt | le | gt | ge | contains | like | likeFile | is | between | among
  | add | sub | concat | mul | div | mod | exp | pos | neg
  | member | subscript | list | null
  | leftParen | rightParen | rightBracket
  deriving DecidableEq, Repr

namespace Operator

/-- The operators in the order of their numbers. -/
def all : List Operator :=
  [.nop, .val, .not, .and, .or, .eq, .ne, .lt, .le, .gt, .ge, .contains, .like, .likeFile, .is,
   .between, .among, .add, .sub, .concat, .mul, .div, .mod, .exp, .pos, .neg, .member, .subscript,
   .list, .null, .leftParen, .rightParen, .rightBracket]

/-- The name of an operator in a tree. -/
def name : Operator → String
  | nop => "nop"
  | val => "val"
  | not => "not"
  | and => "and"
  | or => "or"
  | eq => "eq"
  | ne => "ne"
  | lt => "lt"
  | le => "le"
  | gt => "gt"
  | ge => "ge"
  | contains => "contains"
  | like => "like"
  | likeFile => "likefile"
  | is => "is"
  | between => "between"
  | among => "in"
  | add => "add"
  | sub => "sub"
  | concat => "concat"
  | mul => "mul"
  | div => "div"
  | mod => "mod"
  | exp => "exp"
  | pos => "pos"
  | neg => "neg"
  | member => "member"
  | subscript => "subscr"
  | list => "list"
  | null => "null"
  | leftParen => "("
  | rightParen => ")"
  | rightBracket => "]"

/-- The operator of a name. -/
def ofName? (n : String) : Option Operator := all.find? fun o => o.name == n

/-- Every spelling with its meaning.  The first spelling of an operator is its symbol. -/
def spellings : List (String × Operator) :=
  [("not", .not), ("and", .and), ("or", .or), ("&", .and), ("|", .or), ("(", .leftParen),
   (")", .rightParen), (",", .list), ("is", .is), ("=", .eq), ("!=", .ne), ("<>", .ne), ("<", .lt),
   ("<=", .le), (">", .gt), (">=", .ge), ("**", .exp), ("*", .mul), ("/", .div), ("mod", .mod),
   ("+", .add), ("-", .sub), ("||", .concat), (".", .member), ("[", .subscript),
   ("]", .rightBracket), ("contains", .contains), ("like", .like), ("likefile", .likeFile),
   ("in", .among), ("between", .between), ("null", .null)]

/-- The meaning of a word, whatever its letter case; names and literals have none. -/
def ofSpelling? (word : Text) : Option Operator :=
  let lower := word.toLower
  (spellings.find? fun s => Text.ofString s.1 == lower).map Prod.snd

/-- Every spelling of an operator. -/
def spellingsOf (o : Operator) : List String :=
  (spellings.filter fun s => s.2 == o).map Prod.fst

/-- The first spelling of an operator; four of them have none. -/
def symbol? (o : Operator) : Option String := o.spellingsOf.head?

/-- The operators that compare an attribute with a value. -/
def isCompare : Operator → Bool
  | eq | ne | lt | le | gt | ge | contains | like | likeFile => true
  | _ => false

/-- The operators that take one operand. -/
def isUnary : Operator → Bool
  | not | pos | neg | val => true
  | _ => false

/-- The operators between the terms of a sum. -/
def isAdditive : Operator → Bool
  | add | sub | concat => true
  | _ => false

/-- The operators between the factors of a product. -/
def isMultiplicative : Operator → Bool
  | mul | div | mod => true
  | _ => false

end Operator

/-- What a tree node is tagged with: an operator, or a number that is none. -/
inductive Tag where
  | op (o : Operator)
  | unlisted (n : Int32)
  deriving DecidableEq, Repr

namespace Tag

instance : Coe Operator Tag := ⟨op⟩

/-- The tag with a given number. -/
def ofNumber (n : Int32) : Tag :=
  if 0 ≤ n then
    match Operator.all[n.toInt.toNat]? with
    | some o => op o
    | none => unlisted n
  else unlisted n

/-- The name of a tag. -/
def name : Tag → Text
  | op o => o.name
  | unlisted n => "OP(" ++ Text.ofInt n.toInt ++ ")"

/-- The first spelling of a tag, empty if it has none. -/
def symbol : Tag → Text
  | op o => o.symbol?.getD ""
  | unlisted _ => []

/-- Every spelling of a tag. -/
def spellings : Tag → List String
  | op o => o.spellingsOf
  | unlisted _ => []

/-- How a predicate writes a tag: by its symbol or, without one, by its name. -/
def spelled (t : Tag) : Text := if t.symbol.isEmpty then t.name else t.symbol

/-- Whether a tag is a comparison. -/
def isCompare : Tag → Bool
  | op o => o.isCompare
  | unlisted _ => false

/-- Whether a tag takes one operand. -/
def isUnary : Tag → Bool
  | op o => o.isUnary
  | unlisted _ => false

end Tag

end TagFilter
