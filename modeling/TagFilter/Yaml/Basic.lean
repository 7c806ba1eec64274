import TagFilter.Text.Utf8

/-!
# YAML nodes

A YAML document is a tree of scalars, sequences and mappings.  Every node knows the line it starts
on and the tag that was written in front of it, and a scalar how it was written, because a quoted
number is a text.  A reference stands for a node that was given a name earlier.
-/

namespace TagFilter

/-- How a scalar is written. -/
inductive ScalarStyle where
  | plain
  | singleQuoted
  | doubleQuoted
  | literal
  | folded
  deriving DecidableEq, Repr

/-- Whether a scalar stands between quotes. -/
def ScalarStyle.isQuoted : ScalarStyle → Bool
  | singleQuoted | doubleQuoted => true
  | _ => false

/-- A node of a YAML document.  A tag is empty if none was written.  A node that encloses a
reference to itself is known to that reference by its kind only. -/
inductive Yaml where
  | scalar (text : Text) (style : ScalarStyle) (tag : Text) (line : Nat)
  | sequence (items : List Yaml) (tag : Text) (line : Nat)
  | mapping (entries : List (Yaml × Yaml)) (tag : Text) (line : Nat)
  | reference (name : Text) (target : Yaml) (line : Nat)
  | enclosing (isMapping : Bool) (tag : Text) (line : Nat)
  deriving Inhabited, Repr

namespace Yaml

/-- The line a node starts on. -/
def line : Yaml → Nat
  | scalar _ _ _ line | sequence _ _ line | mapping _ _ line | reference _ _ line
  | enclosing _ _ line => line

/-- The text of a scalar and the name of a reference; other nodes have none. -/
def text : Yaml → Text
  | scalar text _ _ _ | reference text _ _ => text
  | _ => []

/-- The scalar that stands where a value is left out. -/
def nothing (line : Nat) : Yaml := .scalar [] .plain [] line

end Yaml

/-- Why a text is no YAML document: the line, if it is known, and the problem. -/
structure YamlError where
  line? : Option Nat
  problem : Text
  deriving DecidableEq, Repr

/-- The error in words. -/
def YamlError.message (e : YamlError) : Text :=
  "yaml: " ++
    (match e.line? with
    | some line => "line " ++ Text.ofNat line ++ ": "
    | none => []) ++ e.problem

end TagFilter
