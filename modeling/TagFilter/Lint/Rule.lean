import TagFilter.Column
import TagFilter.Lint.Config
import TagFilter.Tree.Basic

/-!
# Lint rules

The rules say where the predicate of an expression will not mean what the expression says.  A rule
looks at every node of a tree and reports findings, each with the node it is about.  `analyze` runs
the rules that a configuration leaves on, in the order of their names.
-/

namespace TagFilter

/-- Names the column of a literal. -/
abbrev Classifier := Text → Text

/-- The classifier of a sniffer. -/
def Sniffer.classifier (s : Sniffer) : Classifier := fun literal => (s.column literal).name

/-- What a rule reports about a node. -/
structure Finding where
  node : Tree
  message : Text
  deriving DecidableEq, Repr

/-- A rule with what it looks for. -/
structure Rule where
  id : String
  name : String
  group : String
  description : String
  severity : Severity
  check : Option Classifier → Tree → List Finding

/-- A finding with the rule that made it and its severity. -/
structure Diagnostic where
  ruleId : String
  name : String
  severity : Severity
  message : Text
  node : Text
  deriving DecidableEq, Repr

/-- A diagnostic on one line. -/
def Diagnostic.toText (d : Diagnostic) : Text :=
  (d.severity.name : Text) ++ " " ++ d.ruleId ++ ": " ++ d.message ++ " (at " ++ d.node ++ ")"

namespace Rule

/-! ## Findings at one node -/

/-- Whether a node has one of the operators. -/
def isOneOf (operators : List Operator) (n : Tree) : Bool :=
  operators.any fun o => n.tag == .op o

/-- Whether a tree is the literal `null`, whatever its letter case. -/
def isNullLeaf (t : Tree) : Bool := t.isLeaf && t.text.toLower == Text.ofString "null"

/-- Whether there is a tree that is no leaf. -/
def isCompound (t : Tree) : Bool := !t.isAbsent && !t.isLeaf

/-- Equality with null. -/
def nullEquality (n : Tree) : List Finding :=
  if isOneOf [.eq, .ne] n && (isNullLeaf n.left || isNullLeaf n.right) then
    [⟨n, "comparison with null never matches; use 'is null'"⟩]
  else []

/-- A negation. -/
def negation (n : Tree) : List Finding :=
  if isOneOf [.not] n then
    [⟨n, "negation of " ++ n.left.show ++ " is dropped from the predicate"⟩]
  else []

/-- A comparison of something other than a name with a literal. -/
def nestedOperand (n : Tree) : List Finding :=
  if n.tag.isCompare || isOneOf [.is, .among] n then
    (if isCompound n.left then
      [⟨n, "attribute " ++ n.left.show ++ " is not a plain name"⟩]
    else []) ++
      if !isOneOf [.among] n && isCompound n.right then
        [⟨n, "value " ++ n.right.show ++ " is not a literal"⟩]
      else []
  else []

/-- The items along a chain of list cells. -/
def chainItems : Tree → List Tree
  | .node tag left right => if tag = .op .list then left :: chainItems right else []
  | _ => []

/-- List items that are no literals. -/
def listExpression (n : Tree) : List Finding :=
  if isOneOf [.among] n then
    ((chainItems n.right).filter isCompound).map fun item =>
      ⟨n, "list item " ++ item.show ++ " is not a literal and is left out"⟩
  else []

/-- List items that belong in another column than the first one. -/
def listColumns (classifier : Classifier) (n : Tree) : List Finding :=
  if isOneOf [.among] n then
    match chainItems n.right with
    | [] => []
    | first :: items =>
      if first.isLeaf then
        let want := classifier first.text
        ((items.filter Tree.isLeaf).filter fun item => classifier item.text != want).map
          fun item =>
            ⟨n, "list item " ++ item.text ++ " belongs in " ++ classifier item.text ++
              " but is compared against " ++ want⟩
      else []
  else []

/-- An operator that SQL does not have. -/
def unsupported (n : Tree) : List Finding :=
  if isOneOf [.contains, .likeFile, .between] n then
    [⟨n, "operator " ++ n.tag.name ++ " has no SQL equivalent"⟩]
  else []

/-- A tree that is a bare value. -/
def bareValue (t : Tree) : List Finding :=
  if isOneOf [.val] t then
    [⟨t, "bare value " ++ t.left.show ++ " only tests that the attribute exists"⟩]
  else []

/-! ## The rules -/

/-- The rules in the order of their names. -/
def all : List Rule :=
  [{ id := "EX01"
     name := "null.equality"
     group := "null"
     description :=
       "Equality against null compares the string column with SQL null and never matches"
     severity := .warning
     check := fun _ t => t.nodes.flatMap nullEquality },
   { id := "EX02"
     name := "negation.dropped"
     group := "negation"
     description := "Negations are not rendered, so the predicate matches the condition itself"
     severity := .error
     check := fun _ t => t.nodes.flatMap negation },
   { id := "EX03"
     name := "operand.nested"
     group := "operand"
     description :=
       "Comparison operands other than names and literals render as nested name conditions"
     severity := .warning
     check := fun _ t => t.nodes.flatMap nestedOperand },
   { id := "EX04"
     name := "in-list.expression"
     group := "in-list"
     description := "In list items that are not literals are left out of the rendered list"
     severity := .warning
     check := fun _ t => t.nodes.flatMap listExpression },
   { id := "EX05"
     name := "in-list.mixed"
     group := "in-list"
     description := "In list items are all compared against the value column of the first item"
     severity := .warning
     check := fun classifier t =>
       match classifier with
       | some classifier => t.nodes.flatMap (listColumns classifier)
       | none => [] },
   { id := "EX06"
     name := "operator.unsupported"
     group := "operator"
     description := "Operators without a SQL spelling are written by name and fail to execute"
     severity := .error
     check := fun _ t => t.nodes.flatMap unsupported },
   { id := "EX07"
     name := "value.bare"
     group := "operand"
     description := "A bare value only tests that an attribute with that name exists"
     severity := .hint
     check := fun _ t => bareValue t }]

/-- The rule of a name. -/
def ofId? (id : Text) : Option Rule := all.find? fun r => (r.id : Text) == id

/-- The rules of a group; the empty name stands for all of them. -/
def inGroup (group : Text) : List Rule :=
  if group.isEmpty then all else all.filter fun r => (r.group : Text) == group

/-- What a rule says about a tree under a configuration. -/
def diagnostics (r : Rule) (config : LintConfig) (classifier : Option Classifier) (t : Tree) :
    List Diagnostic :=
  if config.isDisabled r.id then []
  else
    (r.check classifier t).map fun f =>
      ⟨r.id, r.name, config.severityOf r.id r.severity, f.message, f.node.show⟩

end Rule

/-- What all rules say about a tree under a configuration. -/
def analyze (config : LintConfig) (classifier : Option Classifier) (t : Tree) : List Diagnostic :=
  Rule.all.flatMap fun r => r.diagnostics config classifier t

/-- The diagnostics that are at least as grave as a threshold. -/
def atLeast (threshold : Severity) (ds : List Diagnostic) : List Diagnostic :=
  ds.filter fun d => d.severity.rank ≤ threshold.rank

end TagFilter
