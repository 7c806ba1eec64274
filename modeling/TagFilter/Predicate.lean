import TagFilter.Column
import TagFilter.Tree.Basic

/-!
# Predicates

`Sniffer.render` writes a tree as the condition of a SQL statement over the tag table.  An attribute
becomes a condition on the tag's name and a literal a condition on the column it belongs to.  Inside
parentheses every two conditions are joined by `and`, whatever the node says; only the root of a
tree deeper than one comparison is joined by its own operator.  One-operand nodes leave no trace but
their parentheses.
-/

namespace TagFilter

namespace Sniffer

/-- The condition that a tag has a name. -/
def nameCondition (name : Text) : Text := "name = '" ++ name ++ "'"

/-- The condition that a tag's value compares with a literal. -/
def valueCondition (s : Sniffer) (operator : Tag) (literal : Text) : Text :=
  (s.column literal).name ++ " " ++ operator.spelled ++ " " ++ literal

/-- The literals of a list, the last one first. -/
def listItems : Tree → List Text
  | .absent => []
  | .leaf text => [text]
  | .node tag left right =>
    if tag = .op .nop then [[]]
    else if tag = .op .list then listItems right ++ listItems left
    else []

/-- The condition that a tag has a value from a list, of which the first item decides the column.
-/
def membership (s : Sniffer) (left : Text) (list : Tree) : Text :=
  "(" ++ left ++ " and " ++ (s.column list.left.text).name ++ " in (" ++
    Text.join ", " (listItems list) ++ "))"

/-- The condition of an inner node from the conditions of its children. -/
def inner (s : Sniffer) (tag : Tag) (left right : Text) (rightTree : Tree) : Text :=
  if tag = .op .among then s.membership left rightTree
  else if tag.isUnary || rightTree.isAbsent then "(" ++ left ++ ")"
  else "(" ++ left ++ " and " ++ right ++ ")"

mutual

/-- The condition of a tree on the left of an operator. -/
def leftCondition (s : Sniffer) : Tree → Text
  | .absent => []
  | .leaf text => nameCondition text
  | .node tag left right =>
    if tag = .op .nop then nameCondition []
    else s.inner tag (s.leftCondition left) (s.rightCondition tag right) right

/-- The condition of a tree on the right of an operator. -/
def rightCondition (s : Sniffer) (operator : Tag) : Tree → Text
  | .absent => []
  | .leaf text => s.valueCondition operator text
  | .node tag left right =>
    if tag = .op .nop then s.valueCondition operator []
    else s.inner tag (s.leftCondition left) (s.rightCondition tag right) right

end

/-- The word between the two sides of the root. -/
def rootJoin (t : Tree) : Text := if 2 < t.depth then t.tag.spelled else "and"

/-- The condition of a whole tree. -/
def predicate (s : Sniffer) (t : Tree) : Text :=
  if t.tag = .op .among then s.membership (s.leftCondition t.left) t.right
  else if t.right.isAbsent then s.leftCondition t.left
  else s.leftCondition t.left ++ " " ++ rootJoin t ++ " " ++ s.rightCondition t.tag t.right

/-- A statement with the condition of a tree. -/
def render (s : Sniffer) (select : Text) (t : Tree) : Text :=
  select ++ " where " ++ s.predicate t

end Sniffer

end TagFilter
