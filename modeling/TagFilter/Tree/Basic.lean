import TagFilter.Operator

/-!
# Expression trees

A tree is a leaf with a text or a node with a tag and up to two children; `Tree.absent` stands
where a child is missing.  Reading an expression gives trees of a narrow shape, but a tree may also
be built by hand, so every operation here takes any tree.  In particular a node tagged `nop` counts
as a leaf with an empty text, whatever hangs below it.

`Tree.show` is the functional notation `not(is(a, null))`, `Tree.depth` the number of nodes on the
longest path down, and `Tree.preorder` lists the nodes, parents first.
-/

namespace TagFilter

/-- An expression tree, or none. -/
inductive Tree where
  | absent
  | leaf (text : Text)
  | node (tag : Tag) (left right : Tree)
  deriving DecidableEq, Inhabited, Repr

namespace Tree

/-- A node tagged with an operator. -/
@[match_pattern]
abbrev op (o : Operator) (left right : Tree) : Tree := node (.op o) left right

/-- A node with two children, either of which may be absent.  Without a tag and without children it
is the leaf with an empty text. -/
def binary (tag : Tag) (left right : Tree) : Tree :=
  if tag = .op .nop ∧ left = absent ∧ right = absent then leaf [] else node tag left right

/-- A node with one child. -/
def unary (tag : Tag) (left : Tree) : Tree := binary tag left absent

/-- The tag of a tree; leaves have the tag `nop`. -/
def tag : Tree → Tag
  | node tag _ _ => tag
  | _ => .op .nop

/-- The text of a leaf; nodes have none. -/
def text : Tree → Text
  | leaf text => text
  | _ => []

/-- The left child. -/
def left : Tree → Tree
  | node _ left _ => left
  | _ => absent

/-- The right child. -/
def right : Tree → Tree
  | node _ _ right => right
  | _ => absent

/-- Whether there is no tree. -/
def isAbsent : Tree → Bool
  | absent => true
  | _ => false

/-- Whether a tree counts as a leaf. -/
def isLeaf : Tree → Bool
  | absent => false
  | leaf _ => true
  | node tag _ _ => tag == .op .nop

/-- The number of nodes on the longest path down. -/
def depth : Tree → Nat
  | absent => 0
  | leaf _ => 1
  | node _ left right => 1 + max left.depth right.depth

/-- The nodes of a tree, parents before children and left before right.  Below a node with `skip`
nothing is listed. -/
def preorder (skip : Tree → Bool) : Tree → List Tree
  | absent => []
  | leaf text => [leaf text]
  | node tag left right =>
    node tag left right ::
      if skip (node tag left right) then [] else left.preorder skip ++ right.preorder skip

/-- All nodes of a tree, parents before children and left before right. -/
def nodes (t : Tree) : List Tree := t.preorder fun _ => false

/-- The functional notation of a tree. -/
protected def «show» : Tree → Text
  | absent => "<nil>"
  | leaf text => text
  | node tag left right =>
    if tag = .op .nop then []
    else
      tag.name ++ "(" ++ left.show ++
        (match right with
        | absent => []
        | right => ", " ++ right.show) ++ ")"

end Tree

end TagFilter
