import TagFilter.Proofs.Shape

/-!
# The nodes of expression trees

What each node of the tree of an expression looks like, whatever stands around it.  `Operator.Takes`
lists for every operator what its children are; every node of a shaped tree has such children
(`Shaped.takes`), and the single rules of `Tree.Regular` can be read off the list.
-/

namespace TagFilter

open Grammar Parsing

theorem Tree.forall_nodes_leaf {P : Tree → Prop} {x : Text} :
    (∀ u ∈ (Tree.leaf x).nodes, P u) ↔ P (.leaf x) :=
  List.forall_mem_singleton

theorem Tree.forall_nodes_node {P : Tree → Prop} {tag : Tag} {l r : Tree} :
    (∀ u ∈ (Tree.node tag l r).nodes, P u) ↔
      P (.node tag l r) ∧ (∀ u ∈ l.nodes, P u) ∧ ∀ u ∈ r.nodes, P u := by
  rw [Tree.nodes_node, List.forall_mem_cons, List.forall_mem_append]

/-! ## Children -/

/-- The text of an operand: it has no meaning, or it is `null` in some letter case. -/
def OperandText (text : Text) : Prop :=
  Operator.ofSpelling? text = none ∨ text.toLower = Text.ofString "null"

namespace Tree

/-- A child that is an operand. -/
structure IsOperand (t : Tree) : Prop where
  present : t ≠ .absent
  not_val : t.tag ≠ .op .val
  not_list : t.tag ≠ .op .list
  text : ∀ x, t = .leaf x → OperandText x

/-- A child that a path step starts from. -/
def IsBase (t : Tree) : Prop :=
  (∃ x, t = .leaf x) ∨ t.tag = .op .member ∨ t.tag = .op .subscript

/-- A child that is a cell of a list. -/
def IsCell (t : Tree) : Prop := t.tag = .op .list

end Tree

/-- What the children of a node with an operator are. -/
def Operator.Takes : Operator → Tree → Tree → Prop
  | .val, l, r => (∃ x, l = .leaf x ∧ OperandText x) ∧ r = .absent
  | .not, l, r | .pos, l, r | .neg, l, r => l.IsOperand ∧ r = .absent
  | .is, l, r => l.IsOperand ∧ r = .leaf "null"
  | .between, l, r => l.IsOperand ∧ ∃ low high, r = .op .and low high
  | .among, l, r => l.IsOperand ∧ r.IsCell
  | .list, l, r => l.IsOperand ∧ (r = .absent ∨ r.IsCell)
  | .member, l, r => l.IsBase ∧ ∃ x, r = .leaf x
  | .subscript, l, r => l.IsBase ∧ r.IsOperand
  | .nop, _, _ | .null, _, _ | .leftParen, _, _ | .rightParen, _, _ | .rightBracket, _, _ => False
  | _, l, r => l.IsOperand ∧ r.IsOperand

theorem Grammar.means_null_iff {word : Text} :
    Means word .null ↔ word.toLower = Text.ofString "null" := by
  have hnull : ∀ s ∈ Operator.spellings, s.2 = .null → s.1 = "null" := by decide
  constructor
  · intro h
    obtain ⟨s, hs, hop⟩ := Option.map_eq_some_iff.1 h
    have hlower := List.find?_some hs
    rw [hnull s (List.mem_of_find?_eq_some hs) hop] at hlower
    exact (eq_of_beq hlower).symm
  · intro h
    simp only [Means, Operator.ofSpelling?, h]
    decide +kernel

theorem OperandText.null : OperandText "null" := .inr (by decide +kernel)

namespace Shaped

theorem isBase {t : Tree} (h : Shaped .base t) : t.IsBase := by
  cases h with
  | start => exact .inl ⟨_, rfl⟩
  | further h =>
    cases h with
    | member => exact .inr (.inl rfl)
    | subscript => exact .inr (.inr rfl)

theorem isCell {t : Tree} (h : Shaped .cells t) : t.IsCell := by
  cases h <;> rfl

theorem isOperand {t : Tree} (h : Shaped .phrase t) : t.IsOperand := by
  have hnode : ∀ {o l r}, o ≠ .val → o ≠ .list → (Tree.op o l r).IsOperand := fun hval hlist =>
    ⟨by simp, by simpa [Tree.tag] using hval, by simpa [Tree.tag] using hlist, by simp⟩
  cases h with
  | leaf htext =>
    refine ⟨by simp, by simp [Tree.tag], by simp [Tree.tag], ?_⟩
    rintro x ⟨⟩
    exact htext.imp_right means_null_iff.1
  | inner ho => exact hnode (by rintro rfl; cases ho) (by rintro rfl; cases ho)
  | unary ho => exact hnode (by rintro rfl; simp at ho) (by rintro rfl; simp at ho)
  | path h => cases h <;> exact hnode (by decide) (by decide)
  | _ => exact hnode (by decide) (by decide)

theorem takes_inner {o : Operator} (ho : o.isInner = true) {l r : Tree} (hl : l.IsOperand)
    (hr : r.IsOperand) : o.Takes l r := by
  cases o <;> first | exact ⟨hl, hr⟩ | cases ho

/-- The children of a shaped node are those that its operator takes. -/
theorem takes {part : Part} {tag : Tag} {l r : Tree} (h : Shaped part (.node tag l r)) :
    ∃ o, tag = .op o ∧ o.Takes l r := by
  generalize ht : Tree.node tag l r = t at h
  induction h with
  | leaf | start => cases ht
  | inner ho hl hr =>
    cases ht
    exact ⟨_, rfl, takes_inner ho hl.isOperand hr.isOperand⟩
  | unary ho h =>
    cases ht
    refine ⟨_, rfl, ?_⟩
    rcases ho with rfl | rfl | rfl <;> exact ⟨h.isOperand, rfl⟩
  | isNull h =>
    cases ht
    exact ⟨.is, rfl, h.isOperand, rfl⟩
  | between h =>
    cases ht
    exact ⟨.between, rfl, h.isOperand, _, _, rfl⟩
  | among h hitems =>
    cases ht
    exact ⟨.among, rfl, h.isOperand, hitems.isCell⟩
  | path _ ih | further _ ih => exact ih ht
  | member h =>
    cases ht
    exact ⟨.member, rfl, h.isBase, _, rfl⟩
  | subscript h hi =>
    cases ht
    exact ⟨.subscript, rfl, h.isBase, hi.isOperand⟩
  | last h =>
    cases ht
    exact ⟨.list, rfl, h.isOperand, .inl rfl⟩
  | cell h hrest =>
    cases ht
    exact ⟨.list, rfl, h.isOperand, .inr hrest.isCell⟩

/-- Every node of a shaped tree is shaped. -/
theorem nodes {part : Part} {t : Tree} (h : Shaped part t) :
    ∀ u ∈ t.nodes, ∃ part', Shaped part' u := by
  have habsent : ∀ u ∈ Tree.absent.nodes, ∃ part', Shaped part' u := List.forall_mem_nil _
  have hleaf : ∀ x, ∀ u ∈ (Tree.leaf x).nodes, ∃ part', Shaped part' u :=
    fun x => Tree.forall_nodes_leaf.2 ⟨.base, .start⟩
  induction h with
  | leaf | start => exact hleaf _
  | path _ ih | further _ ih => exact ih
  | inner ho hl hr ihl ihr => exact Tree.forall_nodes_node.2 ⟨⟨_, .inner ho hl hr⟩, ihl, ihr⟩
  | unary ho h ih => exact Tree.forall_nodes_node.2 ⟨⟨_, .unary ho h⟩, ih, habsent⟩
  | isNull h ih => exact Tree.forall_nodes_node.2 ⟨⟨_, .isNull h⟩, ih, hleaf _⟩
  | between h hlow hhigh ih ihlow ihhigh =>
    -- The two bounds stand below a conjunction of their own.
    have hand : Shaped .phrase (.op .and _ _) := .inner rfl hlow hhigh
    have hbounds := Tree.forall_nodes_node.2 ⟨⟨_, hand⟩, ihlow, ihhigh⟩
    exact Tree.forall_nodes_node.2 ⟨⟨_, .between h hlow hhigh⟩, ih, hbounds⟩
  | among h hitems ih ihitems =>
    exact Tree.forall_nodes_node.2 ⟨⟨_, .among h hitems⟩, ih, ihitems⟩
  | member h ih => exact Tree.forall_nodes_node.2 ⟨⟨_, .member h⟩, ih, hleaf _⟩
  | subscript h hi ih ihi => exact Tree.forall_nodes_node.2 ⟨⟨_, .subscript h hi⟩, ih, ihi⟩
  | last h ih => exact Tree.forall_nodes_node.2 ⟨⟨_, .last h⟩, ih, habsent⟩
  | cell h hrest ih ihrest => exact Tree.forall_nodes_node.2 ⟨⟨_, .cell h hrest⟩, ih, ihrest⟩

end Shaped

theorem WellShaped.root {t : Tree} (h : WellShaped t) : ∃ o l r, t = .op o l r ∧ o ≠ .list := by
  cases h with
  | value => exact ⟨_, _, _, rfl, by decide⟩
  | phrase h =>
    refine ⟨_, _, _, rfl, fun ho => h.isOperand.not_list ?_⟩
    rw [ho, Tree.tag]

/-- Every node of a well-shaped tree has the children that its operator takes. -/
theorem WellShaped.takes {t : Tree} (h : WellShaped t) {tag : Tag} {l r : Tree}
    (hnode : .node tag l r ∈ t.nodes) : ∃ o, tag = .op o ∧ o.Takes l r := by
  cases h with
  | value h =>
    rw [Tree.nodes_node, List.mem_cons] at hnode
    rcases hnode with hnode | hnode
    · cases hnode
      exact ⟨.val, rfl, ⟨_, rfl, h.isOperand.text _ rfl⟩, rfl⟩
    · simp [Tree.nodes, Tree.preorder] at hnode
  | phrase h =>
    obtain ⟨part, hpart⟩ := h.nodes _ hnode
    exact hpart.takes

/-! ## Rules -/

namespace Operator.Takes

variable {o : Operator} {l r : Tree}

theorem left (h : o.Takes l r) : l ≠ .absent ∧ l.tag ≠ .op .val ∧ l.tag ≠ .op .list := by
  cases o <;> simp only [Operator.Takes] at h <;> grind [Tree.IsOperand, Tree.IsBase, Tree.tag]

theorem right (h : o.Takes l r) :
    r.tag ≠ .op .val ∧ (r.tag = .op .list → o = .among ∨ o = .list) := by
  cases o <;> simp only [Operator.Takes] at h <;> grind [Tree.IsOperand, Tree.IsCell, Tree.tag]

theorem right_absent (h : o.Takes l r) (hr : r = .absent) :
    o ∈ [.val, .not, .pos, .neg, .list] := by
  cases o <;> simp only [Operator.Takes] at h <;> grind [Tree.IsOperand, Tree.IsCell, Tree.tag]

theorem left_text (h : o.Takes l r) {x : Text} (hl : l = .leaf x) (hmember : o ≠ .member)
    (hsubscript : o ≠ .subscript) : OperandText x := by
  cases o <;> simp only [Operator.Takes] at h <;> grind [Tree.IsOperand]

theorem right_text (h : o.Takes l r) {x : Text} (hr : r = .leaf x) (hmember : o ≠ .member) :
    OperandText x := by
  cases o <;> simp only [Operator.Takes] at h <;>
    grind [Tree.IsOperand, Tree.IsCell, Tree.tag, OperandText.null]

end Operator.Takes

/-- A node with an operator and its children keeps the rules of expression trees. -/
structure Regular (o : Operator) (l r : Tree) : Prop where
  /-- Nothing is tagged like a leaf or punctuation. -/
  tagged : o ∉ [.nop, .null, .leftParen, .rightParen, .rightBracket]
  /-- The tag `val` is over a leaf. -/
  value : o = .val → l.isLeaf = true ∧ r = .absent
  /-- The tag `val` is below nothing. -/
  value_root : l.tag ≠ .op .val ∧ r.tag ≠ .op .val
  /-- Negations and signs have a left child only. -/
  unary : o ∈ [.not, .pos, .neg] → l ≠ .absent ∧ r = .absent
  /-- All else has two children, but for the last cell of a list. -/
  binary : o ∉ [.val, .not, .pos, .neg] → l ≠ .absent ∧ (r = .absent → o = .list)
  /-- A list is on the right of `in` or of a cell, never an item. -/
  list_place : l.tag ≠ .op .list ∧ (r.tag = .op .list → o = .among ∨ o = .list)
  among : o = .among → r.tag = .op .list
  cell : o = .list → r = .absent ∨ r.tag = .op .list
  between : o = .between → ∃ low high, r = .op .and low high
  isNull : o = .is → r = .leaf "null"
  member : o = .member → ∃ name, r = .leaf name
  base : o = .member ∨ o = .subscript →
    (∃ text, l = .leaf text) ∨ l.tag = .op .member ∨ l.tag = .op .subscript
  /-- Leaves that are neither member names nor path bases are operands. -/
  left_text : ∀ x, l = .leaf x → o ≠ .member → o ≠ .subscript → OperandText x
  right_text : ∀ x, r = .leaf x → o ≠ .member → OperandText x

theorem Operator.Takes.regular {o : Operator} {l r : Tree} (h : o.Takes l r) : Regular o l r where
  tagged := by
    intro ho
    simp only [List.mem_cons, List.not_mem_nil, or_false] at ho
    rcases ho with rfl | rfl | rfl | rfl | rfl <;> exact h
  value := by
    rintro rfl
    obtain ⟨⟨x, rfl, -⟩, rfl⟩ := h
    exact ⟨rfl, rfl⟩
  value_root := ⟨h.left.2.1, h.right.1⟩
  unary := by
    intro ho
    simp only [List.mem_cons, List.not_mem_nil, or_false] at ho
    rcases ho with rfl | rfl | rfl <;> exact ⟨h.left.1, h.2⟩
  binary := by
    intro ho
    refine ⟨h.left.1, fun hr => ?_⟩
    have habsent := h.right_absent hr
    simp_all
  list_place := ⟨h.left.2.2, h.right.2⟩
  among := by
    rintro rfl
    exact h.2
  cell := by
    rintro rfl
    exact h.2
  between := by
    rintro rfl
    exact h.2
  isNull := by
    rintro rfl
    exact h.2
  member := by
    rintro rfl
    exact h.2
  base := by
    rintro (rfl | rfl) <;> exact h.1
  left_text := fun _ => h.left_text
  right_text := fun _ => h.right_text

/-- The tree of an expression is there, it is no leaf and no list, its leaves have no children, and
all its nodes are regular. -/
theorem parse_regular {words : List Text} {t : Tree} (h : parse words = .ok t) :
    t ≠ .absent ∧ t.isLeaf = false ∧ t.tag ≠ .op .list ∧
      (∀ u ∈ t.nodes, u.isLeaf = true → u.left = .absent ∧ u.right = .absent) ∧
      ∀ tag l r, .node tag l r ∈ t.nodes → ∃ o, tag = .op o ∧ Regular o l r := by
  obtain ⟨u, hu, hwrap⟩ := parse_eq_ok_iff_derives.1 h
  have hshaped := hu.wellShaped
  rw [hwrap] at hshaped
  have hnodes : ∀ tag l r, .node tag l r ∈ t.nodes → ∃ o, tag = .op o ∧ Regular o l r := by
    intro tag l r hnode
    obtain ⟨o, ho, htakes⟩ := hshaped.takes hnode
    exact ⟨o, ho, htakes.regular⟩
  have hleaf : ∀ u ∈ t.nodes, u.isLeaf = true → ∃ x, u = .leaf x := by
    intro u hmem hu
    cases u with
    | absent => cases hu
    | leaf x => exact ⟨x, rfl⟩
    | node tag l r =>
      obtain ⟨o, rfl, hregular⟩ := hnodes tag l r hmem
      obtain rfl : o = .nop := by simpa [Tree.isLeaf] using hu
      exact absurd List.mem_cons_self hregular.tagged
  obtain ⟨o, l, r, rfl, hlist⟩ : ∃ o l r, t = .op o l r ∧ o ≠ .list := hshaped.root
  refine ⟨by simp, ?_, by simpa [Tree.tag] using hlist, ?_, hnodes⟩
  · rw [Bool.eq_false_iff]
    intro hroot
    obtain ⟨x, hx⟩ := hleaf _ (by rw [Tree.nodes_node]; exact List.mem_cons_self) hroot
    cases hx
  · intro u hmem hu
    obtain ⟨x, rfl⟩ := hleaf u hmem hu
    exact ⟨rfl, rfl⟩

set_option maxRecDepth 4000 in
/-- In the tree of `a.b in (1 2)` the list is on the right of `in`. -/
theorem parse_regular_in :
    let t : Tree := .op .among (.op .member (.leaf "a") (.leaf "b"))
      (.op .list (.leaf "1") (.op .list (.leaf "2") .absent))
    parse ["a", ".", "b", "in", "(", "1", "2", ")"] = .ok t ∧ t.isLeaf = false ∧
      Regular .among (.op .member (.leaf "a") (.leaf "b"))
        (.op .list (.leaf "1") (.op .list (.leaf "2") .absent)) := by
  intro t
  have h : parse ["a", ".", "b", "in", "(", "1", "2", ")"] = .ok t := rfl
  obtain ⟨-, hleaf, -, -, hnodes⟩ := parse_regular h
  obtain ⟨o, ho, hregular⟩ := hnodes _ _ _ List.mem_cons_self
  cases ho
  exact ⟨h, hleaf, hregular⟩

end TagFilter
