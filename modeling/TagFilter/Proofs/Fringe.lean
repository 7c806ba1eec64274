import Mathlib.Data.List.Forall2
import TagFilter.Proofs.Parse

/-!
# Leaves and operands

The leaves of an expression tree, from left to right, are the operands among its words, from left to
right: none is lost, doubled or moved (`parse_fringe`).  What a leaf carries of its word depends on
where it stands, which `Tree.fringe` lists with the leaf: an operand is kept as it is written, the
name that a path starts from and the members of the path lose their quotes, and the `null` of a null
test has one spelling.
-/

namespace TagFilter

open Grammar Parsing

/-- Where a leaf stands in an expression. -/
inductive LeafRole where
  /-- As an operand. -/
  | operand
  /-- As the `null` of a null test. -/
  | null
  /-- As a member, or at the start of a path. -/
  | name
  deriving DecidableEq, Repr

/-- Where a leaf on the left of a node stands. -/
def Tag.leftRole : Tag → LeafRole
  | .op .member | .op .subscript => .name
  | _ => .operand

/-- Where a leaf on the right of a node stands. -/
def Tag.rightRole : Tag → LeafRole
  | .op .is => .null
  | .op .member => .name
  | _ => .operand

/-- The leaves of a tree from left to right; `role` is for the tree that is itself a leaf. -/
def Tree.fringe (role : LeafRole) : Tree → List (LeafRole × Text)
  | .absent => []
  | .leaf text => [(role, text)]
  | .node tag left right => left.fringe tag.leftRole ++ right.fringe tag.rightRole

/-- A leaf was read from a word. -/
def ReadFrom : LeafRole × Text → Text → Prop
  | (.operand, text), word => text = word
  | (.null, text), word => text = Text.ofString "null" ∧ Means word .null
  | (.name, text), word => text = unquote word ∧ NameWord word

/-- A word is an operand: it has no meaning, or it is `null`. -/
def isOperandWord (word : Text) : Bool :=
  Operator.ofSpelling? word = none || Operator.ofSpelling? word = some .null

/-- The operands among some words. -/
def operandWords (ws : List Text) : List Text := ws.filter isOperandWord

/-! ## Operands of phrases -/

@[simp]
theorem operandWords_nil : operandWords [] = [] := rfl

@[simp]
theorem operandWords_append (ws vs : List Text) :
    operandWords (ws ++ vs) = operandWords ws ++ operandWords vs :=
  List.filter_append ..

theorem operandWords_operator {w : Text} {o : Operator} (h : Means w o) (ho : o ≠ .null)
    (ws : List Text) : operandWords (w :: ws) = operandWords ws := by
  have hw : isOperandWord w = false := by simp [isOperandWord, h, ho]
  rw [operandWords, List.filter_cons_of_neg (by simp [hw])]
  rfl

theorem operandWords_operand {w : Text} (h : isOperandWord w = true) (ws : List Text) :
    operandWords (w :: ws) = w :: operandWords ws :=
  List.filter_cons_of_pos h

theorem operandWords_link {js : List Text} {o : Operator} {negated : Bool}
    (h : Link js o negated) (ho : o ≠ .null) : operandWords js = [] := by
  cases h with
  | plain hw => exact operandWords_operator hw ho []
  | negated hno hw => rw [operandWords_operator hno (by decide), operandWords_operator hw ho]; rfl

/-! ## Leaves of phrases -/

/-- The leaves of a tree were read from the operands among some words, one from each. -/
def Tree.StemsFrom (role : LeafRole) (t : Tree) (ws : List Text) : Prop :=
  List.Forall₂ ReadFrom (t.fringe role) (operandWords ws)

namespace Tree.StemsFrom

variable {role : LeafRole} {l r t : Tree} {ls rs ws : List Text}

theorem absent : (Tree.absent).StemsFrom role [] := .nil

theorem leaf {text word : Text} (hword : isOperandWord word = true)
    (h : ReadFrom (role, text) word) : (Tree.leaf text).StemsFrom role [word] := by
  unfold StemsFrom
  rw [operandWords_operand hword]
  exact .cons h .nil

theorem null {word : Text} (h : Means word .null) : (Tree.leaf "null").StemsFrom .null [word] :=
  leaf (by simp [isOperandWord, h]) ⟨rfl, h⟩

theorem node {tag : Tag} (hl : l.StemsFrom tag.leftRole ls) (hr : r.StemsFrom tag.rightRole rs) :
    (Tree.node tag l r).StemsFrom role (ls ++ rs) := by
  unfold StemsFrom
  rw [operandWords_append]
  exact List.rel_append hl hr

/-- Only the operands among the words count. -/
theorem of_operandWords {vs : List Text} (h : t.StemsFrom role vs)
    (hws : operandWords ws = operandWords vs) : t.StemsFrom role ws := by
  unfold StemsFrom
  rw [hws]
  exact h

theorem unary {tag : Tag} (h : t.StemsFrom tag.leftRole ws) :
    (Tree.node tag t .absent).StemsFrom role ws := by
  have hnode : (Tree.node tag t .absent).StemsFrom role (ws ++ []) := node h absent
  rwa [List.append_nil] at hnode

theorem negateIf (h : t.StemsFrom .operand ws) (negated : Bool) :
    (Parsing.negateIf negated t).StemsFrom .operand ws := by
  cases negated with
  | false => exact h
  | true =>
    show (Tree.op .not t .absent).StemsFrom .operand ws
    exact unary h

end Tree.StemsFrom

theorem Grammar.NameWord.isOperandWord {w : Text} (h : NameWord w) : isOperandWord w = true := by
  simp [TagFilter.isOperandWord, h.1]

theorem Operator.roles_of_inner {o : Operator}
    (h : o.isCompare = true ∨ o.isAdditive = true ∨ o.isMultiplicative = true) :
    Tag.leftRole o = .operand ∧ Tag.rightRole o = .operand ∧ o ≠ .null := by
  cases o <;> simp_all [isCompare, isAdditive, isMultiplicative, Tag.leftRole, Tag.rightRole]

/-- The two sides of an operator that takes operands. -/
theorem Tree.StemsFrom.inner {o : Operator} {l r : Tree} {ls rs : List Text}
    (ho : o.isCompare = true ∨ o.isAdditive = true ∨ o.isMultiplicative = true)
    (hl : l.StemsFrom .operand ls) (hr : r.StemsFrom .operand rs) :
    (Tree.op o l r).StemsFrom .operand (ls ++ rs) := by
  obtain ⟨hleft, hright, -⟩ := Operator.roles_of_inner ho
  rw [← hleft] at hl
  rw [← hright] at hr
  exact hl.node hr

/-- The leaves of a phrase stem from its words.  A path is told apart because the name it starts
from has another role once the path goes on. -/
theorem Grammar.Derives.stemsFrom {k : Tier} {ws : List Text} {t : Tree} (h : Derives k ws t) :
    t.StemsFrom .operand ws ∧ (k = .path → (pathBase t).StemsFrom .name ws) := by
  -- Every production joins the leaves of its parts; the words it adds itself are operators.
  have hphrase : ∀ {k : Tier} {P Q : Prop}, k ≠ .path → P → P ∧ (k = .path → Q) :=
    fun hk hp => ⟨hp, fun h => absurd h hk⟩
  induction h with
  | conjunction _ ih | negation _ ih | comparison _ ih | sum _ ih | product _ ih | signed _ ih
  | power _ ih | operand _ ih | path _ ih => exact hphrase (by decide) ih.1
  | group hp _ hq ih =>
    refine hphrase (by decide) (ih.1.of_operandWords ?_)
    rw [List.cons_append, operandWords_operator hp (by decide), operandWords_append,
      operandWords_operator hq (by decide), operandWords_nil, List.append_nil]
  | or _ hw _ ihl ihr | and _ hw _ ihl ihr | exp _ hw _ ihl ihr | comma _ hw _ ihl ihr =>
    refine hphrase (by decide) (.of_operandWords (.node ihl.1 ihr.1) ?_)
    rw [operandWords_append, operandWords_append, operandWords_operator hw (by decide)]
  | add _ hw ho _ ihl ihr =>
    have hroles := Operator.roles_of_inner (.inr (.inl ho))
    refine hphrase (by decide) (.of_operandWords (.inner (.inr (.inl ho)) ihl.1 ihr.1) ?_)
    rw [operandWords_append, operandWords_append, operandWords_operator hw hroles.2.2]
  | mul _ hw ho _ ihl ihr =>
    have hroles := Operator.roles_of_inner (.inr (.inr ho))
    refine hphrase (by decide) (.of_operandWords (.inner (.inr (.inr ho)) ihl.1 ihr.1) ?_)
    rw [operandWords_append, operandWords_append, operandWords_operator hw hroles.2.2]
  | juxtaposed _ _ _ ihl ihr => exact hphrase (by decide) (.node ihl.1 ihr.1)
  | last _ ih => exact hphrase (by decide) (.unary ih.1)
  | not hw _ ih | pos hw _ ih | neg hw _ ih =>
    exact hphrase (by decide)
      (.of_operandWords (.unary ih.1) (operandWords_operator hw (by decide) _))
  | isNull _ hw hn ih =>
    refine hphrase (by decide) (.of_operandWords (.node ih.1 (.null hn)) ?_)
    rw [operandWords_append, operandWords_append, operandWords_operator hw (by decide)]
  | isNotNull _ hw hv hn ih =>
    refine hphrase (by decide) (.of_operandWords (.unary (.node ih.1 (.null hn))) ?_)
    rw [operandWords_append, operandWords_append, operandWords_operator hw (by decide),
      operandWords_operator hv (by decide)]
  | compare _ hjs ho _ ihl ihr =>
    have hroles := Operator.roles_of_inner (.inl ho)
    have hcompare := Tree.StemsFrom.inner (.inl ho) ihl.1 ihr.1
    refine hphrase (by decide) ((hcompare.of_operandWords ?_).negateIf _)
    simp [operandWords_link hjs hroles.2.2]
  | @between _ _ _ _ _ l lo hi _ _ hjs _ hw _ ihl ihlo ihhi =>
    have hbetween : (Tree.op .between l (.op .and lo hi)).StemsFrom .operand _ :=
      .node ihl.1 (.node ihlo.1 ihhi.1)
    refine hphrase (by decide) ((hbetween.of_operandWords ?_).negateIf _)
    simp [operandWords_link hjs, operandWords_operator hw]
  | @among _ _ _ _ _ l items _ _ hjs hp _ hq ihl ihitems =>
    have hamong : (Tree.op .among l items).StemsFrom .operand _ := .node ihl.1 ihitems.1
    refine hphrase (by decide) ((hamong.of_operandWords ?_).negateIf _)
    simp [operandWords_link hjs, operandWords_operator hp, operandWords_operator hq]
  | number hw => exact hphrase (by decide) (.leaf (by simp [isOperandWord, hw.1]) rfl)
  | null hw => exact hphrase (by decide) (.leaf (by simp [isOperandWord, hw]) rfl)
  | name hw => exact ⟨.leaf hw.isOperandWord rfl, fun _ => .leaf hw.isOperandWord ⟨rfl, hw⟩⟩
  | @member ws d v base _ hd hv ih =>
    have hmember : ∀ role, (Tree.op .member (pathBase base) (.leaf (unquote v))).StemsFrom role
        (ws ++ [d, v]) := by
      intro role
      refine .of_operandWords (.node (ih.2 rfl) (.leaf hv.isOperandWord ⟨rfl, hv⟩)) ?_
      simp [operandWords_operator hd]
    exact ⟨hmember _, fun _ => hmember _⟩
  | @subscript ws p is q base i _ hp _ hq ih ihi =>
    have hindex : ∀ role, (Tree.op .subscript (pathBase base) i).StemsFrom role
        (ws ++ p :: is ++ [q]) := by
      intro role
      refine .of_operandWords (.node (ih.2 rfl) ihi.1) ?_
      simp [operandWords_operator hp, operandWords_operator hq]
    exact ⟨hindex _, fun _ => hindex _⟩

/-- A bare leaf below `val` still stands as an operand. -/
theorem Grammar.Derives.wrapLeaf_stemsFrom {ws : List Text} {t : Tree}
    (h : Derives .disjunction ws t) : (wrapLeaf t).StemsFrom .operand ws := by
  have hstems : t.StemsFrom .operand ws := h.stemsFrom.1
  obtain ⟨text, rfl⟩ | ⟨o, l, r, rfl, ho⟩ := h.leaf_or_op
  · show (Tree.op .val (.leaf text) .absent).StemsFrom .operand ws
    exact .unary hstems
  · have hwrap : wrapLeaf (.op o l r) = .op o l r := by simp [wrapLeaf, Tree.isLeaf, ho]
    rw [hwrap]
    exact hstems

/-- The leaves of the tree of an expression are read from its operands: as many, in the same order,
and each as its place says. -/
theorem parse_fringe {words : List Text} {t : Tree} (h : parse words = .ok t) :
    List.Forall₂ ReadFrom (t.fringe .operand) (operandWords words) := by
  obtain ⟨u, hu, rfl⟩ := parse_eq_ok_iff_derives.1 h
  exact hu.wrapLeaf_stemsFrom

set_option maxRecDepth 4000 in
/-- In `'a'.b not in (NULL 'c') and d is NULL` the path loses the quotes and the null test the
letter case, and nothing else changes. -/
theorem parse_fringe_path_and_null :
    let words : List Text :=
      ["'a'", ".", "b", "not", "in", "(", "NULL", "'c'", ")", "and", "d", "is", "NULL"]
    let t : Tree := .op .and
      (.op .not (.op .among (.op .member (.leaf "a") (.leaf "b"))
        (.op .list (.leaf "NULL") (.op .list (.leaf "'c'") .absent))) .absent)
      (.op .is (.leaf "d") (.leaf "null"))
    let leaves : List (LeafRole × Text) := [(.name, "a"), (.name, "b"), (.operand, "NULL"),
      (.operand, "'c'"), (.operand, "d"), (.null, "null")]
    let operands : List Text := ["'a'", "b", "NULL", "'c'", "d", "NULL"]
    parse words = .ok t ∧ t.fringe .operand = leaves ∧ operandWords words = operands ∧
      List.Forall₂ ReadFrom leaves operands := by
  intro words t leaves operands
  have h : parse words = .ok t := rfl
  have hoperands : operandWords words = operands := by decide +kernel
  have hfringe : List.Forall₂ ReadFrom leaves (operandWords words) := parse_fringe h
  rw [hoperands] at hfringe
  exact ⟨h, rfl, hoperands, hfringe⟩

end TagFilter
