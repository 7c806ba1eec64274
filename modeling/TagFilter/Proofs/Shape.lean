import TagFilter.Proofs.Parse

/-!
# The shape of expression trees

`Shaped part t` says what the trees of phrases look like, without saying which words they come from:
which operators have which children, where lists stand and which texts leaves have.  Every tree that
the grammar gives has the shape of its tier (`Derives.shapes`), hence the tree of an expression is
well shaped (`Derives.wellShaped`), and so is the tree of a text (`shaped_of_compile`).
-/

namespace TagFilter

open Grammar Parsing

/-- The operators between two phrases. -/
def Operator.isInner (o : Operator) : Bool :=
  o = .and || o = .or || o.isCompare || o.isAdditive || o.isMultiplicative || o = .exp

/-- The parts of a tree: phrases, the paths among them, what a path starts from, and the cells of a
list. -/
inductive Part where
  | phrase
  | path
  | base
  | cells
  deriving DecidableEq, Repr

/-- A tree has the shape of a part. -/
inductive Shaped : Part → Tree → Prop
  | leaf {text} : Operator.ofSpelling? text = none ∨ Means text .null →
      Shaped .phrase (.leaf text)
  | inner {o l r} : o.isInner = true → Shaped .phrase l → Shaped .phrase r →
      Shaped .phrase (.op o l r)
  | unary {o t} : o = .not ∨ o = .pos ∨ o = .neg → Shaped .phrase t →
      Shaped .phrase (.op o t .absent)
  | isNull {t} : Shaped .phrase t → Shaped .phrase (.op .is t (.leaf "null"))
  | between {t lo hi} : Shaped .phrase t → Shaped .phrase lo → Shaped .phrase hi →
      Shaped .phrase (.op .between t (.op .and lo hi))
  | among {t items} : Shaped .phrase t → Shaped .cells items →
      Shaped .phrase (.op .among t items)
  | path {t} : Shaped .path t → Shaped .phrase t
  | member {base text} : Shaped .base base → Shaped .path (.op .member base (.leaf text))
  | subscript {base i} : Shaped .base base → Shaped .phrase i →
      Shaped .path (.op .subscript base i)
  | start {text} : Shaped .base (.leaf text)
  | further {t} : Shaped .path t → Shaped .base t
  | last {t} : Shaped .phrase t → Shaped .cells (.op .list t .absent)
  | cell {t rest} : Shaped .phrase t → Shaped .cells rest → Shaped .cells (.op .list t rest)

theorem Operator.isInner_of_isCompare {o : Operator} (h : o.isCompare = true) :
    o.isInner = true := by
  simp [isInner, h]

theorem Operator.isInner_of_isAdditive {o : Operator} (h : o.isAdditive = true) :
    o.isInner = true := by
  simp [isInner, h]

theorem Operator.isInner_of_isMultiplicative {o : Operator} (h : o.isMultiplicative = true) :
    o.isInner = true := by
  simp [isInner, h]

theorem Tree.nodes_node (tag : Tag) (l r : Tree) :
    (Tree.node tag l r).nodes = .node tag l r :: (l.nodes ++ r.nodes) := rfl

theorem Shaped.leaf_or_op {part : Part} {t : Tree} (h : Shaped part t) :
    (∃ text, t = .leaf text) ∨ ∃ o l r, t = .op o l r ∧ o ≠ .nop := by
  induction h with
  | leaf | start => exact .inl ⟨_, rfl⟩
  | inner ho => exact .inr ⟨_, _, _, rfl, by rintro rfl; cases ho⟩
  | unary ho => exact .inr ⟨_, _, _, rfl, by rintro rfl; simp at ho⟩
  | path _ ih | further _ ih => exact ih
  | _ => exact .inr ⟨_, _, _, rfl, by decide⟩

theorem Shaped.negateIf {t : Tree} (h : Shaped .phrase t) (negated : Bool) :
    Shaped .phrase (Parsing.negateIf negated t) := by
  cases negated with
  | false => exact h
  | true => exact .unary (.inl rfl) h

namespace Grammar

/-- A tree has the shape of a tier: lists are chains of cells, all else is a phrase, and more path
may follow a path. -/
def Tier.Shapes (k : Tier) (t : Tree) : Prop :=
  if k = .items then Shaped .cells t
  else Shaped .phrase t ∧ (k = .path → Shaped .base (pathBase t))

theorem Tier.Shapes.of_phrase {k : Tier} {t : Tree} (h : Shaped .phrase t) (hi : k ≠ .items)
    (hp : k ≠ .path) : k.Shapes t := by
  simp [Tier.Shapes, h, hi, hp]

theorem Tier.Shapes.phrase {k : Tier} {t : Tree} (h : k.Shapes t) (hi : k ≠ .items) :
    Shaped .phrase t := by
  rw [Tier.Shapes, if_neg hi] at h
  exact h.1

theorem Tier.Shapes.of_path {t : Tree} (h : Shaped .path t) (hbase : pathBase t = t) :
    Tier.path.Shapes t := by
  refine ⟨.path h, fun _ => ?_⟩
  rw [hbase]
  exact .further h

theorem Derives.shapes {k : Tier} {ws : List Text} {t : Tree} (h : Derives k ws t) :
    k.Shapes t := by
  induction h with
  | conjunction _ ih | negation _ ih | comparison _ ih | sum _ ih | product _ ih | signed _ ih
  | power _ ih | operand _ ih | path _ ih =>
    exact .of_phrase (ih.phrase (by decide)) (by decide) (by decide)
  | group _ _ _ ih => exact .of_phrase (ih.phrase (by decide)) (by decide) (by decide)
  | or _ _ _ ihl ihr | and _ _ _ ihl ihr | exp _ _ _ ihl ihr =>
    exact .of_phrase (.inner rfl (ihl.phrase (by decide)) (ihr.phrase (by decide)))
      (by decide) (by decide)
  | add _ _ ho _ ihl ihr =>
    exact .of_phrase (.inner (Operator.isInner_of_isAdditive ho) (ihl.phrase (by decide))
      (ihr.phrase (by decide))) (by decide) (by decide)
  | mul _ _ ho _ ihl ihr =>
    exact .of_phrase (.inner (Operator.isInner_of_isMultiplicative ho) (ihl.phrase (by decide))
      (ihr.phrase (by decide))) (by decide) (by decide)
  | not _ _ ih | pos _ _ ih | neg _ _ ih =>
    exact .of_phrase (.unary (by decide) (ih.phrase (by decide))) (by decide) (by decide)
  | isNull _ _ _ ih =>
    exact .of_phrase (.isNull (ih.phrase (by decide))) (by decide) (by decide)
  | isNotNull _ _ _ _ ih =>
    have hnull : Shaped .phrase _ := .isNull (ih.phrase (by decide))
    exact .of_phrase (.unary (by decide) hnull) (by decide) (by decide)
  | compare _ _ ho _ ihl ihr =>
    have hinner := Shaped.inner (Operator.isInner_of_isCompare ho) (ihl.phrase (by decide))
      (ihr.phrase (by decide))
    exact .of_phrase (hinner.negateIf _) (by decide) (by decide)
  | between _ _ _ _ _ ihl ihlo ihhi =>
    have hbetween := Shaped.between (ihl.phrase (by decide)) (ihlo.phrase (by decide))
      (ihhi.phrase (by decide))
    exact .of_phrase (hbetween.negateIf _) (by decide) (by decide)
  | among _ _ _ _ _ ihl ihitems =>
    have hamong := Shaped.among (ihl.phrase (by decide)) ihitems
    exact .of_phrase (hamong.negateIf _) (by decide) (by decide)
  | number hw => exact .of_phrase (.leaf (.inl hw.1)) (by decide) (by decide)
  | null hw => exact .of_phrase (.leaf (.inr hw)) (by decide) (by decide)
  | name hw => exact ⟨.leaf (.inl hw.1), fun _ => .start⟩
  | member _ _ _ ih => exact .of_path (.member (ih.2 rfl)) rfl
  | subscript _ _ _ _ ih ihi => exact .of_path (.subscript (ih.2 rfl) (ihi.phrase (by decide))) rfl
  | last _ ih => exact Shaped.last (ih.phrase (by decide))
  | comma _ _ _ ih ihrest | juxtaposed _ _ _ ih ihrest =>
    exact Shaped.cell (ih.phrase (by decide)) ihrest

end Grammar

/-- A tree has the shape of a whole expression: a leaf below the tag `val`, or a phrase that is no
leaf. -/
inductive WellShaped : Tree → Prop
  | value {text} : Shaped .phrase (.leaf text) → WellShaped (.op .val (.leaf text) .absent)
  | phrase {o l r} : Shaped .phrase (.op o l r) → WellShaped (.op o l r)

theorem Shaped.wrapLeaf_op {part : Part} {o : Operator} {l r : Tree}
    (h : Shaped part (.op o l r)) : wrapLeaf (.op o l r) = .op o l r := by
  obtain ⟨x, hx⟩ | ⟨o', l', r', heq, ho⟩ := h.leaf_or_op
  · cases hx
  · cases heq
    simp [wrapLeaf, Tree.isLeaf, ho]

theorem Grammar.Derives.wellShaped {ws : List Text} {t : Tree} (h : Derives .disjunction ws t) :
    WellShaped (wrapLeaf t) := by
  have hshaped : Shaped .phrase t := h.shapes.phrase (by decide)
  obtain ⟨x, rfl⟩ | ⟨o, l, r, rfl, -⟩ := hshaped.leaf_or_op
  · exact .value hshaped
  · rw [hshaped.wrapLeaf_op]
    exact .phrase hshaped

/-- The tree of a text is a leaf below the tag `val`, or a phrase that is no leaf. -/
theorem shaped_of_compile {text : Text} {t : Tree} (h : compile text = .ok t) :
    (∃ x, t = .op .val (.leaf x) .absent) ∨ ∃ o l r, t = .op o l r ∧ Shaped .phrase t := by
  obtain ⟨tokens, u, -, hu, hwrap⟩ := compile_eq_ok_iff.1 h
  have hshaped := hu.wellShaped
  rw [hwrap] at hshaped
  cases hshaped with
  | value => exact .inl ⟨_, rfl⟩
  | phrase hshaped => exact .inr ⟨_, _, _, rfl, hshaped⟩

end TagFilter
