import TagFilter.Lint.Rule
import TagFilter.Proofs.Clause
import TagFilter.Proofs.Shape

/-!
# What predicates mean

`Sniffer.Says s t f` reads a tree as a formula: its own `and` and `or` nodes join tests, and a
comparison of a name with a literal, or with a list of literals of one column, is a test of the name
and of the value in its column.  The predicate of such a tree is the printed form of
`Formula.written` (`Says.predicate`).

The trees that pass every rule are those that say a formula, as far as their nodes are tests and
connectives at all (`exists_says_iff`).  No rule looks at an `or` below the root or at operands of
`and` and `or` that are no tests, so the rules miss predicates that mean something else.
-/

namespace TagFilter

/-! ## Reading trees -/

/-- The list of some literals. -/
def literalCells : List Text → Tree
  | [] => .absent
  | text :: texts => .op .list (.leaf text) (literalCells texts)

/-- A tree says a formula. -/
inductive Sniffer.Says (s : Sniffer) : Tree → Formula → Prop
  | compared {o name literal} : o.isCompare = true ∨ o = .is →
      Says s (.op o (.leaf name) (.leaf literal))
        (.test ⟨name, .compared (s.column literal) o literal⟩)
  | listed {name first rest} : (∀ literal ∈ rest, s.column literal = s.column first) →
      Says s (.op .among (.leaf name) (literalCells (first :: rest)))
        (.test ⟨name, .listed (s.column first) (first :: rest)⟩)
  | and {l r f g} : Says s l f → Says s r g → Says s (.op .and l r) (.and f g)
  | or {l r f g} : Says s l f → Says s r g → Says s (.op .or l r) (.or f g)

/-- Whether the nodes of a tree, from the root down to the comparisons, are connectives and
comparisons. -/
def Tree.isLogical : Tree → Bool
  | .op .and l r | .op .or l r => l.isLogical && r.isLogical
  | .op .not t _ => t.isLogical
  | .op o _ _ => o.isCompare || o = .is || o = .between || o = .among
  | _ => false

namespace Sniffer

/-! ## Writing what a tree says -/

theorem listItems_literalCells (texts : List Text) :
    listItems (literalCells texts) = texts.reverse := by
  induction texts with
  | nil => rfl
  | cons text texts ih => simp [literalCells, listItems, ih]

theorem membership_literalCells (s : Sniffer) (name first : Text) (rest : List Text) :
    s.membership (nameCondition name) (literalCells (first :: rest)) =
      (Formula.factor (.test ⟨name, .listed (s.column first) (first :: rest)⟩)).print := by
  have hclose : Text.ofString "))" = Text.ofString ")" ++ Text.ofString ")" := rfl
  simp only [membership, listItems_literalCells, hclose]
  simp [literalCells, Tree.left, Tree.text, nameCondition, Formula.factor, Clause.print,
    Condition.print, ValueCondition.print]

/-- A node is written alike on both sides of an operator. -/
theorem conditions_of_inner {s : Sniffer} {o : Operator} (ho : o ≠ .nop) {l r : Tree} {text : Text}
    (h : s.inner o (s.leftCondition l) (s.rightCondition o r) r = text) :
    s.leftCondition (.op o l r) = text ∧ ∀ p, s.rightCondition p (.op o l r) = text := by
  have htag : Tag.op o ≠ .op .nop := by simpa using ho
  simp [leftCondition, rightCondition, htag, h]

theorem inner_pair (s : Sniffer) {o : Operator} (ho : o ≠ .among) (hu : o.isUnary = false)
    {r : Tree} (hr : r.isAbsent = false) (left right : Text) :
    s.inner o left right r = "(" ++ left ++ " and " ++ right ++ ")" := by
  have htag : Tag.op o ≠ .op .among := by simpa using ho
  simp [inner, htag, Tag.isUnary, hu, hr]

theorem not_unary_of_compared {o : Operator} (h : o.isCompare = true ∨ o = .is) :
    o ≠ .nop ∧ o ≠ .among ∧ o.isUnary = false := by
  cases o <;> simp_all [Operator.isCompare, Operator.isUnary]

theorem Says.isAbsent {s : Sniffer} {t : Tree} {f : Formula} (h : s.Says t f) :
    t.isAbsent = false := by
  cases h <;> rfl

/-- A tree below the root is written as the factor of what it says. -/
theorem Says.conditions {s : Sniffer} {t : Tree} {f : Formula} (h : s.Says t f) :
    s.leftCondition t = f.factor.print ∧ ∀ p, s.rightCondition p t = f.factor.print := by
  induction h with
  | @compared o name literal ho =>
    obtain ⟨hnop, hamong, hunary⟩ := not_unary_of_compared ho
    refine conditions_of_inner hnop ?_
    rw [inner_pair s hamong hunary rfl]
    simp [leftCondition, rightCondition, nameCondition, valueCondition, Formula.factor,
      Clause.print, Condition.print, ValueCondition.print]
  | @listed name first rest _ =>
    exact conditions_of_inner (by decide) (s.membership_literalCells name first rest)
  | @and l r f g _ hr ihl ihr | @or l r f g _ hr ihl ihr =>
    refine conditions_of_inner (by decide) ?_
    rw [inner_pair s (by decide) rfl hr.isAbsent, ihl.1, ihr.2]
    simp [Formula.factor, Clause.print]

theorem Says.two_le_depth {s : Sniffer} {t : Tree} {f : Formula} (h : s.Says t f) :
    2 ≤ t.depth := by
  induction h with
  | compared | listed => simp only [Tree.depth]; omega
  | and _ _ ihl | or _ _ ihl => simp only [Tree.depth]; omega

theorem predicate_op (s : Sniffer) {o : Operator} (ho : o ≠ .among) (l : Tree) {r : Tree}
    (hr : r.isAbsent = false) :
    s.predicate (.op o l r) =
      s.leftCondition l ++ " " ++ rootJoin (.op o l r) ++ " " ++ s.rightCondition o r := by
  have htag : Tag.op o ≠ .op .among := by simpa using ho
  simp [predicate, Tree.tag, Tree.left, Tree.right, htag, hr]

theorem Says.rootJoin_op {s : Sniffer} {l : Tree} {f : Formula} (h : s.Says l f) (o : Operator)
    (r : Tree) : rootJoin (.op o l r) = Tag.spelled o := by
  have hdepth : 2 < (Tree.op o l r).depth := by
    have := h.two_le_depth
    simp only [Tree.depth]
    omega
  rw [rootJoin, if_pos hdepth]
  rfl

theorem spaced_and : Text.ofString " and " = " " ++ (Text.ofString "and" ++ " ") := rfl

theorem spaced_or : Text.ofString " or " = " " ++ (Text.ofString "or" ++ " ") := rfl

/-- A tree is written as the clause of what it says. -/
theorem Says.predicate {s : Sniffer} {t : Tree} {f : Formula} (h : s.Says t f) :
    s.predicate t = f.written.print := by
  cases h with
  | @compared o name literal ho =>
    obtain ⟨-, hamong, -⟩ := not_unary_of_compared ho
    have hjoin : rootJoin (.op o (.leaf name) (.leaf literal)) = "and" := rfl
    rw [predicate_op s hamong _ rfl, hjoin]
    simp [leftCondition, rightCondition, nameCondition, valueCondition, Formula.written,
      Clause.print, Condition.print, ValueCondition.print, spaced_and]
  | @listed name first rest _ => exact s.membership_literalCells name first rest
  | @and l r f g hl hr =>
    have hspelled : Tag.spelled (.op .and) = Text.ofString "and" := by decide
    rw [predicate_op s (by decide) _ hr.isAbsent, hl.rootJoin_op, hl.conditions.1, hr.conditions.2]
    simp [hspelled, Formula.written, Clause.print, spaced_and]
  | @or l r f g hl hr =>
    have hspelled : Tag.spelled (.op .or) = Text.ofString "or" := by decide
    rw [predicate_op s (by decide) _ hr.isAbsent, hl.rootJoin_op, hl.conditions.1, hr.conditions.2]
    simp [hspelled, Formula.written, Clause.print, spaced_or]

end Sniffer

/-! ## Passing the rules -/

namespace Rule

/-- A node passes the rules about single nodes. -/
structure Passes (classifier : Classifier) (n : Tree) : Prop where
  nullEquality : nullEquality n = []
  negation : negation n = []
  nestedOperand : nestedOperand n = []
  listExpression : listExpression n = []
  listColumns : listColumns classifier n = []
  unsupported : unsupported n = []

/-- A configuration leaves every rule on. -/
def AllOn (config : LintConfig) : Prop := ∀ r ∈ all, config.isDisabled r.id = false

theorem check_eq_nil_of_analyze {config : LintConfig} {classifier : Classifier} {t : Tree}
    (hon : AllOn config) (h : analyze config (some classifier) t = []) {r : Rule} (hr : r ∈ all) :
    r.check (some classifier) t = [] := by
  have hdiagnostics := List.flatMap_eq_nil_iff.1 h r hr
  simpa [diagnostics, hon r hr] using hdiagnostics

/-- In a tree without diagnostics every node passes. -/
theorem passes_of_analyze {config : LintConfig} {classifier : Classifier} {t : Tree}
    (hon : AllOn config) (h : analyze config (some classifier) t = []) :
    ∀ n ∈ t.nodes, Passes classifier n := by
  have hcheck : ∀ r ∈ all, r.check (some classifier) t = [] :=
    fun r => check_eq_nil_of_analyze hon h
  simp only [all, List.forall_mem_cons, List.flatMap_eq_nil_iff] at hcheck
  obtain ⟨h1, h2, h3, h4, h5, h6, -⟩ := hcheck
  exact fun n hn => ⟨h1 n hn, h2 n hn, h3 n hn, h4 n hn, h5 n hn, h6 n hn⟩

variable {classifier : Classifier} {l r : Tree}

theorem Passes.operands {o : Operator} (h : Passes classifier (.op o l r))
    (ho : o.isCompare = true ∨ o = .is ∨ o = .among) :
    isCompound l = false ∧ (o ≠ .among → isCompound r = false) := by
  have htest : ((Tree.op o l r).tag.isCompare || isOneOf [.is, .among] (.op o l r)) = true := by
    rcases ho with ho | rfl | rfl
    · simp [Tree.tag, Tag.isCompare, ho]
    · rfl
    · rfl
  have hnested := h.nestedOperand
  rw [Rule.nestedOperand, if_pos htest, List.append_eq_nil_iff] at hnested
  simpa [Tree.left, Tree.right, isOneOf, Tree.tag] using hnested

theorem Passes.items (h : Passes classifier (.op .among l r)) :
    ∀ item ∈ chainItems r, isCompound item = false := by
  have hitems := h.listExpression
  simpa [Rule.listExpression, isOneOf, Tree.tag, Tree.right] using hitems

end Rule

/-! ## Trees that pass say formulas -/

namespace Shaped

open Rule

theorem leaf_of_not_compound {part : Part} {t : Tree} (h : Shaped part t)
    (hc : isCompound t = false) : ∃ text, t = .leaf text := by
  obtain hleaf | ⟨o, l, r, rfl, ho⟩ := h.leaf_or_op
  · exact hleaf
  · simp [isCompound, Tree.isAbsent, Tree.isLeaf, ho] at hc

theorem literalCells_of_not_compound {part : Part} {t : Tree} (h : Shaped part t)
    (hpart : part = .cells) (hitems : ∀ item ∈ chainItems t, isCompound item = false) :
    ∃ first rest, t = literalCells (first :: rest) := by
  induction h with
  | last hfirst =>
    obtain ⟨text, rfl⟩ := hfirst.leaf_of_not_compound (hitems _ (by simp [chainItems]))
    exact ⟨text, [], rfl⟩
  | cell hfirst _ _ ih =>
    obtain ⟨text, rfl⟩ := hfirst.leaf_of_not_compound (hitems _ (by simp [chainItems]))
    obtain ⟨first, rest, rfl⟩ := ih rfl fun item hitem => hitems item (by simp [chainItems, hitem])
    exact ⟨text, first :: rest, rfl⟩
  | _ => cases hpart

end Shaped

theorem chainItems_literalCells (texts : List Text) :
    Rule.chainItems (literalCells texts) = texts.map .leaf := by
  induction texts with
  | nil => rfl
  | cons text texts ih => simp [literalCells, Rule.chainItems, ih]

theorem column_eq_of_classifier_eq {s : Sniffer} {x y : Text}
    (h : s.classifier x = s.classifier y) : s.column x = s.column y := by
  have hname : ∀ a b : Column, Text.ofString a.name = Text.ofString b.name → a = b := by
    intro a b
    cases a <;> cases b <;> decide
  exact hname _ _ h

theorem Rule.Passes.columns {s : Sniffer} {l : Tree} {first : Text} {rest : List Text}
    (h : Passes s.classifier (.op .among l (literalCells (first :: rest)))) :
    ∀ literal ∈ rest, s.column literal = s.column first := by
  intro literal hliteral
  have hcolumns := h.listColumns
  simp only [Rule.listColumns, Tree.right, chainItems_literalCells, List.map_cons] at hcolumns
  have hall : ∀ item ∈ rest, s.classifier item = s.classifier first := by
    simpa [isOneOf, Tree.tag, Tree.isLeaf, Tree.text] using hcolumns
  exact column_eq_of_classifier_eq (hall literal hliteral)

theorem Tree.isLogical_inner {o : Operator} {l r : Tree} (ho : o.isInner = true)
    (hcompare : o.isCompare = false) (h : (Tree.op o l r).isLogical = true) :
    (o = .and ∨ o = .or) ∧ l.isLogical = true ∧ r.isLogical = true := by
  cases o <;> simp_all [isLogical, Operator.isInner, Operator.isCompare, Operator.isAdditive,
    Operator.isMultiplicative]

open Rule in
/-- A logical phrase whose nodes pass the rules says a formula. -/
theorem Shaped.exists_says {part : Part} {t : Tree} (h : Shaped part t) {s : Sniffer}
    (hpasses : ∀ n ∈ t.nodes, Passes s.classifier n) (hlogical : t.isLogical = true) :
    ∃ f, s.Says t f := by
  have hroot : ∀ {o l r}, (∀ n ∈ (Tree.op o l r).nodes, Passes s.classifier n) →
      Passes s.classifier (.op o l r) := fun hp => hp _ (by simp [Tree.nodes_node])
  induction h with
  | leaf | start => cases hlogical
  | @inner o l r ho hl hr ihl ihr =>
    cases hcompare : o.isCompare with
    | true =>
      obtain ⟨hleft, hright⟩ := (hroot hpasses).operands (.inl hcompare)
      obtain ⟨name, rfl⟩ := hl.leaf_of_not_compound hleft
      obtain ⟨literal, rfl⟩ := hr.leaf_of_not_compound (hright (by rintro rfl; cases hcompare))
      exact ⟨_, .compared (.inl hcompare)⟩
    | false =>
      obtain ⟨hop, hllogical, hrlogical⟩ := Tree.isLogical_inner ho hcompare hlogical
      rw [Tree.nodes_node] at hpasses
      obtain ⟨f, hf⟩ := ihl (fun n hn => hpasses n (by simp [hn])) hllogical
      obtain ⟨g, hg⟩ := ihr (fun n hn => hpasses n (by simp [hn])) hrlogical
      rcases hop with rfl | rfl
      · exact ⟨_, .and hf hg⟩
      · exact ⟨_, .or hf hg⟩
  | unary ho =>
    rcases ho with rfl | rfl | rfl
    · cases (hroot hpasses).negation
    · cases hlogical
    · cases hlogical
  | isNull h =>
    obtain ⟨hleft, -⟩ := (hroot hpasses).operands (.inr (.inl rfl))
    obtain ⟨name, rfl⟩ := h.leaf_of_not_compound hleft
    exact ⟨_, .compared (.inr rfl)⟩
  | between => cases (hroot hpasses).unsupported
  | among h hitems =>
    have hpass := hroot hpasses
    obtain ⟨name, rfl⟩ := h.leaf_of_not_compound (hpass.operands (.inr (.inr rfl))).1
    obtain ⟨first, rest, rfl⟩ := hitems.literalCells_of_not_compound rfl hpass.items
    exact ⟨_, .listed hpass.columns⟩
  | path _ ih | further _ ih => exact ih hpasses hlogical
  | _ => cases hlogical

theorem Sniffer.Says.isLogical {s : Sniffer} {t : Tree} {f : Formula} (h : s.Says t f) :
    t.isLogical = true := by
  induction h with
  | @compared o _ _ ho => cases o <;> simp_all [Tree.isLogical, Operator.isCompare]
  | listed => rfl
  | and _ _ ihl ihr | or _ _ ihl ihr => simp [Tree.isLogical, ihl, ihr]

/-- A text without diagnostics says a formula exactly when its nodes are connectives and
comparisons. -/
theorem exists_says_iff {s : Sniffer} {text : Text} {t : Tree} (ht : compile text = .ok t)
    {config : LintConfig} (hon : Rule.AllOn config)
    (hclean : analyze config (some s.classifier) t = []) :
    (∃ f, s.Says t f) ↔ t.isLogical = true := by
  constructor
  · rintro ⟨f, h⟩
    exact h.isLogical
  · intro hlogical
    obtain ⟨x, rfl⟩ | ⟨o, l, r, -, hshaped⟩ := shaped_of_compile ht
    · cases hlogical
    · exact hshaped.exists_says (Rule.passes_of_analyze hon hclean) hlogical

/-- The predicate of a text without diagnostics is the printed form of a clause.  It has the truth
value of what the tree says under every assignment if no `or` is below the root; it has another one
under some assignment if there is one and no two tests have the same name, or no two the same
value. -/
theorem lintClean_predicate_meaning (s : Sniffer) (select : Text) {text : Text} {t : Tree}
    (ht : compile text = .ok t) {config : LintConfig} (hon : Rule.AllOn config)
    (hclean : analyze config (some s.classifier) t = []) :
    ((∃ f, s.Says t f) ↔ t.isLogical = true) ∧
      ∀ f, s.Says t f →
        s.render select t = select ++ " where " ++ f.written.print ∧
        (f.hasInnerOr = false → ∀ v, f.written.holds v = f.holds v) ∧
        (f.hasInnerOr = true → (∃ side, (f.marks side).Nodup) →
          ∃ v, f.written.holds v ≠ f.holds v) := by
  refine ⟨exists_says_iff ht hon hclean, fun f hf => ⟨?_, ?_, ?_⟩⟩
  · rw [Sniffer.render, hf.predicate]
  · exact fun h v => Formula.holds_written h v
  · rintro h ⟨side, hnodup⟩
    exact Formula.exists_holds_written_ne h hnodup

/-- The rules pass `a = 1 and (b = 2 or c = 3)`, whose predicate asks for all three. -/
theorem lintClean_predicate_meaning_inner_or :
    let t : Tree := .op .and (.op .eq (.leaf "a") (.leaf "1"))
      (.op .or (.op .eq (.leaf "b") (.leaf "2")) (.op .eq (.leaf "c") (.leaf "3")))
    compile "a = 1 and (b = 2 or c = 3)" = .ok t ∧ Rule.AllOn {} ∧
      analyze {} (some Sniffer.default.classifier) t = [] ∧
      ∃ f, Sniffer.default.Says t f ∧
        Sniffer.default.render "q" t = Text.ofString "q" ++ " where " ++ f.written.print ∧
        ∃ v, f.written.holds v ≠ f.holds v := by
  intro t
  have ht : compile "a = 1 and (b = 2 or c = 3)" = .ok t := compile_of_toOption (by decide +kernel)
  have hon : Rule.AllOn {} := fun _ _ => rfl
  have hclean : analyze {} (some Sniffer.default.classifier) t = [] := by decide +kernel
  have hsays : Sniffer.default.Says t _ :=
    .and (.compared (.inl rfl)) (.or (.compared (.inl rfl)) (.compared (.inl rfl)))
  obtain ⟨-, hmeaning⟩ := lintClean_predicate_meaning Sniffer.default "q" ht hon hclean
  obtain ⟨hrender, -, hdiffers⟩ := hmeaning _ hsays
  exact ⟨ht, hon, hclean, _, hsays, hrender, hdiffers rfl ⟨.name, by decide +kernel⟩⟩

end TagFilter
