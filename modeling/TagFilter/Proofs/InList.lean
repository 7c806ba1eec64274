import Mathlib.Data.List.Basic
import TagFilter.Proofs.Meaning
import TagFilter.Proofs.NodeShape

/-!
# Tests of lists

The items of a test `x in (...)` are in a chain of list cells.  The predicate and the rules go over
the chain each in its own way: `Sniffer.listItems` collects the literals from the last one on, below
left children too, and `Rule.chainItems` takes every item along the chain.  In the tree of a text
they agree, since an item is never a list: what is left out of the predicate is what rule `EX04`
reports (`listItems_and_listExpression`), and what stands in the column of another item is what
rule `EX05` reports, unless the first item is no literal (`listColumns_of_first`).

`Derives.testsFrom` takes a test back to the words it comes from, so that the items are those
between the parentheses of the expression.
-/

namespace TagFilter

open Grammar Parsing Rule

/-! ## The words of a test -/

namespace Grammar

/-- Words that are items: sums one after the other, with a comma between two or without. -/
inductive Lists : List Text → List Tree → Prop
  | last {ws t} : Derives .sum ws t → Lists ws [t]
  | comma {ws c us t items} : Derives .sum ws t → Means c .list → Lists us items →
      Lists (ws ++ c :: us) (t :: items)
  | juxtaposed {ws us t items} : Derives .sum ws t → Lists us items → ¬ StartsSigned us →
      Lists (ws ++ us) (t :: items)

/-- Words that ask whether a sum is one of the items between two parentheses; the words of these
derive a list. -/
inductive ListTest : List Text → Tree → Tree → List Tree → Prop
  | intro {ls js p is q x list items negated} : Derives .sum ls x → Link js .among negated →
      Means p .leftParen → Derives .items is list → Lists is items → Means q .rightParen →
      ListTest (ls ++ js ++ p :: is ++ [q]) x list items

theorem Derives.lists {k : Tier} {is : List Text} {list : Tree} (h : Derives k is list)
    (hk : k = .items) : Lists is (chainItems list) := by
  induction h with
  | last h => exact .last h
  | comma h hc _ _ ih => exact .comma h hc (ih rfl)
  | juxtaposed h _ hsign _ ih => exact .juxtaposed h (ih rfl) hsign
  | _ => cases hk

end Grammar

namespace Tree

/-- Every test of a list in a tree is written out among some words. -/
def TestsFrom (t : Tree) (ws : List Text) : Prop :=
  ∀ x list, .op .among x list ∈ t.nodes → ∃ us, us <:+: ws ∧ ListTest us x list (chainItems list)

namespace TestsFrom

variable {t l r : Tree} {ws vs : List Text}

theorem leaf (text : Text) (ws : List Text) : (Tree.leaf text).TestsFrom ws := by
  intro x list h
  simp [nodes, preorder] at h

theorem absent (ws : List Text) : Tree.absent.TestsFrom ws := by
  intro x list h
  simp [nodes, preorder] at h

theorem mono (h : t.TestsFrom ws) (hws : ws <:+: vs) : t.TestsFrom vs := by
  intro x list hmem
  obtain ⟨us, hus, htest⟩ := h x list hmem
  exact ⟨us, hus.trans hws, htest⟩

theorem node {o : Operator} (ho : o ≠ .among) (hl : l.TestsFrom ws) (hr : r.TestsFrom ws) :
    (Tree.op o l r).TestsFrom ws := by
  intro x list hmem
  rw [nodes_node, List.mem_cons, List.mem_append] at hmem
  obtain heq | hmem | hmem := hmem
  · cases heq
    exact absurd rfl ho
  · exact hl x list hmem
  · exact hr x list hmem

theorem inner {o : Operator} (ho : o ≠ .among) (hl : l.TestsFrom ws) (hr : r.TestsFrom vs)
    (between : List Text) : (Tree.op o l r).TestsFrom (ws ++ between ++ vs) :=
  .node ho (hl.mono ⟨[], between ++ vs, by simp⟩) (hr.mono ⟨ws ++ between, [], by simp⟩)

theorem unary {o : Operator} (ho : o ≠ .among) (h : t.TestsFrom ws) :
    (Tree.op o t .absent).TestsFrom ws :=
  .node ho h (.absent ws)

theorem negateIf (h : t.TestsFrom ws) (negated : Bool) :
    (Parsing.negateIf negated t).TestsFrom ws := by
  cases negated with
  | false => exact h
  | true => exact unary (by decide) h

theorem pathBase (h : t.TestsFrom ws) : (Parsing.pathBase t).TestsFrom ws := by
  cases t with
  | leaf text => exact .leaf _ ws
  | absent | node => exact h

end TestsFrom

end Tree

/-- The tests of lists in the tree of a phrase are written out among its words. -/
theorem Grammar.Derives.testsFrom {k : Tier} {ws : List Text} {t : Tree} (h : Derives k ws t) :
    t.TestsFrom ws := by
  induction h with
  | conjunction _ ih | negation _ ih | comparison _ ih | sum _ ih | product _ ih | signed _ ih
  | power _ ih | operand _ ih | path _ ih => exact ih
  | number | null | name => exact .leaf _ _
  | @or ls w rs _ _ _ _ _ ihl ihr | @and ls w rs _ _ _ _ _ ihl ihr
  | @exp ls w rs _ _ _ _ _ ihl ihr | @comma ls w rs _ _ _ _ _ ihl ihr =>
    simpa using Tree.TestsFrom.inner (by decide) ihl ihr [w]
  | @add ls w rs _ _ o _ _ ho _ ihl ihr =>
    have hamong : o ≠ .among := by rintro rfl; cases ho
    simpa using ihl.inner hamong ihr [w]
  | @mul ls w rs _ _ o _ _ ho _ ihl ihr =>
    have hamong : o ≠ .among := by rintro rfl; cases ho
    simpa using ihl.inner hamong ihr [w]
  | juxtaposed _ _ _ ihl ihr => simpa using ihl.inner (by decide) ihr []
  | last _ ih => exact ih.unary (by decide)
  | @not w ws _ _ _ ih | @pos w ws _ _ _ ih | @neg w ws _ _ _ ih =>
    exact (ih.mono (List.suffix_cons w ws).isInfix).unary (by decide)
  | isNull _ _ _ ih =>
    exact .node (by decide) (ih.mono (List.prefix_append _ _).isInfix) (.leaf _ _)
  | isNotNull _ _ _ _ ih =>
    refine .unary (by decide) (.node (by decide) ?_ (.leaf _ _))
    exact ih.mono (List.prefix_append _ _).isInfix
  | @compare ls js rs _ _ o negated _ _ ho _ ihl ihr =>
    have hamong : o ≠ .among := by rintro rfl; cases ho
    exact (ihl.inner hamong ihr js).negateIf negated
  | @between ls js los w his _ _ _ negated _ _ _ _ _ ihl ihlo ihhi =>
    have hbounds := Tree.TestsFrom.inner (o := .and) (by decide) ihlo ihhi [w]
    have htest := Tree.TestsFrom.inner (o := .between) (by decide) ihl hbounds js
    simpa using htest.negateIf negated
  | @among ls js p is q x list negated hx hjs hp hitems hq ihx ihitems =>
    refine Tree.TestsFrom.negateIf ?_ negated
    intro x' list' hmem
    rw [Tree.nodes_node, List.mem_cons, List.mem_append] at hmem
    obtain heq | hmem | hmem := hmem
    · cases heq
      exact ⟨_, List.infix_rfl, .intro hx hjs hp hitems (hitems.lists rfl) hq⟩
    · exact ihx.mono ⟨[], js ++ p :: is ++ [q], by simp⟩ x' list' hmem
    · exact ihitems.mono ⟨ls ++ js ++ [p], [q], by simp⟩ x' list' hmem
  | @group p ws q _ _ _ _ ih => exact ih.mono ⟨[p], [q], by simp⟩
  | member _ _ _ ih =>
    exact .node (by decide) (ih.mono (List.prefix_append _ _).isInfix).pathBase (.leaf _ _)
  | @subscript ws p is q _ _ _ _ _ _ ih ihi =>
    refine .node (by decide) (Tree.TestsFrom.mono ih.pathBase ?_) (ihi.mono ?_)
    · exact ⟨[], p :: is ++ [q], by simp⟩
    · exact ⟨ws ++ [p], [q], by simp⟩

/-- The tests of lists in the tree of a text are written out among its tokens. -/
theorem exists_listTest_of_compile {text : Text} {t x list : Tree} (h : compile text = .ok t)
    (hmem : .op .among x list ∈ t.nodes) :
    ∃ tokens ws, tokenize text = .ok tokens ∧ ws <:+: tokens.map Token.text ∧
      ListTest ws x list (chainItems list) := by
  obtain ⟨tokens, u, htokens, hu, rfl⟩ := compile_eq_ok_iff.1 h
  have hwrap : (wrapLeaf u).TestsFrom (tokens.map Token.text) := by
    unfold wrapLeaf
    split
    · exact hu.testsFrom.unary (by decide)
    · exact hu.testsFrom
  obtain ⟨ws, hws, htest⟩ := hwrap x list hmem
  exact ⟨tokens, ws, htokens, hws, htest⟩

/-! ## The items of a test -/

/-- The literals among some items. -/
def literals (items : List Tree) : List Text := (items.filter Tree.isLeaf).map Tree.text

theorem reverse_literals_cons (item : Tree) (items : List Tree) :
    (literals (item :: items)).reverse = (literals items).reverse ++ literals [item] := by
  by_cases hitem : item.isLeaf = true <;> simp [literals, hitem]

namespace Shaped

variable {part : Part} {t x list : Tree}

theorem cells_of_among (h : Shaped part (.op .among x list)) : Shaped .cells list := by
  generalize hn : Tree.op .among x list = n at h
  induction h with
  | among _ hitems =>
    cases hn
    exact hitems
  | path _ ih | further _ ih => exact ih hn
  | inner ho' =>
    cases hn
    cases ho'
  | unary ho' =>
    cases hn
    simp at ho'
  | _ => cases hn

theorem phrase_of_mem_chainItems (h : Shaped part t) (hpart : part = .cells) :
    ∀ item ∈ chainItems t, Shaped .phrase item := by
  induction h with
  | last h => simpa [chainItems] using h
  | cell h _ _ ih => simpa [chainItems] using ⟨h, ih rfl⟩
  | _ => cases hpart

theorem listItems_phrase (h : Shaped .phrase t) : Sniffer.listItems t = literals [t] := by
  have hlist := h.isOperand.not_list
  obtain ⟨text, rfl⟩ | ⟨o, l, r, rfl, ho⟩ := h.leaf_or_op
  · rfl
  · simp_all [Sniffer.listItems, literals, Tree.isLeaf, Tree.tag]

/-- The literals along a chain are collected from the last one on. -/
theorem listItems_cells (h : Shaped part t) (hpart : part = .cells) :
    Sniffer.listItems t = (literals (chainItems t)).reverse := by
  induction h with
  | @last t h =>
    have hchain : chainItems (.op .list t .absent) = [t] := rfl
    rw [hchain, reverse_literals_cons, ← h.listItems_phrase]
    rfl
  | @cell t rest h _ _ ih =>
    have hchain : chainItems (.op .list t rest) = t :: chainItems rest := rfl
    rw [hchain, reverse_literals_cons, ← h.listItems_phrase, ← ih rfl]
    rfl
  | _ => cases hpart

/-- An item that is no literal is compound: none is missing. -/
theorem isCompound_phrase (h : Shaped .phrase t) : isCompound t = !t.isLeaf := by
  obtain ⟨text, rfl⟩ | ⟨o, l, r, rfl, -⟩ := h.leaf_or_op <;> rfl

theorem listExpression_among (h : Shaped .cells list) :
    listExpression (.op .among x list) =
      ((chainItems list).filter fun item => !item.isLeaf).map fun item =>
        ⟨.op .among x list, "list item " ++ item.show ++ " is not a literal and is left out"⟩ := by
  have hfilter : (chainItems list).filter isCompound =
      (chainItems list).filter fun item => !item.isLeaf :=
    List.filter_congr fun item hitem => (h.phrase_of_mem_chainItems rfl item hitem).isCompound_phrase
  rw [← hfilter]
  rfl

end Shaped

theorem length_literals_add (items : List Tree) :
    (literals items).length + (items.filter fun item => !item.isLeaf).length = items.length := by
  rw [literals, List.length_map]
  exact (List.length_eq_length_filter_add _).symm

theorem cells_of_compile {text : Text} {t x list : Tree} (h : compile text = .ok t)
    (hmem : .op .among x list ∈ t.nodes) : Shaped .cells list := by
  obtain ⟨text, rfl⟩ | ⟨o, l, r, -, hshaped⟩ := shaped_of_compile h
  · simp [Tree.nodes, Tree.preorder] at hmem
  · obtain ⟨part, hpart⟩ := hshaped.nodes _ hmem
    exact hpart.cells_of_among

/-! ## Rules over whole trees -/

/-- The tests of lists in a tree. -/
def Tree.listTests (t : Tree) : List Tree := t.nodes.filter (isOneOf [.among])

theorem flatMap_listTests {check : Tree → List Finding}
    (hcheck : ∀ n, isOneOf [.among] n = false → check n = []) (t : Tree) :
    t.nodes.flatMap check = t.listTests.flatMap check := by
  unfold Tree.listTests
  induction t.nodes with
  | nil => rfl
  | cons n ns ih =>
    by_cases hn : isOneOf [.among] n = true
    · rw [List.filter_cons_of_pos hn, List.flatMap_cons, List.flatMap_cons, ih]
    · rw [List.filter_cons_of_neg hn, List.flatMap_cons, hcheck n (by simpa using hn), ih]
      rfl

theorem exists_rule_listExpression : ∃ r ∈ Rule.all, r.id = "EX04" ∧
    ∀ classifier t, r.check classifier t = t.listTests.flatMap listExpression := by
  refine ⟨_, List.mem_of_getElem? (i := 3) rfl, rfl, fun _ t => flatMap_listTests ?_ t⟩
  intro n hn
  simp [listExpression, hn]

theorem exists_rule_listColumns : ∃ r ∈ Rule.all, r.id = "EX05" ∧
    ∀ classifier t,
      r.check (some classifier) t = t.listTests.flatMap (listColumns classifier) := by
  refine ⟨_, List.mem_of_getElem? (i := 4) rfl, rfl, fun classifier t => flatMap_listTests ?_ t⟩
  intro n hn
  simp [listColumns, hn]

/-! ## What is written and what is reported -/

namespace Sniffer

/-- A node is written as a text wherever it stands. -/
def Writes (s : Sniffer) (n : Tree) (text : Text) : Prop :=
  s.predicate n = text ∧ s.leftCondition n = text ∧ ∀ o, s.rightCondition o n = text

/-- The condition that a tag has a name and, in a column, one of some literals. -/
def listCondition (s : Sniffer) (x : Tree) (column : Column) (literals : List Text) : Text :=
  "(" ++ s.leftCondition x ++ " and " ++ column.name ++ " in (" ++ Text.join ", " literals ++ "))"

theorem writes_among (s : Sniffer) (x list : Tree) : s.Writes (.op .among x list)
    (s.listCondition x (s.column list.left.text) (listItems list)) :=
  ⟨rfl, conditions_of_inner (by decide) rfl⟩

end Sniffer

/-- A test of a list is written with the literals among the items between its parentheses, from the
last one on, and rule `EX04` reports its other items in order: one or the other for every item. -/
theorem listItems_and_listExpression {text : Text} {t : Tree} (h : compile text = .ok t) :
    (∃ r ∈ Rule.all, r.id = "EX04" ∧
      ∀ classifier, r.check classifier t = t.listTests.flatMap listExpression) ∧
    ∀ x list, .op .among x list ∈ t.nodes →
      ∃ tokens ws items, tokenize text = .ok tokens ∧ ws <:+: tokens.map Token.text ∧
        ListTest ws x list items ∧
        (∀ s : Sniffer, s.Writes (.op .among x list)
          (s.listCondition x (s.column list.left.text) (literals items).reverse)) ∧
        (listExpression (.op .among x list) =
          (items.filter fun item => !item.isLeaf).map fun item =>
            ⟨.op .among x list, "list item " ++ item.show ++ " is not a literal and is left out"⟩) ∧
        (literals items).length + (listExpression (.op .among x list)).length = items.length := by
  obtain ⟨r, hr, hid, hcheck⟩ := exists_rule_listExpression
  refine ⟨⟨r, hr, hid, fun classifier => hcheck classifier t⟩, fun x list hmem => ?_⟩
  obtain ⟨tokens, ws, htokens, hws, htest⟩ := exists_listTest_of_compile h hmem
  have hcells : Shaped .cells list := cells_of_compile h hmem
  have hreported := hcells.listExpression_among (x := x)
  refine ⟨tokens, ws, _, htokens, hws, htest, fun s => ?_, hreported, ?_⟩
  · rw [← hcells.listItems_cells rfl]
    exact s.writes_among x list
  · rw [hreported, List.length_map]
    exact length_literals_add _

/-- In `a in (1, b + 2 'c')` the two literals are written and the sum is reported. -/
theorem listItems_and_listExpression_sum :
    let sum : Tree := .op .add (.leaf "b") (.leaf "2")
    let list : Tree := .op .list (.leaf "1") (.op .list sum (.op .list (.leaf "'c'") .absent))
    let t : Tree := .op .among (.leaf "a") list
    compile "a in (1, b + 2 'c')" = .ok t ∧ .op .among (.leaf "a") list ∈ t.nodes ∧
      Sniffer.default.predicate t = Text.ofString "(name = 'a' and num_value in ('c', 1))" ∧
      (listExpression t).length = 1 ∧
      ∃ ws items, ListTest ws (.leaf "a") list items ∧
        Sniffer.default.predicate t =
          Sniffer.default.listCondition (.leaf "a") .number (literals items).reverse ∧
        (literals items).length + 1 = items.length := by
  intro sum list t
  have h : compile "a in (1, b + 2 'c')" = .ok t := compile_of_toOption (by decide +kernel)
  have hmem : t ∈ t.nodes := List.mem_cons_self
  have hpredicate : Sniffer.default.predicate t =
      Text.ofString "(name = 'a' and num_value in ('c', 1))" := by decide +kernel
  have hreported : (listExpression t).length = 1 := by decide +kernel
  have hcolumn : Sniffer.default.column list.left.text = .number := by decide +kernel
  obtain ⟨-, htests⟩ := listItems_and_listExpression h
  obtain ⟨-, ws, items, -, -, htest, hwrites, -, hlength⟩ := htests _ _ hmem
  rw [hreported] at hlength
  have hwritten := (hwrites Sniffer.default).1
  rw [hcolumn] at hwritten
  exact ⟨h, hmem, hpredicate, hreported, ws, items, htest, hwritten, hlength⟩

/-! ## Columns -/

namespace Sniffer

/-- The literals that a test of a list is written with although they belong in another column than
the one that is written before them, in the order of the expression. -/
def misplaced (s : Sniffer) (list : Tree) : List Text :=
  (listItems list).reverse.filter fun literal => s.column literal != s.column list.left.text

/-- What is reported about a literal in the wrong column. -/
def misplacedFinding (s : Sniffer) (x list : Tree) (literal : Text) : Finding :=
  ⟨.op .among x list, "list item " ++ literal ++ " belongs in " ++ (s.column literal).name ++
    " but is compared against " ++ (s.column list.left.text).name⟩

theorem classifier_bne (s : Sniffer) (a b : Text) :
    (s.classifier a != s.classifier b) = (s.column a != s.column b) := by
  rw [Bool.eq_iff_iff, bne_iff_ne, bne_iff_ne, not_iff_not]
  exact ⟨column_eq_of_classifier_eq, fun h => by rw [classifier, classifier, h]⟩

variable {x list first rest : Tree}

theorem misplaced_cell (s : Sniffer) (hcells : Shaped .cells (.op .list first rest))
    (hfirst : first.isLeaf = true) : s.misplaced (.op .list first rest) =
      (literals (chainItems rest)).filter fun literal => s.column literal != s.column first.text := by
  have hitems : literals (chainItems (.op .list first rest)) =
      first.text :: literals (chainItems rest) := by
    simp [chainItems, literals, hfirst]
  rw [misplaced, hcells.listItems_cells rfl, List.reverse_reverse, hitems, Tree.left,
    List.filter_cons_of_neg (by simp)]

theorem listColumns_of_literal (s : Sniffer) (hcells : Shaped .cells (.op .list first rest))
    (hfirst : first.isLeaf = true) :
    listColumns s.classifier (.op .among x (.op .list first rest)) =
      (s.misplaced (.op .list first rest)).map (s.misplacedFinding x (.op .list first rest)) := by
  have hlisted : listColumns s.classifier (.op .among x (.op .list first rest)) =
      (((chainItems rest).filter Tree.isLeaf).filter
        fun item => s.classifier item.text != s.classifier first.text).map
          fun item => s.misplacedFinding x (.op .list first rest) item.text := by
    simp only [listColumns, Tree.right, chainItems, if_pos, hfirst]
    rfl
  rw [hlisted, s.misplaced_cell hcells hfirst, literals, List.filter_map, List.map_map]
  simp only [classifier_bne]
  rfl

theorem listColumns_of_not_literal (s : Sniffer) (hfirst : first.isLeaf = false) :
    listColumns s.classifier (.op .among x (.op .list first rest)) = [] := by
  simp [listColumns, Tree.right, chainItems, hfirst]

end Sniffer

theorem Shaped.exists_cell {list : Tree} (h : Shaped .cells list) :
    ∃ first rest, list = .op .list first rest ∧ Shaped .phrase first := by
  cases h with
  | last h => exact ⟨_, _, rfl, h⟩
  | cell h => exact ⟨_, _, rfl, h⟩

/-- A test of a list is written with the column of its first item.  If that is a literal, rule `EX05`
reports exactly the literals that are written although they belong in another column.  If it is
none, the column is the one of the empty text and the rule reports nothing. -/
theorem listColumns_of_first {text : Text} {t : Tree} (h : compile text = .ok t) (s : Sniffer) :
    (∃ r ∈ Rule.all, r.id = "EX05" ∧
      r.check (some s.classifier) t = t.listTests.flatMap (listColumns s.classifier)) ∧
    ∀ x list, .op .among x list ∈ t.nodes →
      s.Writes (.op .among x list)
        (s.listCondition x (s.column list.left.text) (Sniffer.listItems list)) ∧
      (list.left.isLeaf = true → listColumns s.classifier (.op .among x list) =
        (s.misplaced list).map (s.misplacedFinding x list)) ∧
      (list.left.isLeaf = false → list.left.text = [] ∧
        listColumns s.classifier (.op .among x list) = []) := by
  obtain ⟨r, hr, hid, hcheck⟩ := exists_rule_listColumns
  refine ⟨⟨r, hr, hid, hcheck s.classifier t⟩, fun x list hmem => ⟨s.writes_among x list, ?_⟩⟩
  have hcells : Shaped .cells list := cells_of_compile h hmem
  obtain ⟨first, rest, rfl, hphrase⟩ := hcells.exists_cell
  refine ⟨s.listColumns_of_literal hcells, fun hfirst => ⟨?_, s.listColumns_of_not_literal hfirst⟩⟩
  obtain ⟨literal, rfl⟩ | ⟨o, l, r, rfl, -⟩ := hphrase.leaf_or_op
  · cases hfirst
  · rfl

/-- In `a in (1, 'b')` the text is in the column of numbers, and it is reported. -/
theorem listColumns_of_first_text :
    let list : Tree := .op .list (.leaf "1") (.op .list (.leaf "'b'") .absent)
    let t : Tree := .op .among (.leaf "a") list
    compile "a in (1, 'b')" = .ok t ∧ .op .among (.leaf "a") list ∈ t.nodes ∧
      Sniffer.default.misplaced list = ["'b'"] ∧
      listColumns Sniffer.default.classifier t =
        [Sniffer.default.misplacedFinding (.leaf "a") list "'b'"] := by
  intro list t
  have h : compile "a in (1, 'b')" = .ok t := compile_of_toOption (by decide +kernel)
  have hmem : t ∈ t.nodes := List.mem_cons_self
  have hmisplaced : Sniffer.default.misplaced list = ["'b'"] := by decide +kernel
  obtain ⟨-, hreported, -⟩ := (listColumns_of_first h Sniffer.default).2 _ _ hmem
  have hfindings := hreported rfl
  rw [hmisplaced] at hfindings
  exact ⟨h, hmem, hmisplaced, hfindings⟩

/-- In `a in (1 + 2, 5)` the number is in the column of texts, and it is not reported. -/
theorem listColumns_silent_after_sum :
    let sum : Tree := .op .add (.leaf "1") (.leaf "2")
    let list : Tree := .op .list sum (.op .list (.leaf "5") .absent)
    let t : Tree := .op .among (.leaf "a") list
    compile "a in (1 + 2, 5)" = .ok t ∧ .op .among (.leaf "a") list ∈ t.nodes ∧
      Sniffer.default.predicate t = Text.ofString "(name = 'a' and str_value in (5))" ∧
      Sniffer.default.column "5" = .number ∧ Sniffer.default.misplaced list = ["5"] ∧
      listColumns Sniffer.default.classifier t = [] ∧
      listColumns Sniffer.default.classifier t ≠
        (Sniffer.default.misplaced list).map
          (Sniffer.default.misplacedFinding (.leaf "a") list) := by
  intro sum list t
  have h : compile "a in (1 + 2, 5)" = .ok t := compile_of_toOption (by decide +kernel)
  have hmisplaced : Sniffer.default.misplaced list = ["5"] := by decide +kernel
  have hsilent : listColumns Sniffer.default.classifier t = [] := by decide +kernel
  refine ⟨h, List.mem_cons_self, by decide +kernel, by decide +kernel, hmisplaced, hsilent, ?_⟩
  rw [hsilent, hmisplaced]
  simp

end TagFilter
