import TagFilter.Tree.Parse

/-!
# The grammar of expressions

`Derives tier words t` says that a list of words is a phrase of a tier of the language and that `t`
is its tree; its constructors are the productions of the grammar.  `Expression words t` is a phrase
of the loosest tier, with a bare leaf below the tag `val`.

Only the comma-less lists would make the grammar ambiguous: `a -b` is a difference and could be two
items.  The production `Derives.juxtaposed` therefore does not start an item at a sign
(`StartsSigned`).

The tiers are numbered from loose to tight (`Tier.rank`), and a phrase of a tight tier is one of
every looser tier (`Derives.loosen`).
-/

namespace TagFilter

namespace Grammar

open Parsing

/-- The tiers of the language, from loose to tight, and the items of a list. -/
inductive Tier where
  | disjunction
  | conjunction
  | negation
  | comparison
  | sum
  | product
  | signed
  | power
  | operand
  | path
  | items
  deriving DecidableEq, Repr

/-- The place of a tier, the loosest being 0. -/
def Tier.rank : Tier → Nat
  | .disjunction => 0
  | .conjunction => 1
  | .negation => 2
  | .comparison => 3
  | .sum => 4
  | .product => 5
  | .signed => 6
  | .power => 7
  | .operand => 8
  | .path => 9
  | .items => 10

/-- A word has a meaning, whatever its letter case. -/
abbrev Means (word : Text) (o : Operator) : Prop := Operator.ofSpelling? word = some o

/-- A word is a name: it has no meaning of its own and looks like a name. -/
def NameWord (word : Text) : Prop := Operator.ofSpelling? word = none ∧ isName word = true

/-- A word counts as a number: it has no meaning of its own and is no name. -/
def NumberWord (word : Text) : Prop := Operator.ofSpelling? word = none ∧ isName word = false

/-- The first word is a sign. -/
def StartsSigned : List Text → Prop
  | [] => False
  | word :: _ => Means word .add ∨ Means word .sub

/-- The words of an operator between two operands, with or without a `not` in front. -/
inductive Link : List Text → Operator → Bool → Prop
  | plain {word o} : Means word o → Link [word] o false
  | negated {no word o} : Means no .not → Means word o → Link [no, word] o true

/-- A list of words is a phrase of a tier with a tree. -/
inductive Derives : Tier → List Text → Tree → Prop
  /-- `or_expr := and_expr` -/
  | conjunction {ws t} : Derives .conjunction ws t → Derives .disjunction ws t
  /-- `or_expr := or_expr "or" and_expr` -/
  | or {ls w rs l r} : Derives .disjunction ls l → Means w .or → Derives .conjunction rs r →
      Derives .disjunction (ls ++ w :: rs) (.op .or l r)
  /-- `and_expr := not_expr` -/
  | negation {ws t} : Derives .negation ws t → Derives .conjunction ws t
  /-- `and_expr := and_expr "and" not_expr` -/
  | and {ls w rs l r} : Derives .conjunction ls l → Means w .and → Derives .negation rs r →
      Derives .conjunction (ls ++ w :: rs) (.op .and l r)
  /-- `not_expr := cmp_expr` -/
  | comparison {ws t} : Derives .comparison ws t → Derives .negation ws t
  /-- `not_expr := "not" not_expr` -/
  | not {w ws t} : Means w .not → Derives .negation ws t →
      Derives .negation (w :: ws) (.op .not t .absent)
  /-- `cmp_expr := add_expr` -/
  | sum {ws t} : Derives .sum ws t → Derives .comparison ws t
  /-- `cmp_expr := add_expr "is" "null"` -/
  | isNull {ws w n t} : Derives .sum ws t → Means w .is → Means n .null →
      Derives .comparison (ws ++ [w, n]) (.op .is t (.leaf "null"))
  /-- `cmp_expr := add_expr "is" "not" "null"` -/
  | isNotNull {ws w v n t} : Derives .sum ws t → Means w .is → Means v .not → Means n .null →
      Derives .comparison (ws ++ [w, v, n]) (.op .not (.op .is t (.leaf "null")) .absent)
  /-- `cmp_expr := add_expr ["not"] compare_op add_expr` -/
  | compare {ls js rs l r o negated} : Derives .sum ls l → Link js o negated →
      o.isCompare = true → Derives .sum rs r →
      Derives .comparison (ls ++ js ++ rs) (negateIf negated (.op o l r))
  /-- `cmp_expr := add_expr ["not"] "between" add_expr "and" add_expr` -/
  | between {ls js los w his l lo hi negated} : Derives .sum ls l → Link js .between negated →
      Derives .sum los lo → Means w .and → Derives .sum his hi →
      Derives .comparison (ls ++ js ++ los ++ w :: his)
        (negateIf negated (.op .between l (.op .and lo hi)))
  /-- `cmp_expr := add_expr ["not"] "in" "(" expr_list ")"` -/
  | among {ls js p is q l items negated} : Derives .sum ls l → Link js .among negated →
      Means p .leftParen → Derives .items is items → Means q .rightParen →
      Derives .comparison (ls ++ js ++ p :: is ++ [q]) (negateIf negated (.op .among l items))
  /-- `add_expr := mul_expr` -/
  | product {ws t} : Derives .product ws t → Derives .sum ws t
  /-- `add_expr := add_expr ("+" | "-" | "||") mul_expr` -/
  | add {ls w rs l r o} : Derives .sum ls l → Means w o → o.isAdditive = true →
      Derives .product rs r → Derives .sum (ls ++ w :: rs) (.op o l r)
  /-- `mul_expr := unary_expr` -/
  | signed {ws t} : Derives .signed ws t → Derives .product ws t
  /-- `mul_expr := mul_expr ("*" | "/" | "mod") unary_expr` -/
  | mul {ls w rs l r o} : Derives .product ls l → Means w o → o.isMultiplicative = true →
      Derives .signed rs r → Derives .product (ls ++ w :: rs) (.op o l r)
  /-- `unary_expr := expo_expr` -/
  | power {ws t} : Derives .power ws t → Derives .signed ws t
  /-- `unary_expr := "+" unary_expr` -/
  | pos {w ws t} : Means w .add → Derives .signed ws t →
      Derives .signed (w :: ws) (.op .pos t .absent)
  /-- `unary_expr := "-" unary_expr` -/
  | neg {w ws t} : Means w .sub → Derives .signed ws t →
      Derives .signed (w :: ws) (.op .neg t .absent)
  /-- `expo_expr := operand` -/
  | operand {ws t} : Derives .operand ws t → Derives .power ws t
  /-- `expo_expr := operand "**" unary_expr` -/
  | exp {ls w rs l r} : Derives .operand ls l → Means w .exp → Derives .signed rs r →
      Derives .power (ls ++ w :: rs) (.op .exp l r)
  /-- `operand := "(" or_expr ")"` -/
  | group {p ws q t} : Means p .leftParen → Derives .disjunction ws t → Means q .rightParen →
      Derives .operand (p :: ws ++ [q]) t
  /-- `operand := name_expr` -/
  | path {ws t} : Derives .path ws t → Derives .operand ws t
  /-- `operand := number` -/
  | number {w} : NumberWord w → Derives .operand [w] (.leaf w)
  /-- `operand := "null"` -/
  | null {w} : Means w .null → Derives .operand [w] (.leaf w)
  /-- `name_expr := identifier | string` -/
  | name {w} : NameWord w → Derives .path [w] (.leaf w)
  /-- `name_expr := name_expr "." (identifier | string)` -/
  | member {ws d v base} : Derives .path ws base → Means d .member → NameWord v →
      Derives .path (ws ++ [d, v]) (.op .member (pathBase base) (.leaf (unquote v)))
  /-- `name_expr := name_expr "[" add_expr "]"` -/
  | subscript {ws p is q base i} : Derives .path ws base → Means p .subscript →
      Derives .sum is i → Means q .rightBracket →
      Derives .path (ws ++ p :: is ++ [q]) (.op .subscript (pathBase base) i)
  /-- `expr_list := add_expr` -/
  | last {ws t} : Derives .sum ws t → Derives .items ws (.op .list t .absent)
  /-- `expr_list := add_expr "," expr_list` -/
  | comma {ws c us t rest} : Derives .sum ws t → Means c .list → Derives .items us rest →
      Derives .items (ws ++ c :: us) (.op .list t rest)
  /-- `expr_list := add_expr expr_list`, where the second item starts with no sign -/
  | juxtaposed {ws us t rest} : Derives .sum ws t → Derives .items us rest → ¬ StartsSigned us →
      Derives .items (ws ++ us) (.op .list t rest)

/-- A list of words is an expression with a tree. -/
inductive Expression : List Text → Tree → Prop
  /-- A bare leaf gets the tag `val`. -/
  | value {ws text} : Derives .disjunction ws (.leaf text) →
      Expression ws (.op .val (.leaf text) .absent)
  /-- Any other tree stands for itself. -/
  | compound {ws o l r} : Derives .disjunction ws (.op o l r) → Expression ws (.op o l r)

/-! ## Looser tiers -/

/-- The next looser tier. -/
def Tier.looser : Tier → Tier
  | .disjunction => .disjunction
  | .conjunction => .disjunction
  | .negation => .conjunction
  | .comparison => .negation
  | .sum => .comparison
  | .product => .sum
  | .signed => .product
  | .power => .signed
  | .operand => .power
  | .path => .operand
  | .items => .items

theorem Tier.eq_of_rank_eq {i j : Tier} (h : i.rank = j.rank) : i = j := by
  cases i <;> cases j <;> simp_all [rank]

theorem Tier.rank_looser {j : Tier} (hj : j ≠ .items) : j.looser.rank = j.rank - 1 := by
  cases j <;> simp_all [rank, looser]

theorem Tier.looser_ne_items {j : Tier} (hj : j ≠ .items) : j.looser ≠ .items := by
  cases j <;> simp_all [looser]

theorem Derives.looser {j : Tier} {ws : List Text} {t : Tree} (h : Derives j ws t) :
    Derives j.looser ws t := by
  cases j with
  | disjunction => exact h
  | conjunction => exact .conjunction h
  | negation => exact .negation h
  | comparison => exact .comparison h
  | sum => exact .sum h
  | product => exact .product h
  | signed => exact .signed h
  | power => exact .power h
  | operand => exact .operand h
  | path => exact .path h
  | items => exact h

/-- A phrase of a tier is a phrase of every looser tier. -/
theorem Derives.loosen {i j : Tier} {ws : List Text} {t : Tree} (h : Derives j ws t)
    (hj : j ≠ .items) (hij : i.rank ≤ j.rank) : Derives i ws t := by
  induction hn : j.rank - i.rank generalizing j with
  | zero =>
    obtain rfl : i = j := Tier.eq_of_rank_eq (by omega)
    exact h
  | succ n ih =>
    have hrank := Tier.rank_looser hj
    exact ih h.looser (Tier.looser_ne_items hj) (by omega) (by omega)

/-! ## First words -/

/-- A word of this meaning may start an operand. -/
def startsOperand : Option Operator → Bool
  | none | some .null | some .leftParen | some .add | some .sub => true
  | _ => false

/-- The first word of a sum, of anything tighter and of a list of items starts an operand. -/
theorem Derives.startsOperand {k : Tier} {ws : List Text} {t : Tree} (h : Derives k ws t)
    (hk : Tier.sum.rank ≤ k.rank) :
    ∃ w us, ws = w :: us ∧ Grammar.startsOperand (Operator.ofSpelling? w) = true := by
  induction h with
  | conjunction | or | negation | and | comparison | not | sum | isNull | isNotNull | compare
  | between | among => simp [Tier.rank] at hk
  | product _ ih | signed _ ih | power _ ih | operand _ ih | path _ ih | last _ ih =>
    exact ih (by decide)
  | add _ _ _ _ ihl | mul _ _ _ _ ihl | exp _ _ _ ihl | member _ _ _ ihl | comma _ _ _ ihl
  | juxtaposed _ _ _ ihl =>
    obtain ⟨w, us, rfl, hw⟩ := ihl (by decide)
    exact ⟨w, _, rfl, hw⟩
  | subscript _ _ _ _ ihl =>
    obtain ⟨w, us, rfl, hw⟩ := ihl (by decide)
    exact ⟨w, _, rfl, hw⟩
  | pos hw | neg hw | group hw | null hw => exact ⟨_, _, rfl, by rw [hw]; rfl⟩
  | number hw | name hw => exact ⟨_, _, rfl, by rw [hw.1]; rfl⟩

/-- The first word of any phrase starts an operand or is `not`. -/
theorem Derives.first_word {k : Tier} {ws : List Text} {t : Tree} (h : Derives k ws t) :
    ∃ w us, ws = w :: us ∧
      (Grammar.startsOperand (Operator.ofSpelling? w) = true ∨ Means w .not) := by
  -- From sums on a phrase starts with an operand; the looser tiers add words behind one or `not`.
  have hsum : ∀ {k ws t}, Derives k ws t → Tier.sum.rank ≤ k.rank → ∃ w us, ws = w :: us ∧
      (Grammar.startsOperand (Operator.ofSpelling? w) = true ∨ Means w .not) := by
    intro k ws t h hk
    obtain ⟨w, us, rfl, hw⟩ := h.startsOperand hk
    exact ⟨w, us, rfl, .inl hw⟩
  by_cases hk : Tier.sum.rank ≤ k.rank
  · exact hsum h hk
  induction h with
  | conjunction _ ih | negation _ ih | comparison _ ih => exact ih (by decide)
  | or _ _ _ ihl | and _ _ _ ihl =>
    obtain ⟨w, us, rfl, hw⟩ := ihl (by decide)
    exact ⟨w, _, rfl, hw⟩
  | not hw => exact ⟨_, _, rfl, .inr hw⟩
  | sum hs => exact hsum hs (by decide)
  | isNull hs | isNotNull hs | compare hs | between hs | among hs =>
    obtain ⟨w, us, rfl, hw⟩ := hsum hs (by decide)
    exact ⟨w, _, rfl, hw⟩
  | _ => exact absurd (by decide) hk

theorem Derives.ne_nil {k : Tier} {ws : List Text} {t : Tree} (h : Derives k ws t) : ws ≠ [] := by
  induction h <;> simp_all

/-! ## Trees -/

/-- The tree of a phrase is a leaf or has an operator that is not `nop`. -/
theorem Derives.leaf_or_op {k : Tier} {ws : List Text} {t : Tree} (h : Derives k ws t) :
    (∃ text, t = .leaf text) ∨ ∃ o l r, t = .op o l r ∧ o ≠ .nop := by
  induction h with
  | conjunction _ ih | negation _ ih | comparison _ ih | sum _ ih | product _ ih | signed _ ih
  | power _ ih | operand _ ih | path _ ih => exact ih
  | group _ _ _ ih => exact ih
  | number | null | name => exact .inl ⟨_, rfl⟩
  | @compare _ _ _ _ _ o negated _ _ ho =>
    refine .inr ?_
    cases negated
    · exact ⟨o, _, _, rfl, by rintro rfl; simp [Operator.isCompare] at ho⟩
    · exact ⟨.not, _, _, rfl, by decide⟩
  | @between _ _ _ _ _ _ _ _ negated | @among _ _ _ _ _ _ _ negated =>
    refine .inr ?_
    cases negated <;> exact ⟨_, _, _, rfl, by decide⟩
  | add _ _ ho => exact .inr ⟨_, _, _, rfl, by rintro rfl; simp [Operator.isAdditive] at ho⟩
  | mul _ _ ho => exact .inr ⟨_, _, _, rfl, by rintro rfl; simp [Operator.isMultiplicative] at ho⟩
  | _ => exact .inr ⟨_, _, _, rfl, by decide⟩

theorem expression_iff {ws : List Text} {t : Tree} :
    Expression ws t ↔ ∃ u, Derives .disjunction ws u ∧ wrapLeaf u = t := by
  constructor
  · rintro (⟨h⟩ | ⟨h⟩)
    · exact ⟨_, h, rfl⟩
    · obtain ⟨_, hu⟩ | ⟨o, l, r, hu, ho⟩ := h.leaf_or_op
      · cases hu
      · cases hu
        exact ⟨_, h, by simp [wrapLeaf, Tree.isLeaf, ho]⟩
  · rintro ⟨u, h, rfl⟩
    obtain ⟨text, rfl⟩ | ⟨o, l, r, rfl, ho⟩ := h.leaf_or_op
    · exact .value h
    · simpa [wrapLeaf, Tree.isLeaf, ho] using Expression.compound h

/-! ## Quoted words -/

theorem isQuoted_spellings : ∀ s ∈ Operator.spellings, isQuoted (Text.ofString s.1) = false := by
  decide +kernel

theorem isQuoted_toLower {word : Text} (h : isQuoted word = true) :
    isQuoted word.toLower = true := by
  cases word with
  | nil => cases h
  | cons b rest =>
    have hb : b = byte '"' ∨ b = byte '\'' := by simpa [isQuoted] using h
    rcases hb with rfl | rfl <;> rfl

/-- A word has no meaning of its own if its lower-case form has something that no spelling has. -/
theorem ofSpelling?_eq_none {test : Text → Bool} {word : Text}
    (hspellings : ∀ s ∈ Operator.spellings, test (Text.ofString s.1) = false)
    (h : test word.toLower = true) : Operator.ofSpelling? word = none := by
  have hfind : (Operator.spellings.find? fun s => Text.ofString s.1 == word.toLower) = none := by
    rw [List.find?_eq_none]
    intro s hs hword
    rw [← eq_of_beq hword, hspellings s hs] at h
    cases h
  simp [Operator.ofSpelling?, hfind]

/-- A quoted word has no meaning of its own. -/
theorem ofSpelling?_of_isQuoted {word : Text} (h : isQuoted word = true) :
    Operator.ofSpelling? word = none :=
  ofSpelling?_eq_none isQuoted_spellings (isQuoted_toLower h)

end Grammar

end TagFilter
