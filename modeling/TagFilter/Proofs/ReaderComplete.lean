import TagFilter.Proofs.ReaderStack

/-!
# The reader takes every phrase

The reader closes a construct only at the next word, so after a phrase its stack still holds the
constructs of that phrase.  `Settles k s t stack` says that this makes no difference: at every word
that does not go on with a phrase of tier `k`, and at the end of the words, the state `s` acts like
the state that holds the finished tree `t` above `stack`.

`reaches_of_derives` shows by induction on the derivation that reading a phrase settles at
its tree, and `run_of_derives` concludes that the reader takes every phrase of the loosest tier.
-/

namespace TagFilter

namespace Parsing

open Grammar

/-- An operator that, after a phrase of a tier, goes on with a tighter phrase at its end. -/
def goesOn (k : Tier) : Operator → Bool
  | .member | .subscript => true
  | .exp => k.rank ≤ Tier.power.rank
  | .mul | .div | .mod => k.rank ≤ Tier.sum.rank
  | .add | .sub | .concat | .is | .not | .between | .among => k.rank ≤ Tier.comparison.rank
  | .eq | .ne | .lt | .le | .gt | .ge | .contains | .like | .likeFile =>
    k.rank ≤ Tier.comparison.rank
  | .and => k.rank ≤ Tier.disjunction.rank
  | _ => false

/-- A word does not go on with a phrase of a tier. -/
def Stops (k : Tier) (word : Text) : Prop := ∀ o, Means word o → goesOn k o = false

/-- What the reader waits for after a finished phrase of a tier. -/
def finished (k : Tier) (t : Tree) : Mode :=
  if k.rank ≤ Tier.comparison.rank then .tested t else .value t false

/-- Two states act alike at the end of the words and at every word that stops a tier. -/
def Alike (k : Tier) (s s' : State) : Prop :=
  (∀ w, Stops k w → s.step w = s'.step w) ∧ s.finish = s'.finish

/-- A state acts like the one that holds a finished phrase of a tier. -/
def Settles (k : Tier) (s : State) (t : Tree) (stack : List Frame) : Prop :=
  Alike k s ⟨finished k t, stack⟩

theorem goesOn_mono {i j : Tier} (hij : i.rank ≤ j.rank) {o : Operator} (h : goesOn j o = true) :
    goesOn i o = true := by
  cases o <;> simp_all [goesOn] <;> omega

theorem Stops.mono {i j : Tier} {w : Text} (h : Stops i w) (hij : i.rank ≤ j.rank) :
    Stops j w := by
  intro o ho
  cases hgoes : goesOn j o with
  | false => rfl
  | true => exact (goesOn_mono hij hgoes).symm.trans (h o ho)

theorem Stops.ne {k : Tier} {w : Text} (h : Stops k w) {o : Operator} (ho : goesOn k o = true) :
    Operator.ofSpelling? w ≠ some o := by
  intro hw
  rw [h o hw] at ho
  cases ho

theorem Alike.mono {i j : Tier} {s s' : State} (h : Alike j s s') (hij : i.rank ≤ j.rank) :
    Alike i s s' :=
  ⟨fun w hw => h.1 w (hw.mono hij), h.2⟩

theorem goesOn_signed (o : Operator) : goesOn .signed o = goesOn .power o := by
  cases o <;> rfl

/-- The same words go on with a power and with a signed factor. -/
theorem Alike.power {s s' : State} (h : Alike .signed s s') : Alike .power s s' :=
  ⟨fun w hw => h.1 w fun o ho => (goesOn_signed o).trans (hw o ho), h.2⟩

theorem Alike.trans {k : Tier} {s s₁ s₂ : State} (h : Alike k s s₁) (h' : Alike k s₁ s₂) :
    Alike k s s₂ :=
  ⟨fun w hw => (h.1 w hw).trans (h'.1 w hw), h.2.trans h'.2⟩

/-! ## Values -/

theorem step_value {w : Text} (hexp : Operator.ofSpelling? w ≠ some .exp) (t : Tree)
    (stack : List Frame) :
    State.step ⟨.value t false, stack⟩ w =
      afterFactor (closeFactor t stack).1 (closeFactor t stack).2 w := by
  simp [State.step, afterValue, hexp]

theorem filter_multiplicative {k : Tier} {w : Text} (h : Stops k w)
    (hk : k.rank ≤ Tier.sum.rank) :
    (Operator.ofSpelling? w).filter Operator.isMultiplicative = none := by
  cases hm : Operator.ofSpelling? w with
  | none => rfl
  | some o =>
    have := h o hm
    cases o <;> simp_all [goesOn, Operator.isMultiplicative]

theorem filter_additive {k : Tier} {w : Text} (h : Stops k w)
    (hk : k.rank ≤ Tier.comparison.rank) :
    (Operator.ofSpelling? w).filter Operator.isAdditive = none := by
  cases hm : Operator.ofSpelling? w with
  | none => rfl
  | some o =>
    have := h o hm
    cases o <;> simp_all [goesOn, Operator.isAdditive]

theorem alike_path (t : Tree) (isPath : Bool) (stack : List Frame) :
    Alike .operand ⟨.value t isPath, stack⟩ ⟨.value t false, stack⟩ := by
  refine ⟨fun w hw => ?_, rfl⟩
  have hmember := hw.ne (o := .member) rfl
  have hsubscript := hw.ne (o := .subscript) rfl
  simp [State.step, afterValue, hmember, hsubscript]

theorem alike_sign (o : Operator) (t : Tree) (stack : List Frame) :
    Alike .signed ⟨.value t false, .sign o :: stack⟩ ⟨.value (.op o t .absent) false, stack⟩ := by
  refine ⟨fun w hw => ?_, rfl⟩
  have hexp := hw.ne (o := .exp) rfl
  rw [step_value hexp, step_value hexp]
  rfl

theorem alike_power (base t : Tree) (stack : List Frame) :
    Alike .power ⟨.value t false, .power base :: stack⟩
      ⟨.value (.op .exp base t) false, stack⟩ := by
  refine ⟨fun w hw => ?_, rfl⟩
  have hexp := hw.ne (o := .exp) rfl
  rw [step_value hexp, step_value hexp]
  rfl

theorem alike_product {stack : List Frame} (hfits : Fits .product stack) (o : Operator)
    (l r : Tree) :
    Alike .product ⟨.value r false, .product o l :: stack⟩ ⟨.value (.op o l r) false, stack⟩ := by
  refine ⟨fun w hw => ?_, ?_⟩
  · have hexp := hw.ne (o := .exp) rfl
    rw [step_value hexp, step_value hexp, closeFactor_eq _ hfits]
    simp [afterFactor, closeProduct_eq _ hfits]
  · simp [State.finish, finishValue, closeFactor_eq _ hfits, closeProduct_eq _ hfits]

theorem alike_sum {stack : List Frame} (hfits : Fits .sum stack) (o : Operator) (l r : Tree) :
    Alike .sum ⟨.value r false, .sum o l :: stack⟩ ⟨.value (.op o l r) false, stack⟩ := by
  have hfits' : Fits .product stack := hfits.mono (by decide)
  refine ⟨fun w hw => ?_, ?_⟩
  · have hexp := hw.ne (o := .exp) rfl
    rw [step_value hexp, step_value hexp, closeFactor_eq _ hfits']
    simp [afterFactor, closeProduct_eq _ hfits', filter_multiplicative hw (Nat.le_refl _),
      afterProduct, closeSum_eq _ hfits]
  · simp [State.finish, finishValue, closeFactor_eq _ hfits', closeProduct_eq _ hfits',
      closeSum_eq _ hfits]

theorem stops_of_means {k : Tier} {w : Text} {o : Operator} (hw : Means w o)
    (ho : goesOn k o = false) : Stops k w := by
  intro o' hw'
  obtain rfl : o = o' := Option.some.inj (hw.symm.trans hw')
  exact ho

/-- At a word that is neither additive nor goes on with a sum, the sum is complete. -/
theorem step_sum {stack : List Frame} {w : Text} (hfits : Fits .sum stack) (hw : Stops .sum w)
    (hadd : (Operator.ofSpelling? w).filter Operator.isAdditive = none) (t : Tree) :
    State.step ⟨.value t false, stack⟩ w = afterSum t stack w := by
  have hfits' : Fits .product stack := hfits.mono (by decide)
  rw [step_value (hw.ne rfl), closeFactor_eq _ hfits']
  simp [afterFactor, closeProduct_eq _ hfits', filter_multiplicative hw (Nat.le_refl _),
    afterProduct, closeSum_eq _ hfits, hadd]

theorem step_sum_of_means {stack : List Frame} {w : Text} {o : Operator}
    (hfits : Fits .sum stack) (hw : Means w o) (ho : goesOn .sum o = false)
    (hadd : o.isAdditive = false) (t : Tree) :
    State.step ⟨.value t false, stack⟩ w = afterSum t stack w :=
  step_sum hfits (stops_of_means hw ho) (by rw [hw]; simp [hadd]) t

theorem step_multiplicative {stack : List Frame} {w : Text} {o : Operator}
    (hfits : Fits .product stack) (hw : Means w o) (ho : o.isMultiplicative = true) (t : Tree) :
    State.step ⟨.value t false, stack⟩ w = .ok ⟨.operand, .product o t :: stack⟩ := by
  have hexp : Operator.ofSpelling? w ≠ some .exp := by
    rintro hexp
    rw [hw] at hexp
    cases hexp
    cases ho
  rw [step_value hexp, closeFactor_eq _ hfits]
  simp [afterFactor, closeProduct_eq _ hfits, hw, Option.filter_some_pos ho]

theorem step_additive {stack : List Frame} {w : Text} {o : Operator}
    (hfits : Fits .sum stack) (hw : Means w o) (ho : o.isAdditive = true) (t : Tree) :
    State.step ⟨.value t false, stack⟩ w = .ok ⟨.operand, .sum o t :: stack⟩ := by
  have hfits' : Fits .product stack := hfits.mono (by decide)
  have hstops : Stops .sum w := by
    refine stops_of_means hw ?_
    cases o <;> simp_all [Operator.isAdditive, goesOn, Tier.rank]
  have hmul := filter_multiplicative hstops (Nat.le_refl _)
  rw [step_value (hstops.ne rfl), closeFactor_eq _ hfits']
  simp only [afterFactor, closeProduct_eq _ hfits', hmul, afterProduct, closeSum_eq _ hfits]
  rw [hw, Option.filter_some_pos ho]

/-! ## Tests -/

theorem afterSum_of_fits {stack : List Frame} (hfits : Fits .comparison stack) (t : Tree)
    (w : Text) : afterSum t stack w = afterSubject t stack (Operator.ofSpelling? w) := by
  cases stack with
  | nil => rfl
  | cons frame stack =>
    cases frame with
    | group | disjunct | conjunct | negation => rfl
    | comparand | lowBound | highBound | item | index | sum | product | sign | power =>
      simp [Frame.tier, Tier.rank] at hfits

theorem startTest_of_stops {k : Tier} {o : Operator} (hk : k.rank ≤ Tier.comparison.rank)
    (ho : goesOn k o = false) (t : Tree) (negated : Bool) (stack : List Frame) :
    startTest t negated stack o = none := by
  cases o <;> simp_all [goesOn, startTest, Operator.isCompare]

/-- A sum is a test of its own. -/
theorem alike_tested {stack : List Frame} (hfits : Fits .comparison stack) (t : Tree) :
    Alike .comparison ⟨.value t false, stack⟩ ⟨.tested t, stack⟩ := by
  have hsum : Fits .sum stack := hfits.mono (by decide)
  have hproduct : Fits .product stack := hsum.mono (by decide)
  refine ⟨fun w hw => ?_, ?_⟩
  · rw [step_sum hsum (hw.mono (by decide)) (filter_additive hw (Nat.le_refl _)),
      afterSum_of_fits hfits]
    have hnot := hw.ne (o := .not) rfl
    have his := hw.ne (o := .is) rfl
    have hstart : (Operator.ofSpelling? w).bind (startTest t false stack) = none := by
      cases hm : Operator.ofSpelling? w with
      | none => rfl
      | some o => exact startTest_of_stops (Nat.le_refl _) (hw o hm) t false stack
    simp only [afterSubject, State.step]
    split <;> simp_all
  · simp only [State.finish, finishValue, closeFactor_eq _ hproduct, closeProduct_eq _ hproduct,
      closeSum_eq _ hsum]
    rcases stack with _ | ⟨_ | _, _⟩ <;> simp_all [Frame.tier, Tier.rank]

theorem alike_comparand (o : Operator) (l r : Tree) (negated : Bool) (stack : List Frame) :
    Alike .comparison ⟨.value r false, .comparand o l negated :: stack⟩
      ⟨.tested (negateIf negated (.op o l r)), stack⟩ := by
  refine ⟨fun w hw => ?_, rfl⟩
  rw [step_sum (Nat.le_refl _) (hw.mono (by decide)) (filter_additive hw (Nat.le_refl _))]
  rfl

theorem alike_highBound (l lo hi : Tree) (negated : Bool) (stack : List Frame) :
    Alike .comparison ⟨.value hi false, .highBound l lo negated :: stack⟩
      ⟨.tested (negateIf negated (.op .between l (.op .and lo hi))), stack⟩ := by
  refine ⟨fun w hw => ?_, rfl⟩
  rw [step_sum (Nat.le_refl _) (hw.mono (by decide)) (filter_additive hw (Nat.le_refl _))]
  rfl

theorem alike_negation (t : Tree) (stack : List Frame) :
    Alike .negation ⟨.tested t, .negation :: stack⟩ ⟨.tested (.op .not t .absent), stack⟩ :=
  ⟨fun _ _ => rfl, rfl⟩

theorem alike_conjunct {stack : List Frame} (hfits : Fits .conjunction stack) (l r : Tree) :
    Alike .conjunction ⟨.tested r, .conjunct l :: stack⟩ ⟨.tested (.op .and l r), stack⟩ := by
  refine ⟨fun w _ => ?_, ?_⟩
  · simp [State.step, afterTest, closeNegation_eq _ hfits, closeConjunct_eq _ hfits]
  · simp [State.finish, finishTest, closeNegation_eq _ hfits, closeConjunct_eq _ hfits]

theorem alike_disjunct {stack : List Frame} (hfits : Fits .disjunction stack) (l r : Tree) :
    Alike .disjunction ⟨.tested r, .disjunct l :: stack⟩ ⟨.tested (.op .or l r), stack⟩ := by
  have hfits' : Fits .conjunction stack := hfits.mono (by decide)
  have hframe : Fits .conjunction (.disjunct l :: stack) := Nat.le_refl _
  refine ⟨fun w hw => ?_, ?_⟩
  · have hand := hw.ne (o := .and) rfl
    simp only [State.step, afterTest, closeNegation_eq _ hframe, closeConjunct_eq _ hframe,
      closeNegation_eq _ hfits', closeConjunct_eq _ hfits', closeDisjunct_disjunct,
      closeDisjunct_eq _ hfits]
    split <;> simp_all
  · simp [State.finish, finishTest, closeNegation_eq _ hframe, closeConjunct_eq _ hframe,
      closeNegation_eq _ hfits', closeConjunct_eq _ hfits', closeDisjunct_eq _ hfits]

/-! ## Steps between phrases -/

section Steps

variable {stack : List Frame} {w : Text} {t : Tree}

theorem step_or (hfits : Fits .disjunction stack) (hw : Means w .or) (t : Tree) :
    State.step ⟨.tested t, stack⟩ w = .ok ⟨.operand, .disjunct t :: stack⟩ := by
  have hfits' : Fits .conjunction stack := hfits.mono (by decide)
  simp [State.step, afterTest, closeNegation_eq _ hfits', closeConjunct_eq _ hfits',
    closeDisjunct_eq _ hfits, hw]

theorem step_and (hfits : Fits .conjunction stack) (hw : Means w .and) (t : Tree) :
    State.step ⟨.tested t, stack⟩ w = .ok ⟨.operand, .conjunct t :: stack⟩ := by
  simp [State.step, afterTest, closeNegation_eq _ hfits, closeConjunct_eq _ hfits, hw]

theorem step_rightParen (hw : Means w .rightParen) (t : Tree) (stack : List Frame) :
    State.step ⟨.tested t, .group :: stack⟩ w = .ok ⟨.value t false, stack⟩ := by
  have hfits : Fits .disjunction (.group :: stack) := Nat.le_refl _
  have hfits' : Fits .conjunction (.group :: stack) := hfits.mono (by decide)
  simp [State.step, afterTest, closeNegation_eq _ hfits', closeConjunct_eq _ hfits',
    closeDisjunct_eq _ hfits, hw]

theorem takesNot_of_fits (hfits : Fits .negation stack) : takesNot stack = true := by
  rcases stack with _ | ⟨_ | _, _⟩ <;> simp_all [Frame.tier, Tier.rank, takesNot]

theorem step_not (hfits : Fits .negation stack) (hw : Means w .not) :
    State.step ⟨.operand, stack⟩ w = .ok ⟨.operand, .negation :: stack⟩ := by
  simp [State.step, startOperand, hw, takesNot_of_fits hfits]

/-- A sum followed by the words of a comparing operator starts a test. -/
theorem Settles.reads_link {s s' : State} {js : List Text} {o : Operator} {negated : Bool}
    (h : Settles .sum s t stack) (hfits : Fits .comparison stack) (hjs : Link js o negated)
    (hstart : startTest t negated stack o = some s') : Reads s js s' := by
  have hsum : Fits .sum stack := hfits.mono (by decide)
  have hvalue : ∀ {w}, Stops .sum w → s.step w = State.step ⟨.value t false, stack⟩ w := h.1 _
  cases hjs with
  | @plain w _ hw =>
    refine .single ?_
    have ho : goesOn .sum o = false := by
      cases o <;> simp_all [startTest, Operator.isCompare, goesOn, Tier.rank]
    have hadd : o.isAdditive = false := by
      cases o <;> simp_all [startTest, Operator.isCompare, Operator.isAdditive]
    rw [hvalue (stops_of_means hw ho), step_sum_of_means hsum hw ho hadd, afterSum_of_fits hfits,
      hw]
    cases o <;> simp_all [afterSubject, startTest, Operator.isCompare]
  | @negated no w _ hno hw =>
    have hfirst : s.step no = .ok ⟨.negatedTest t, stack⟩ := by
      rw [hvalue (stops_of_means hno rfl), step_sum_of_means hsum hno rfl rfl,
        afterSum_of_fits hfits, hno]
      rfl
    have hsecond : State.step ⟨.negatedTest t, stack⟩ w = .ok s' := by
      simp [State.step, hw, hstart]
    exact .cons hfirst (.single hsecond)

theorem Settles.step_is {s : State} (h : Settles .sum s t stack) (hfits : Fits .comparison stack)
    (hw : Means w .is) : s.step w = .ok ⟨.isTest t, stack⟩ := by
  have hvalue : s.step w = State.step ⟨.value t false, stack⟩ w := h.1 _ (stops_of_means hw rfl)
  rw [hvalue, step_sum_of_means (hfits.mono (by decide)) hw rfl rfl, afterSum_of_fits hfits, hw]
  rfl

end Steps

/-! ## Lists -/

section Items

variable {s : State} {t left : Tree} {negated afterComma : Bool} {earlier : List Tree}
  {stack : List Frame} {w : Text}

theorem Settles.step_item (h : Settles .sum s t (.item left negated earlier afterComma :: stack))
    (hw : Stops .sum w) (hadd : (Operator.ofSpelling? w).filter Operator.isAdditive = none) :
    s.step w = afterSum t (.item left negated earlier afterComma :: stack) w := by
  have hvalue : s.step w = _ := h.1 w hw
  rw [hvalue]
  exact step_sum (Nat.le_refl _) hw hadd t

theorem Settles.step_rightParen
    (h : Settles .sum s t (.item left negated earlier afterComma :: stack))
    (hw : Means w .rightParen) :
    s.step w =
      .ok ⟨.tested (negateIf negated (.op .among left (listChain (t :: earlier)))), stack⟩ := by
  rw [h.step_item (stops_of_means hw rfl) (by rw [hw]; rfl)]
  simp [afterSum, hw]

theorem Settles.step_comma (h : Settles .sum s t (.item left negated earlier afterComma :: stack))
    (hw : Means w .list) :
    s.step w = .ok ⟨.operand, .item left negated (t :: earlier) true :: stack⟩ := by
  rw [h.step_item (stops_of_means hw rfl) (by rw [hw]; rfl)]
  simp [afterSum, hw]

/-- A word that starts an operand but is no sign starts the next item. -/
theorem Settles.step_juxtaposed
    (h : Settles .sum s t (.item left negated earlier afterComma :: stack))
    (hw : startsOperand (Operator.ofSpelling? w) = true) (hsign : ¬ StartsSigned [w]) :
    s.step w =
      State.step ⟨.operand, .item left negated (t :: earlier) false :: stack⟩ w := by
  have hadd : Operator.ofSpelling? w ≠ some .add := fun h => hsign (.inl h)
  have hsub : Operator.ofSpelling? w ≠ some .sub := fun h => hsign (.inr h)
  have hstops : Stops .sum w := by
    intro o ho
    rw [ho] at hw hadd hsub
    cases o <;> simp_all [startsOperand, goesOn]
  rw [h.step_item hstops]
  · simp only [afterSum, State.step]
    cases hm : Operator.ofSpelling? w with
    | none => rfl
    | some o =>
      rw [hm] at hw
      cases o <;> simp_all [startsOperand]
  · cases hm : Operator.ofSpelling? w with
    | none => rfl
    | some o =>
      rw [hm] at hw hadd hsub
      cases o <;> simp_all [startsOperand, Operator.isAdditive]

end Items

/-! ## Phrases -/

/-- Reading the words of a phrase settles at its tree, inside any constructs it fits into.  After a
list of items a closing parenthesis makes the test of the list. -/
def Reaches : Tier → List Text → Tree → Prop
  | .items, ws, t => ∀ left negated earlier afterComma stack, ∃ s,
      Reads ⟨.operand, .item left negated earlier afterComma :: stack⟩ ws s ∧
        ∀ w, Means w .rightParen → s.step w =
          .ok ⟨.tested (negateIf negated (.op .among left (chainOnto t earlier))), stack⟩
  | .path, ws, t => ∀ stack, Reads ⟨.operand, stack⟩ ws ⟨.value t true, stack⟩
  | k, ws, t => ∀ stack, Fits k stack → ∃ s, Reads ⟨.operand, stack⟩ ws s ∧ Settles k s t stack

theorem settles_self (k : Tier) (t : Tree) (stack : List Frame) :
    Settles k ⟨finished k t, stack⟩ t stack :=
  ⟨fun _ _ => rfl, rfl⟩

theorem reaches_word {w : Text} (h : ∀ stack, startOperand w stack =
    .ok ⟨.value (.leaf w) false, stack⟩) : Reaches .operand [w] (.leaf w) :=
  fun stack _ => ⟨_, .single (h stack), settles_self .operand _ stack⟩

/-! ### One lemma a production -/

namespace Reaches

variable {ws ls rs js us : List Text} {w v n p q : Text} {t l r : Tree} {o : Operator}
  {negated : Bool}

theorem or (ihl : Reaches .disjunction ls l) (hw : Means w .or)
    (ihr : Reaches .conjunction rs r) : Reaches .disjunction (ls ++ w :: rs) (.op .or l r) := by
  intro stack hfits
  obtain ⟨s, hl, hs⟩ := ihl stack hfits
  obtain ⟨s', hr, hs'⟩ := ihr (.disjunct l :: stack) (Nat.le_refl _)
  have hstep := (hs.1 w (stops_of_means hw rfl)).trans (step_or hfits hw l)
  exact ⟨s', hl.append (.cons hstep hr), (hs'.mono (by decide)).trans (alike_disjunct hfits l r)⟩

theorem and (ihl : Reaches .conjunction ls l) (hw : Means w .and)
    (ihr : Reaches .negation rs r) : Reaches .conjunction (ls ++ w :: rs) (.op .and l r) := by
  intro stack hfits
  obtain ⟨s, hl, hs⟩ := ihl stack hfits
  obtain ⟨s', hr, hs'⟩ := ihr (.conjunct l :: stack) (Nat.le_refl _)
  have hstep := (hs.1 w (stops_of_means hw rfl)).trans (step_and hfits hw l)
  exact ⟨s', hl.append (.cons hstep hr), (hs'.mono (by decide)).trans (alike_conjunct hfits l r)⟩

theorem isNull (ih : Reaches .sum ws t) (hw : Means w .is) (hn : Means n .null) :
    Reaches .comparison (ws ++ [w, n]) (.op .is t (.leaf "null")) := by
  intro stack hfits
  obtain ⟨s, hreads, hs⟩ := ih stack (hfits.mono (by decide))
  have hnull : State.step ⟨.isTest t, stack⟩ n = .ok ⟨.tested (nullTest t), stack⟩ := by
    simp [State.step, hn]
  exact ⟨_, hreads.append (.cons (hs.step_is hfits hw) (.single hnull)),
    settles_self .comparison _ _⟩

theorem isNotNull (ih : Reaches .sum ws t) (hw : Means w .is) (hv : Means v .not)
    (hn : Means n .null) :
    Reaches .comparison (ws ++ [w, v, n]) (.op .not (.op .is t (.leaf "null")) .absent) := by
  intro stack hfits
  obtain ⟨s, hreads, hs⟩ := ih stack (hfits.mono (by decide))
  have hnot : State.step ⟨.isTest t, stack⟩ v = .ok ⟨.isNotTest t, stack⟩ := by
    simp [State.step, hv]
  have hnull : State.step ⟨.isNotTest t, stack⟩ n =
      .ok ⟨.tested (negateIf true (nullTest t)), stack⟩ := by
    simp [State.step, hn]
  exact ⟨_, hreads.append (.cons (hs.step_is hfits hw) (.cons hnot (.single hnull))),
    settles_self .comparison _ _⟩

theorem compare (ihl : Reaches .sum ls l) (hjs : Link js o negated) (ho : o.isCompare = true)
    (ihr : Reaches .sum rs r) :
    Reaches .comparison (ls ++ js ++ rs) (negateIf negated (.op o l r)) := by
  intro stack hfits
  obtain ⟨s, hl, hs⟩ := ihl stack (hfits.mono (by decide))
  obtain ⟨s', hr, hs'⟩ := ihr (.comparand o l negated :: stack) (Nat.le_refl _)
  have hstart : startTest l negated stack o =
      some ⟨.operand, .comparand o l negated :: stack⟩ := by
    cases o <;> simp_all [startTest, Operator.isCompare]
  exact ⟨s', (hl.append (hs.reads_link hfits hjs hstart)).append hr,
    (hs'.mono (by decide)).trans (alike_comparand o l r negated stack)⟩

theorem between {los his : List Text} {lo hi : Tree} (ihl : Reaches .sum ls l)
    (hjs : Link js .between negated) (ihlo : Reaches .sum los lo) (hw : Means w .and)
    (ihhi : Reaches .sum his hi) :
    Reaches .comparison (ls ++ js ++ los ++ w :: his)
      (negateIf negated (.op .between l (.op .and lo hi))) := by
  intro stack hfits
  obtain ⟨s, hl, hs⟩ := ihl stack (hfits.mono (by decide))
  obtain ⟨s₁, hlo, hs₁⟩ := ihlo (.lowBound l negated :: stack) (Nat.le_refl _)
  obtain ⟨s₂, hhi, hs₂⟩ := ihhi (.highBound l lo negated :: stack) (Nat.le_refl _)
  have hstep : s₁.step w = .ok ⟨.operand, .highBound l lo negated :: stack⟩ := by
    have hvalue : s₁.step w = _ := hs₁.1 w (stops_of_means hw rfl)
    rw [hvalue]
    refine (step_sum_of_means (Nat.le_refl _) hw rfl rfl lo).trans ?_
    simp [afterSum, hw]
  exact ⟨s₂, ((hl.append (hs.reads_link hfits hjs rfl)).append hlo).append (.cons hstep hhi),
    (hs₂.mono (by decide)).trans (alike_highBound l lo hi negated stack)⟩

theorem among {is : List Text} {items : Tree} (ihl : Reaches .sum ls l)
    (hjs : Link js .among negated) (hp : Means p .leftParen) (ihitems : Reaches .items is items)
    (hq : Means q .rightParen) :
    Reaches .comparison (ls ++ js ++ p :: is ++ [q]) (negateIf negated (.op .among l items)) := by
  intro stack hfits
  obtain ⟨s, hl, hs⟩ := ihl stack (hfits.mono (by decide))
  obtain ⟨s', hitems, hs'⟩ := ihitems l negated [] false stack
  refine ⟨⟨.tested (negateIf negated (.op .among l items)), stack⟩, ?_, settles_self _ _ _⟩
  have hopen : State.step ⟨.listOpening l negated, stack⟩ p =
      .ok ⟨.operand, .item l negated [] false :: stack⟩ := by
    simp [State.step, hp]
  have hlist := (hl.append (hs.reads_link hfits hjs rfl)).append (.cons hopen hitems)
  exact hlist.snoc (hs' q hq)

theorem add (ihl : Reaches .sum ls l) (hw : Means w o) (ho : o.isAdditive = true)
    (ihr : Reaches .product rs r) : Reaches .sum (ls ++ w :: rs) (.op o l r) := by
  intro stack hfits
  obtain ⟨s, hl, hs⟩ := ihl stack hfits
  obtain ⟨s', hr, hs'⟩ := ihr (.sum o l :: stack) (Nat.le_refl _)
  have hstops : Stops .sum w := stops_of_means hw (by
    cases o <;> simp_all [Operator.isAdditive, goesOn, Tier.rank])
  have hstep := (hs.1 w hstops).trans (step_additive hfits hw ho l)
  exact ⟨s', hl.append (.cons hstep hr), (hs'.mono (by decide)).trans (alike_sum hfits o l r)⟩

theorem mul (ihl : Reaches .product ls l) (hw : Means w o) (ho : o.isMultiplicative = true)
    (ihr : Reaches .signed rs r) : Reaches .product (ls ++ w :: rs) (.op o l r) := by
  intro stack hfits
  obtain ⟨s, hl, hs⟩ := ihl stack hfits
  obtain ⟨s', hr, hs'⟩ := ihr (.product o l :: stack) (Nat.le_refl _)
  have hstops : Stops .product w := stops_of_means hw (by
    cases o <;> simp_all [Operator.isMultiplicative, goesOn, Tier.rank])
  have hstep := (hs.1 w hstops).trans (step_multiplicative hfits hw ho l)
  exact ⟨s', hl.append (.cons hstep hr),
    (hs'.mono (by decide)).trans (alike_product hfits o l r)⟩

theorem sign (hstep : ∀ stack, State.step ⟨.operand, stack⟩ w = .ok ⟨.operand, .sign o :: stack⟩)
    (ih : Reaches .signed ws t) : Reaches .signed (w :: ws) (.op o t .absent) := by
  intro stack _
  obtain ⟨s, hreads, hs⟩ := ih (.sign o :: stack) (Nat.le_refl _)
  exact ⟨s, .cons (hstep stack) hreads, hs.trans (alike_sign o t stack)⟩

theorem exp (ihl : Reaches .operand ls l) (hw : Means w .exp) (ihr : Reaches .signed rs r) :
    Reaches .power (ls ++ w :: rs) (.op .exp l r) := by
  intro stack _
  obtain ⟨s, hl, hs⟩ := ihl stack ((fits_signed stack).mono (by decide))
  obtain ⟨s', hr, hs'⟩ := ihr (.power l :: stack) (Nat.le_refl _)
  have hstep : s.step w = .ok ⟨.operand, .power l :: stack⟩ := by
    have hvalue : s.step w = _ := hs.1 w (stops_of_means hw rfl)
    rw [hvalue]
    simp [State.step, finished, Tier.rank, afterValue, hw]
  exact ⟨s', hl.append (.cons hstep hr), (Alike.power hs').trans (alike_power l r stack)⟩

theorem group (hp : Means p .leftParen) (ih : Reaches .disjunction ws t)
    (hq : Means q .rightParen) : Reaches .operand (p :: ws ++ [q]) t := by
  intro stack _
  obtain ⟨s, hreads, hs⟩ := ih (.group :: stack) (Nat.le_refl _)
  have hopen : State.step ⟨.operand, stack⟩ p = .ok ⟨.operand, .group :: stack⟩ := by
    simp [State.step, startOperand, hp]
  have hclose := (hs.1 q (stops_of_means hq rfl)).trans (step_rightParen hq t stack)
  exact ⟨_, (Reads.cons hopen hreads).snoc hclose, settles_self .operand t stack⟩

theorem member (ih : Reaches .path ws t) (hw : Means w .member) (hv : NameWord v) :
    Reaches .path (ws ++ [w, v]) (.op .member (pathBase t) (.leaf (unquote v))) := by
  intro stack
  have hdot : State.step ⟨.value t true, stack⟩ w = .ok ⟨.memberName (pathBase t), stack⟩ := by
    simp [State.step, afterValue, hw]
  refine (ih stack).append (.cons hdot (.single ?_))
  by_cases hquoted : isQuoted v = true
  · simp [State.step, hquoted]
  · simp [State.step, hquoted, hv.1, hv.2, unquote]

theorem subscript {is : List Text} {i : Tree} (ih : Reaches .path ws t)
    (hp : Means p .subscript) (ihi : Reaches .sum is i) (hq : Means q .rightBracket) :
    Reaches .path (ws ++ p :: is ++ [q]) (.op .subscript (pathBase t) i) := by
  intro stack
  obtain ⟨s, hi, hs⟩ := ihi (.index (pathBase t) :: stack) (Nat.le_refl _)
  have hopen : State.step ⟨.value t true, stack⟩ p =
      .ok ⟨.operand, .index (pathBase t) :: stack⟩ := by
    simp [State.step, afterValue, hp]
  have hclose : s.step q = .ok ⟨.value (.op .subscript (pathBase t) i) true, stack⟩ := by
    have hvalue : s.step q = _ := hs.1 q (stops_of_means hq rfl)
    rw [hvalue]
    refine (step_sum_of_means (Nat.le_refl _) hq rfl rfl i).trans ?_
    simp [afterSum, hq]
  exact ((ih stack).append (.cons hopen hi)).snoc hclose

theorem last (ih : Reaches .sum ws t) : Reaches .items ws (.op .list t .absent) := by
  intro left negated earlier afterComma stack
  obtain ⟨s, hreads, hs⟩ := ih (.item left negated earlier afterComma :: stack) (Nat.le_refl _)
  exact ⟨s, hreads, fun w hw => hs.step_rightParen hw⟩

theorem comma {rest : Tree} (ih : Reaches .sum ws t) (hw : Means w .list)
    (ihrest : Reaches .items us rest) : Reaches .items (ws ++ w :: us) (.op .list t rest) := by
  intro left negated earlier afterComma stack
  obtain ⟨s, hreads, hs⟩ := ih (.item left negated earlier afterComma :: stack) (Nat.le_refl _)
  obtain ⟨s', hrest, hs'⟩ := ihrest left negated (t :: earlier) true stack
  exact ⟨s', hreads.append (.cons (hs.step_comma hw) hrest), hs'⟩

theorem juxtaposed {rest : Tree} (ih : Reaches .sum ws t) (ihrest : Reaches .items (w :: us) rest)
    (hw : startsOperand (Operator.ofSpelling? w) = true) (hsign : ¬ StartsSigned [w]) :
    Reaches .items (ws ++ w :: us) (.op .list t rest) := by
  intro left negated earlier afterComma stack
  obtain ⟨s, hreads, hs⟩ := ih (.item left negated earlier afterComma :: stack) (Nat.le_refl _)
  obtain ⟨s', hus, hs'⟩ := ihrest left negated (t :: earlier) false stack
  -- The first word of the next item is read by the state that still holds this one.
  cases hus with
  | cons hstep hus =>
    have hstep' := (hs.step_juxtaposed hw hsign).trans hstep
    exact ⟨s', hreads.append (.cons hstep' hus), hs'⟩

end Reaches

/-- The reader takes every phrase. -/
theorem reaches_of_derives {k : Tier} {ws : List Text} {t : Tree} (h : Derives k ws t) :
    Reaches k ws t := by
  induction h with
  | conjunction _ ih | negation _ ih | comparison _ ih | product _ ih | signed _ ih | power _ ih
  | operand _ ih =>
    -- A looser tier keeps the state and only asks less of it.
    intro stack hfits
    obtain ⟨s, hreads, hs⟩ := ih stack (hfits.mono (by decide))
    exact ⟨s, hreads, hs.mono (by decide)⟩
  | or _ hw _ ihl ihr => exact ihl.or hw ihr
  | and _ hw _ ihl ihr => exact ihl.and hw ihr
  | @not w _ t hw _ ih =>
    intro stack hfits
    obtain ⟨s, hreads, hs⟩ := ih (.negation :: stack) (Nat.le_refl _)
    exact ⟨s, .cons (step_not hfits hw) hreads, hs.trans (alike_negation t stack)⟩
  | @sum _ t _ ih =>
    intro stack hfits
    obtain ⟨s, hreads, hs⟩ := ih stack (hfits.mono (by decide))
    exact ⟨s, hreads, (hs.mono (by decide)).trans (alike_tested hfits t)⟩
  | isNull _ hw hn ih => exact ih.isNull hw hn
  | isNotNull _ hw hv hn ih => exact ih.isNotNull hw hv hn
  | compare _ hjs ho _ ihl ihr => exact ihl.compare hjs ho ihr
  | between _ hjs _ hw _ ihl ihlo ihhi => exact ihl.between hjs ihlo hw ihhi
  | among _ hjs hp _ hq ihl ihitems => exact ihl.among hjs hp ihitems hq
  | add _ hw ho _ ihl ihr => exact ihl.add hw ho ihr
  | mul _ hw ho _ ihl ihr => exact ihl.mul hw ho ihr
  | pos hw _ ih => exact Reaches.sign (fun _ => by simp [State.step, startOperand, hw]) ih
  | neg hw _ ih => exact Reaches.sign (fun _ => by simp [State.step, startOperand, hw]) ih
  | exp _ hw _ ihl ihr => exact ihl.exp hw ihr
  | group hp _ hq ih => exact Reaches.group hp ih hq
  | @path _ t _ ih =>
    intro stack _
    exact ⟨_, ih stack, alike_path t true stack⟩
  | number hw => exact reaches_word fun stack => by simp [startOperand, hw.1, hw.2]
  | null hw => exact reaches_word fun stack => by simp [startOperand, hw]
  | name hw =>
    intro stack
    exact .single (by simp [State.step, startOperand, hw.1, hw.2])
  | member _ hd hv ih => exact ih.member hd hv
  | subscript _ hp _ hq ih ihi => exact ih.subscript hp ihi hq
  | last _ ih => exact ih.last
  | comma _ hc _ ih ihrest => exact ih.comma hc ihrest
  | juxtaposed _ hrest hsign ih ihrest =>
    obtain ⟨w, us, rfl, hw⟩ := hrest.startsOperand (by decide)
    exact ih.juxtaposed ihrest hw hsign

theorem run_of_derives {ws : List Text} {t : Tree} (h : Derives .disjunction ws t)
    (i : Nat) : State.start.run i ws = .ok t := by
  obtain ⟨s, hreads, hs⟩ := reaches_of_derives h [] (Nat.le_refl _)
  exact run_eq_ok_iff.2 ⟨s, hreads, hs.2⟩

end Parsing

end TagFilter
