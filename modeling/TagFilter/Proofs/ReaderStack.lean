import TagFilter.Proofs.Grammar

/-!
# The stack of the reader

Each construct on the stack of the reader waits for a phrase of some tier (`Frame.tier`).  A phrase
of a tier fits into the constructs when the innermost one waits for that tier or a looser one
(`Fits`); then the closing functions of the tiers above leave the stack alone (`closeFactor_eq`, …).

`Reads s words s'` says that the reader takes the words one after the other and goes from `s` to
`s'`.  Both outcomes of `State.run` are told by it (`run_eq_ok_iff`, `run_eq_error_iff`).
-/

namespace TagFilter

namespace Parsing

open Grammar

/-- The tier of the phrase that a construct waits for. -/
def Frame.tier : Frame → Tier
  | .group => .disjunction
  | .disjunct _ => .conjunction
  | .conjunct _ => .negation
  | .negation => .negation
  | .comparand _ _ _ => .sum
  | .lowBound _ _ => .sum
  | .highBound _ _ _ => .sum
  | .item _ _ _ _ => .sum
  | .index _ => .sum
  | .sum _ _ => .product
  | .product _ _ => .signed
  | .sign _ => .signed
  | .power _ => .signed

/-- The tier of the phrase that the innermost construct waits for. -/
def awaited : List Frame → Tier
  | [] => .disjunction
  | frame :: _ => frame.tier

/-- A phrase of a tier may stand inside the constructs. -/
def Fits (k : Tier) (stack : List Frame) : Prop := (awaited stack).rank ≤ k.rank

theorem Fits.mono {i j : Tier} {stack : List Frame} (h : Fits i stack) (hij : i.rank ≤ j.rank) :
    Fits j stack :=
  Nat.le_trans h hij

@[simp]
theorem fits_cons {k : Tier} {frame : Frame} {stack : List Frame} :
    Fits k (frame :: stack) ↔ frame.tier.rank ≤ k.rank :=
  Iff.rfl

/-- An operand may stand inside all constructs. -/
theorem fits_signed (stack : List Frame) : Fits .signed stack := by
  cases stack with
  | nil => exact Nat.zero_le _
  | cons frame => cases frame <;> simp [Frame.tier, Tier.rank]

/-! ## Closing functions

Each of them takes the constructs of its tier off the stack and leaves a stack alone that a phrase
of its tier fits into. -/

section Closing

variable {stack : List Frame} (t l : Tree) (o : Operator)

@[simp]
theorem closeFactor_sign :
    closeFactor t (.sign o :: stack) = closeFactor (.op o t .absent) stack := rfl

@[simp]
theorem closeFactor_power :
    closeFactor t (.power l :: stack) = closeFactor (.op .exp l t) stack := rfl

@[simp]
theorem closeFactor_product :
    closeFactor t (.product o l :: stack) = (t, .product o l :: stack) := rfl

@[simp]
theorem closeFactor_sum : closeFactor t (.sum o l :: stack) = (t, .sum o l :: stack) := rfl

@[simp]
theorem closeProduct_product :
    closeProduct t (.product o l :: stack) = (.op o l t, stack) := rfl

@[simp]
theorem closeProduct_sum : closeProduct t (.sum o l :: stack) = (t, .sum o l :: stack) := rfl

@[simp]
theorem closeSum_sum : closeSum t (.sum o l :: stack) = (.op o l t, stack) := rfl

@[simp]
theorem closeNegation_negation :
    closeNegation t (.negation :: stack) = closeNegation (.op .not t .absent) stack := rfl

@[simp]
theorem closeNegation_conjunct :
    closeNegation t (.conjunct l :: stack) = (t, .conjunct l :: stack) := rfl

@[simp]
theorem closeConjunct_conjunct :
    closeConjunct t (.conjunct l :: stack) = (.op .and l t, stack) := rfl

@[simp]
theorem closeDisjunct_disjunct :
    closeDisjunct t (.disjunct l :: stack) = (.op .or l t, stack) := rfl

theorem closeFactor_eq (h : Fits .product stack) : closeFactor t stack = (t, stack) := by
  rcases stack with _ | ⟨_ | _, _⟩ <;> simp_all [Frame.tier, Tier.rank, closeFactor]

theorem closeProduct_eq (h : Fits .product stack) : closeProduct t stack = (t, stack) := by
  rcases stack with _ | ⟨_ | _, _⟩ <;> simp_all [Frame.tier, Tier.rank, closeProduct]

theorem closeSum_eq (h : Fits .sum stack) : closeSum t stack = (t, stack) := by
  rcases stack with _ | ⟨_ | _, _⟩ <;> simp_all [Frame.tier, Tier.rank, closeSum]

theorem closeNegation_eq (h : Fits .conjunction stack) : closeNegation t stack = (t, stack) := by
  rcases stack with _ | ⟨_ | _, _⟩ <;> simp_all [Frame.tier, Tier.rank, closeNegation]

theorem closeConjunct_eq (h : Fits .conjunction stack) : closeConjunct t stack = (t, stack) := by
  rcases stack with _ | ⟨_ | _, _⟩ <;> simp_all [Frame.tier, Tier.rank, closeConjunct]

theorem closeDisjunct_eq (h : Fits .disjunction stack) : closeDisjunct t stack = (t, stack) := by
  rcases stack with _ | ⟨_ | _, _⟩ <;> simp_all [Frame.tier, Tier.rank, closeDisjunct]

end Closing

/-! ## Lists -/

/-- The chain of list cells that goes on with a chain. -/
def chainOnto (chain : Tree) (earlier : List Tree) : Tree :=
  earlier.foldl (fun chain item => .op .list item chain) chain

theorem chainOnto_cons (chain t : Tree) (earlier : List Tree) :
    chainOnto chain (t :: earlier) = chainOnto (.op .list t chain) earlier := rfl

/-! ## Runs -/

/-- Reading the words leads from one state to another. -/
inductive Reads : State → List Text → State → Prop
  | nil (s) : Reads s [] s
  | cons {s w s₁ ws s₂} : s.step w = .ok s₁ → Reads s₁ ws s₂ → Reads s (w :: ws) s₂

theorem Reads.single {s s' : State} {w : Text} (h : s.step w = .ok s') : Reads s [w] s' :=
  .cons h (.nil s')

theorem Reads.append {s s₁ s₂ : State} {us vs : List Text} (h : Reads s us s₁)
    (h' : Reads s₁ vs s₂) : Reads s (us ++ vs) s₂ := by
  induction h with
  | nil => exact h'
  | cons hstep _ ih => exact .cons hstep (ih h')

theorem Reads.snoc {s s₁ s₂ : State} {ws : List Text} {w : Text} (h : Reads s ws s₁)
    (hstep : s₁.step w = .ok s₂) : Reads s (ws ++ [w]) s₂ :=
  h.append (.single hstep)

/-- A run goes on from the state that its first words lead to. -/
theorem Reads.run_append {s s' : State} {us : List Text} (h : Reads s us s') (vs : List Text)
    (i : Nat) : s.run i (us ++ vs) = s'.run (i + us.length) vs := by
  induction h generalizing i with
  | nil => rfl
  | cons hstep _ ih =>
    simp only [List.cons_append, State.run, hstep, ih, List.length_cons]
    congr 1
    omega

/-- Either all words can be read or there is a first one that cannot. -/
theorem reads_or_stops (s : State) (ws : List Text) :
    (∃ s', Reads s ws s') ∨
      ∃ us w vs s' cause, ws = us ++ w :: vs ∧ Reads s us s' ∧ s'.step w = .error cause := by
  induction ws generalizing s with
  | nil => exact .inl ⟨s, .nil s⟩
  | cons w ws ih =>
    cases hstep : s.step w with
    | error cause => exact .inr ⟨[], w, ws, s, cause, rfl, .nil s, hstep⟩
    | ok s₁ =>
      obtain ⟨s', h⟩ | ⟨us, v, vs, s', cause, rfl, h, hv⟩ := ih s₁
      · exact .inl ⟨s', .cons hstep h⟩
      · exact .inr ⟨w :: us, v, vs, s', cause, rfl, .cons hstep h, hv⟩

theorem run_of_finish {s s' : State} {ws : List Text} (h : Reads s ws s') (i : Nat) :
    s.run i ws = s'.finish.mapError fun cause => ⟨i + ws.length, none, cause⟩ := by
  simpa [State.run] using h.run_append [] i

theorem run_of_stop {s s' : State} {us vs : List Text} {w : Text} {cause : SyntaxCause}
    (h : Reads s us s') (hw : s'.step w = .error cause) (i : Nat) :
    s.run i (us ++ w :: vs) = .error ⟨i + us.length, some w, cause⟩ := by
  rw [h.run_append]
  simp [State.run, hw]

theorem run_eq_ok_iff {s : State} {i : Nat} {ws : List Text} {t : Tree} :
    s.run i ws = .ok t ↔ ∃ s', Reads s ws s' ∧ s'.finish = .ok t := by
  constructor
  · intro h
    obtain ⟨s', hs⟩ | ⟨us, w, vs, s', cause, rfl, hs, hw⟩ := reads_or_stops s ws
    · rw [run_of_finish hs] at h
      cases hfinish : s'.finish with
      | error cause => rw [hfinish] at h; cases h
      | ok u => rw [hfinish] at h; cases h; exact ⟨s', hs, hfinish⟩
    · rw [run_of_stop hs hw] at h
      cases h
  · rintro ⟨s', hs, hfinish⟩
    rw [run_of_finish hs, hfinish]
    rfl

theorem run_eq_error_iff {s : State} {i : Nat} {ws : List Text} {e : SyntaxError} :
    s.run i ws = .error e ↔
      (∃ us w vs s' cause, ws = us ++ w :: vs ∧ Reads s us s' ∧ s'.step w = .error cause ∧
        e = ⟨i + us.length, some w, cause⟩) ∨
      ∃ s' cause, Reads s ws s' ∧ s'.finish = .error cause ∧
        e = ⟨i + ws.length, none, cause⟩ := by
  constructor
  · intro h
    obtain ⟨s', hs⟩ | ⟨us, w, vs, s', cause, rfl, hs, hw⟩ := reads_or_stops s ws
    · rw [run_of_finish hs] at h
      cases hfinish : s'.finish with
      | error cause => rw [hfinish] at h; cases h; exact .inr ⟨s', cause, hs, hfinish, rfl⟩
      | ok u => rw [hfinish] at h; cases h
    · rw [run_of_stop hs hw] at h
      cases h
      exact .inl ⟨us, w, vs, s', cause, rfl, hs, hw, rfl⟩
  · rintro (⟨us, w, vs, s', cause, rfl, hs, hw, rfl⟩ | ⟨s', cause, hs, hfinish, rfl⟩)
    · exact run_of_stop hs hw i
    · rw [run_of_finish hs, hfinish]
      rfl

end Parsing

end TagFilter
