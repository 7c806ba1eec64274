import TagFilter.Proofs.ReaderStack

/-!
# What the reader has read

`Leaves stack words` says that reading the words leaves the constructs of `stack` open: the words
fall into the phrases that the constructs hold and the words between them.  `Holds s words` adds
what the reader waits for, and is the invariant of the reader: it holds at the start
(`holds_start`), and every step keeps it (`Holds.step`), so at the end of the words an accepted tree
is the tree of a phrase (`Holds.finish`).

An item of a list that follows another one without a comma must not start with a sign; `Admits`
keeps that for the phrase that is being read.
-/

namespace TagFilter

namespace Parsing

open Grammar

/-! ## Items of a list -/

/-- An item may start with these words after the earlier ones: without a comma in front it must not
start with a sign. -/
def Opens (earlier : List Tree) (afterComma : Bool) (ws : List Text) : Prop :=
  earlier = [] ∨ afterComma = true ∨ ¬ StartsSigned ws

/-- The words of the earlier items of a list, the last item first, with the commas between them. -/
inductive ItemsRead : List Tree → Bool → List Text → Prop
  | nil : ItemsRead [] false []
  | comma {earlier afterComma us vs c t} : ItemsRead earlier afterComma us →
      Opens earlier afterComma vs → Derives .sum vs t → Means c .list →
      ItemsRead (t :: earlier) true (us ++ vs ++ [c])
  | juxtaposed {earlier afterComma us vs t} : ItemsRead earlier afterComma us →
      Opens earlier afterComma vs → Derives .sum vs t → ItemsRead (t :: earlier) false (us ++ vs)

theorem startsSigned_append {us : List Text} (h : us ≠ []) (vs : List Text) :
    StartsSigned (us ++ vs) ↔ StartsSigned us := by
  cases us with
  | nil => exact absurd rfl h
  | cons => rfl

theorem Opens.append {earlier : List Tree} {afterComma : Bool} {us : List Text}
    (h : Opens earlier afterComma us) (hne : us ≠ []) (vs : List Text) :
    Opens earlier afterComma (us ++ vs) := by
  rwa [Opens, startsSigned_append hne]

/-- The earlier items and the later ones make up the whole list. -/
theorem ItemsRead.derives {earlier : List Tree} {afterComma : Bool} {us vs : List Text}
    {chain : Tree} (h : ItemsRead earlier afterComma us) (hopens : Opens earlier afterComma vs)
    (hvs : Derives .items vs chain) : Derives .items (us ++ vs) (chainOnto chain earlier) := by
  induction h generalizing vs chain with
  | nil => exact hvs
  | @comma _ _ us' vs' c t _ hopens' hvs' hc ih =>
    have := ih (hopens'.append hvs'.ne_nil (c :: vs)) (.comma hvs' hc hvs)
    simpa [chainOnto_cons] using this
  | @juxtaposed _ _ us' vs' t _ hopens' hvs' ih =>
    have hsign : ¬ StartsSigned vs := by simpa [Opens] using hopens
    have := ih (hopens'.append hvs'.ne_nil vs) (.juxtaposed hvs' hvs hsign)
    simpa [chainOnto_cons] using this

/-! ## Constructs left open -/

/-- A phrase that is put into the constructs may start with these words. -/
def Admits : List Frame → List Text → Prop
  | .item _ _ earlier afterComma :: _, ws => Opens earlier afterComma ws
  | _, _ => True

/-- Reading the words leaves the constructs open. -/
inductive Leaves : List Frame → List Text → Prop
  | start : Leaves [] []
  | group {stack us p} : Leaves stack us → Admits stack [p] → Means p .leftParen →
      Leaves (.group :: stack) (us ++ [p])
  | disjunct {stack us ls w l} : Leaves stack us → Fits .disjunction stack →
      Derives .disjunction ls l → Means w .or → Leaves (.disjunct l :: stack) (us ++ ls ++ [w])
  | conjunct {stack us ls w l} : Leaves stack us → Fits .conjunction stack →
      Derives .conjunction ls l → Means w .and → Leaves (.conjunct l :: stack) (us ++ ls ++ [w])
  | negation {stack us w} : Leaves stack us → Fits .negation stack → Means w .not →
      Leaves (.negation :: stack) (us ++ [w])
  | comparand {stack us ls js o l negated} : Leaves stack us → Fits .comparison stack →
      Derives .sum ls l → Link js o negated → o.isCompare = true →
      Leaves (.comparand o l negated :: stack) (us ++ ls ++ js)
  | lowBound {stack us ls js l negated} : Leaves stack us → Fits .comparison stack →
      Derives .sum ls l → Link js .between negated →
      Leaves (.lowBound l negated :: stack) (us ++ ls ++ js)
  | highBound {stack us ls js los w l lo negated} : Leaves stack us → Fits .comparison stack →
      Derives .sum ls l → Link js .between negated → Derives .sum los lo → Means w .and →
      Leaves (.highBound l lo negated :: stack) (us ++ ls ++ js ++ los ++ [w])
  | item {stack us ls js p is l negated earlier afterComma} : Leaves stack us →
      Fits .comparison stack → Derives .sum ls l → Link js .among negated →
      Means p .leftParen → ItemsRead earlier afterComma is →
      Leaves (.item l negated earlier afterComma :: stack) (us ++ ls ++ js ++ p :: is)
  | index {stack us bs p base} : Leaves stack us → Admits stack bs → Derives .path bs base →
      Means p .subscript → Leaves (.index (pathBase base) :: stack) (us ++ bs ++ [p])
  | sum {stack us ls w o l} : Leaves stack us → Fits .sum stack → Admits stack ls →
      Derives .sum ls l → Means w o → o.isAdditive = true →
      Leaves (.sum o l :: stack) (us ++ ls ++ [w])
  | product {stack us ls w o l} : Leaves stack us → Fits .product stack → Admits stack ls →
      Derives .product ls l → Means w o → o.isMultiplicative = true →
      Leaves (.product o l :: stack) (us ++ ls ++ [w])
  | pos {stack us w} : Leaves stack us → Admits stack [w] → Means w .add →
      Leaves (.sign .pos :: stack) (us ++ [w])
  | neg {stack us w} : Leaves stack us → Admits stack [w] → Means w .sub →
      Leaves (.sign .neg :: stack) (us ++ [w])
  | power {stack us bs w base} : Leaves stack us → Admits stack bs → Derives .operand bs base →
      Means w .exp → Leaves (.power base :: stack) (us ++ bs ++ [w])

/-- The words end with a phrase of a tier inside constructs left open. -/
def Ends (k : Tier) (t : Tree) (stack : List Frame) (ws : List Text) : Prop :=
  ∃ us vs, ws = us ++ vs ∧ Leaves stack us ∧ Admits stack vs ∧ Derives k vs t

theorem admits_of_fits {stack : List Frame} (h : Fits .comparison stack) (ws : List Text) :
    Admits stack ws := by
  rcases stack with _ | ⟨_ | _, _⟩ <;> simp_all [Frame.tier, Tier.rank, Admits]

theorem Admits.append {stack : List Frame} {us : List Text} (h : Admits stack us) (hne : us ≠ [])
    (vs : List Text) : Admits stack (us ++ vs) := by
  rcases stack with _ | ⟨_ | _, _⟩ <;> simp_all [Admits, Opens.append]

theorem Ends.map {i j : Tier} {t : Tree} {stack : List Frame} {ws : List Text}
    (h : Ends i t stack ws) (hij : ∀ vs, Derives i vs t → Derives j vs t) : Ends j t stack ws := by
  obtain ⟨us, vs, rfl, hleaves, hadmits, hvs⟩ := h
  exact ⟨us, vs, rfl, hleaves, hadmits, hij vs hvs⟩

/-! ## Closing constructs -/

section Closing

variable {t : Tree} {stack : List Frame} {ws : List Text}

theorem Ends.sign {o : Operator} (h : Ends .signed t (.sign o :: stack) ws) :
    Ends .signed (.op o t .absent) stack ws := by
  obtain ⟨us, vs, rfl, hleaves, -, hvs⟩ := h
  cases hleaves with
  | @pos _ us w hleaves hadmits hw =>
    exact ⟨us, w :: vs, by simp, hleaves, hadmits.append (by simp) vs, .pos hw hvs⟩
  | @neg _ us w hleaves hadmits hw =>
    exact ⟨us, w :: vs, by simp, hleaves, hadmits.append (by simp) vs, .neg hw hvs⟩

theorem Ends.power {base : Tree} (h : Ends .signed t (.power base :: stack) ws) :
    Ends .signed (.op .exp base t) stack ws := by
  obtain ⟨us, vs, rfl, hleaves, -, hvs⟩ := h
  cases hleaves with
  | @power _ us bs w _ hleaves hadmits hbs hw =>
    exact ⟨us, bs ++ w :: vs, by simp, hleaves, hadmits.append hbs.ne_nil _,
      .power (.exp hbs hw hvs)⟩

theorem Ends.product {o : Operator} {l : Tree} (h : Ends .signed t (.product o l :: stack) ws) :
    Ends .product (.op o l t) stack ws ∧ Fits .product stack := by
  obtain ⟨us, vs, rfl, hleaves, -, hvs⟩ := h
  cases hleaves with
  | @product _ us ls w _ _ hleaves hfits hadmits hls hw ho =>
    exact ⟨⟨us, ls ++ w :: vs, by simp, hleaves, hadmits.append hls.ne_nil _,
      .mul hls hw ho hvs⟩, hfits⟩

theorem Ends.sum {o : Operator} {l : Tree} (h : Ends .product t (.sum o l :: stack) ws) :
    Ends .sum (.op o l t) stack ws ∧ Fits .sum stack := by
  obtain ⟨us, vs, rfl, hleaves, -, hvs⟩ := h
  cases hleaves with
  | @sum _ us ls w _ _ hleaves hfits hadmits hls hw ho =>
    exact ⟨⟨us, ls ++ w :: vs, by simp, hleaves, hadmits.append hls.ne_nil _,
      .add hls hw ho hvs⟩, hfits⟩

theorem Ends.negation (h : Ends .negation t (.negation :: stack) ws) :
    Ends .negation (.op .not t .absent) stack ws ∧ Fits .negation stack := by
  obtain ⟨us, vs, rfl, hleaves, -, hvs⟩ := h
  cases hleaves with
  | @negation _ us w hleaves hfits hw =>
    exact ⟨⟨us, w :: vs, by simp, hleaves, admits_of_fits (hfits.mono (by decide)) _,
      .not hw hvs⟩, hfits⟩

theorem Ends.conjunct {l : Tree} (h : Ends .negation t (.conjunct l :: stack) ws) :
    Ends .conjunction (.op .and l t) stack ws ∧ Fits .conjunction stack := by
  obtain ⟨us, vs, rfl, hleaves, -, hvs⟩ := h
  cases hleaves with
  | @conjunct _ us ls w _ hleaves hfits hls hw =>
    exact ⟨⟨us, ls ++ w :: vs, by simp, hleaves, admits_of_fits (hfits.mono (by decide)) _,
      .and hls hw hvs⟩, hfits⟩

theorem Ends.disjunct {l : Tree} (h : Ends .conjunction t (.disjunct l :: stack) ws) :
    Ends .disjunction (.op .or l t) stack ws ∧ Fits .disjunction stack := by
  obtain ⟨us, vs, rfl, hleaves, -, hvs⟩ := h
  cases hleaves with
  | @disjunct _ us ls w _ hleaves hfits hls hw =>
    exact ⟨⟨us, ls ++ w :: vs, by simp, hleaves, admits_of_fits (hfits.mono (by decide)) _,
      .or hls hw hvs⟩, hfits⟩

theorem Ends.comparand {o : Operator} {l : Tree} {negated : Bool}
    (h : Ends .sum t (.comparand o l negated :: stack) ws) :
    Ends .comparison (negateIf negated (.op o l t)) stack ws ∧ Fits .comparison stack := by
  obtain ⟨us, vs, rfl, hleaves, -, hvs⟩ := h
  cases hleaves with
  | @comparand _ us ls js _ _ _ hleaves hfits hls hjs ho =>
    exact ⟨⟨us, ls ++ js ++ vs, by simp, hleaves, admits_of_fits hfits _,
      .compare hls hjs ho hvs⟩, hfits⟩

theorem Ends.highBound {l lo : Tree} {negated : Bool}
    (h : Ends .sum t (.highBound l lo negated :: stack) ws) :
    Ends .comparison (negateIf negated (.op .between l (.op .and lo t))) stack ws ∧
      Fits .comparison stack := by
  obtain ⟨us, vs, rfl, hleaves, -, hvs⟩ := h
  cases hleaves with
  | @highBound _ us ls js los a _ _ _ hleaves hfits hls hjs hlos ha =>
    exact ⟨⟨us, ls ++ js ++ los ++ a :: vs, by simp, hleaves, admits_of_fits hfits _,
      .between hls hjs hlos ha hvs⟩, hfits⟩

/-- Closing the signs, powers and the product around an operand ends with a product. -/
theorem Ends.closeProduct (h : Ends .signed t stack ws) :
    Ends .product (Parsing.closeProduct (closeFactor t stack).1 (closeFactor t stack).2).1
      (Parsing.closeProduct (closeFactor t stack).1 (closeFactor t stack).2).2 ws ∧
    Fits .product (Parsing.closeProduct (closeFactor t stack).1 (closeFactor t stack).2).2 := by
  fun_induction closeFactor t stack with
  | case1 t o stack ih => exact ih h.sign
  | case2 t base stack ih => exact ih h.power
  | case3 t stack hsign hpower =>
    rcases stack with _ | ⟨frame, stack⟩
    · exact ⟨h.map fun _ => .signed, Nat.zero_le _⟩
    · cases frame with
      | product => exact h.product
      | sign o => exact absurd rfl (hsign o stack)
      | power base => exact absurd rfl (hpower base stack)
      | _ => exact ⟨h.map fun _ => .signed, by simp [Parsing.closeProduct, Frame.tier, Tier.rank]⟩

theorem Ends.closeSum (h : Ends .product t stack ws) (hfits : Fits .product stack) :
    Ends .sum (Parsing.closeSum t stack).1 (Parsing.closeSum t stack).2 ws ∧
      Fits .sum (Parsing.closeSum t stack).2 := by
  rcases stack with _ | ⟨frame, stack⟩
  · exact ⟨h.map fun _ => .product, Nat.zero_le _⟩
  · cases frame with
    | sum => exact h.sum
    | product | sign | power => simp [Frame.tier, Tier.rank] at hfits
    | _ => exact ⟨h.map fun _ => .product, by simp [Parsing.closeSum, Frame.tier, Tier.rank]⟩

/-- Closing the negations and the conjunction around a test ends with a conjunction. -/
theorem Ends.closeConjunct (h : Ends .negation t stack ws) (hfits : Fits .comparison stack) :
    Ends .conjunction (Parsing.closeConjunct (closeNegation t stack).1 (closeNegation t stack).2).1
      (Parsing.closeConjunct (closeNegation t stack).1 (closeNegation t stack).2).2 ws ∧
    Fits .conjunction
      (Parsing.closeConjunct (closeNegation t stack).1 (closeNegation t stack).2).2 := by
  fun_induction closeNegation t stack with
  | case1 t stack ih => exact ih h.negation.1 (h.negation.2.mono (by decide))
  | case2 t stack hnegation =>
    rcases stack with _ | ⟨frame, stack⟩
    · exact ⟨h.map fun _ => .negation, Nat.zero_le _⟩
    · cases frame with
      | conjunct => exact h.conjunct
      | negation => exact absurd rfl (hnegation stack)
      | group | disjunct =>
        exact ⟨h.map fun _ => .negation, by simp [Parsing.closeConjunct, Frame.tier, Tier.rank]⟩
      | _ => simp [Frame.tier, Tier.rank] at hfits

theorem Ends.closeDisjunct (h : Ends .conjunction t stack ws) (hfits : Fits .conjunction stack) :
    Ends .disjunction (Parsing.closeDisjunct t stack).1 (Parsing.closeDisjunct t stack).2 ws ∧
      Fits .disjunction (Parsing.closeDisjunct t stack).2 := by
  rcases stack with _ | ⟨frame, stack⟩
  · exact ⟨h.map fun _ => .conjunction, Nat.zero_le _⟩
  · cases frame with
    | disjunct => exact h.disjunct
    | group =>
      exact ⟨h.map fun _ => .conjunction, by simp [Parsing.closeDisjunct, Frame.tier, Tier.rank]⟩
    | _ => simp [Frame.tier, Tier.rank] at hfits

end Closing

/-! ## The invariant -/

/-- What the words are that have led to a state. -/
def Holds (s : State) (ws : List Text) : Prop :=
  match s.mode with
  | .operand => Leaves s.stack ws ∧ ∀ vs, Admits s.stack vs
  | .value t isPath => Ends (if isPath then .path else .operand) t s.stack ws
  | .tested t => Fits .comparison s.stack ∧ Ends .comparison t s.stack ws
  | .memberName base => ∃ t us d, base = pathBase t ∧ ws = us ++ [d] ∧ Ends .path t s.stack us ∧
      Means d .member
  | .isTest t => Fits .comparison s.stack ∧ ∃ us w, ws = us ++ [w] ∧ Ends .sum t s.stack us ∧
      Means w .is
  | .isNotTest t => Fits .comparison s.stack ∧ ∃ us w v, ws = us ++ [w, v] ∧
      Ends .sum t s.stack us ∧ Means w .is ∧ Means v .not
  | .negatedTest t => Fits .comparison s.stack ∧ ∃ us v, ws = us ++ [v] ∧
      Ends .sum t s.stack us ∧ Means v .not
  | .listOpening t negated => Fits .comparison s.stack ∧ ∃ us js, ws = us ++ js ∧
      Ends .sum t s.stack us ∧ Link js .among negated

theorem holds_start : Holds State.start [] := ⟨.start, fun _ => trivial⟩

section Steps

variable {t : Tree} {stack : List Frame} {ws : List Text} {w : Text} {s : State}

theorem holds_startOperand (hleaves : Leaves stack ws) (hadmits : Admits stack [w])
    (h : startOperand w stack = .ok s) : Holds s (ws ++ [w]) := by
  unfold startOperand at h
  split at h
  next hm =>
    cases h
    by_cases hname : isName w = true
    · exact ⟨ws, [w], rfl, hleaves, hadmits, by simpa [hname] using Derives.name ⟨hm, hname⟩⟩
    · exact ⟨ws, [w], rfl, hleaves, hadmits, by
        simpa [hname] using Derives.number ⟨hm, by simpa using hname⟩⟩
  next hm =>
    cases h
    exact ⟨ws, [w], rfl, hleaves, hadmits, .null hm⟩
  next hm =>
    cases h
    exact ⟨.group hleaves hadmits hm, fun _ => trivial⟩
  next hm =>
    cases h
    exact ⟨.pos hleaves hadmits hm, fun _ => trivial⟩
  next hm =>
    cases h
    exact ⟨.neg hleaves hadmits hm, fun _ => trivial⟩
  next hm =>
    split at h
    next hnot =>
      cases h
      have hfits : Fits .negation stack := by
        rcases stack with _ | ⟨_ | _, _⟩ <;>
          simp_all [Fits, awaited, Frame.tier, Tier.rank, takesNot]
      exact ⟨.negation hleaves hfits hm, fun _ => trivial⟩
    · cases h
  · cases h

theorem holds_afterTest (h : Ends .comparison t stack ws) (hfits : Fits .comparison stack)
    (hstep : afterTest t stack (Operator.ofSpelling? w) = .ok s) : Holds s (ws ++ [w]) := by
  obtain ⟨hconj, hfits⟩ := Ends.closeConjunct (h.map fun _ => .comparison) hfits
  unfold afterTest at hstep
  generalize closeNegation t stack = negated at hstep hconj hfits
  obtain ⟨t, stack⟩ := negated
  simp only at hstep hconj hfits
  generalize closeConjunct t stack = conj at hstep hconj hfits
  obtain ⟨t, stack⟩ := conj
  simp only at hstep hconj hfits
  split at hstep
  · cases hstep
  next hm =>
    cases hstep
    obtain ⟨us, vs, rfl, hleaves, -, hvs⟩ := hconj
    exact ⟨.conjunct hleaves hfits hvs hm, fun _ => trivial⟩
  next m _ hm =>
    obtain ⟨hdisj, hfits⟩ := hconj.closeDisjunct hfits
    generalize closeDisjunct t stack = disj at hstep hdisj hfits
    obtain ⟨t, stack⟩ := disj
    simp only at hstep hdisj hfits
    obtain ⟨us, vs, rfl, hleaves, hadmits, hvs⟩ := hdisj
    split at hstep
    next hor =>
      cases hstep
      subst hor
      exact ⟨.disjunct hleaves hfits hvs hm, fun _ => trivial⟩
    · split at hstep
      · split at hstep
        next hclose =>
          cases hstep
          subst hclose
          cases hleaves with
          | @group stack us p hleaves hadmits hp =>
            refine ⟨us, p :: vs ++ [w], by simp, hleaves, ?_, .group hp hvs hm⟩
            simpa using hadmits.append (by simp) (vs ++ [w])
        · cases hstep
      · cases hstep

theorem holds_startTest {us js : List Text} {o : Operator} {negated : Bool}
    (h : Ends .sum t stack us) (hfits : Fits .comparison stack) (hjs : Link js o negated)
    (hstart : startTest t negated stack o = some s) : Holds s (us ++ js) := by
  unfold startTest at hstart
  split at hstart
  · cases hstart
    obtain ⟨us, vs, rfl, hleaves, -, hvs⟩ := h
    exact ⟨.lowBound hleaves hfits hvs hjs, fun _ => trivial⟩
  · cases hstart
    exact ⟨hfits, us, js, rfl, h, hjs⟩
  · split at hstart
    next hcompare =>
      cases hstart
      obtain ⟨us, vs, rfl, hleaves, -, hvs⟩ := h
      exact ⟨.comparand hleaves hfits hvs hjs hcompare, fun _ => trivial⟩
    · cases hstart

theorem holds_afterSubject (h : Ends .sum t stack ws) (hfits : Fits .comparison stack)
    (hstep : afterSubject t stack (Operator.ofSpelling? w) = .ok s) : Holds s (ws ++ [w]) := by
  unfold afterSubject at hstep
  split at hstep
  next hm =>
    cases hstep
    exact ⟨hfits, ws, w, rfl, h, hm⟩
  next hm =>
    cases hstep
    exact ⟨hfits, ws, w, rfl, h, hm⟩
  · split at hstep
    next next hstart =>
      cases hstep
      obtain ⟨o, ho, hstart⟩ := Option.bind_eq_some_iff.1 hstart
      exact holds_startTest h hfits (.plain ho) hstart
    · exact holds_afterTest (h.map fun _ => .sum) hfits hstep

/-- A list of items and its closing parenthesis make a test. -/
theorem holds_closeList {left : Tree} {negated afterComma : Bool} {earlier : List Tree}
    (h : Ends .sum t (.item left negated earlier afterComma :: stack) ws)
    (hw : Means w .rightParen) :
    Holds ⟨.tested (negateIf negated (.op .among left (listChain (t :: earlier)))), stack⟩
      (ws ++ [w]) := by
  obtain ⟨us, vs, rfl, hleaves, hadmits, hvs⟩ := h
  cases hleaves with
  | @item _ us ls js p is _ _ _ _ hleaves hfits hls hjs hp his =>
    have hitems := his.derives hadmits (.last hvs)
    exact ⟨hfits, us, _, by simp, hleaves, admits_of_fits hfits _, .among hls hjs hp hitems hw⟩

theorem holds_afterItem {left : Tree} {negated afterComma : Bool} {earlier : List Tree}
    (h : Ends .sum t (.item left negated earlier afterComma :: stack) ws)
    (hadd : (Operator.ofSpelling? w).filter Operator.isAdditive = none)
    (hstep : afterSum t (.item left negated earlier afterComma :: stack) w = .ok s) :
    Holds s (ws ++ [w]) := by
  simp only [afterSum] at hstep
  split at hstep
  next hm =>
    cases hstep
    exact holds_closeList h hm
  next hm =>
    cases hstep
    obtain ⟨us, vs, rfl, hleaves, hadmits, hvs⟩ := h
    cases hleaves with
    | item hleaves hfits hls hjs hp his =>
      refine ⟨?_, fun _ => .inr (.inl rfl)⟩
      simpa using Leaves.item hleaves hfits hls hjs hp (his.comma hadmits hvs hm)
  · obtain ⟨us, vs, rfl, hleaves, hadmits, hvs⟩ := h
    have hsign : ¬ StartsSigned [w] := by
      rintro (hm | hm) <;> simp [hm, Operator.isAdditive] at hadd
    cases hleaves with
    | item hleaves hfits hls hjs hp his =>
      have hnext := Leaves.item hleaves hfits hls hjs hp (his.juxtaposed hadmits hvs)
      have hadmits' : Admits (.item left negated (t :: earlier) false :: stack) [w] :=
        .inr (.inr hsign)
      exact holds_startOperand (by simpa using hnext) hadmits' hstep

theorem holds_afterSum (h : Ends .sum t stack ws) (hfits : Fits .sum stack)
    (hadd : (Operator.ofSpelling? w).filter Operator.isAdditive = none)
    (hstep : afterSum t stack w = .ok s) : Holds s (ws ++ [w]) := by
  rcases stack with _ | ⟨frame, stack⟩
  · exact holds_afterSubject h (Nat.zero_le _) hstep
  · cases frame with
    | group | disjunct | conjunct | negation =>
      exact holds_afterSubject h (by simp [Frame.tier, Tier.rank]) hstep
    | item => exact holds_afterItem h hadd hstep
    | index base =>
      simp only [afterSum] at hstep
      split at hstep
      next hclose =>
        cases hstep
        obtain ⟨us, vs, rfl, hleaves, -, hvs⟩ := h
        cases hleaves with
        | @index _ us bs p base hleaves hadmits hbs hp =>
          refine ⟨us, bs ++ p :: vs ++ [w], by simp, hleaves, ?_, .subscript hbs hp hvs hclose⟩
          simpa using hadmits.append hbs.ne_nil (p :: vs ++ [w])
      · cases hstep
    | comparand => exact holds_afterTest h.comparand.1 h.comparand.2 hstep
    | lowBound l negated =>
      simp only [afterSum] at hstep
      split at hstep
      next hm =>
        cases hstep
        obtain ⟨us, vs, rfl, hleaves, -, hvs⟩ := h
        cases hleaves with
        | lowBound hleaves hfits hls hjs =>
          refine ⟨?_, fun _ => trivial⟩
          simpa using Leaves.highBound hleaves hfits hls hjs hvs hm
      · cases hstep
    | highBound => exact holds_afterTest h.highBound.1 h.highBound.2 hstep
    | sum | product | sign | power => simp [Frame.tier, Tier.rank] at hfits

theorem holds_afterFactor (h : Ends .signed t stack ws)
    (hstep : afterFactor (closeFactor t stack).1 (closeFactor t stack).2 w = .ok s) :
    Holds s (ws ++ [w]) := by
  obtain ⟨hproduct, hfits⟩ := h.closeProduct
  unfold afterFactor at hstep
  generalize closeProduct (closeFactor t stack).1 (closeFactor t stack).2 = product
    at hstep hproduct hfits
  obtain ⟨t, stack⟩ := product
  simp only at hstep hproduct hfits
  split at hstep
  next o ho =>
    cases hstep
    obtain ⟨hm, ho⟩ := Option.filter_eq_some_iff.1 ho
    obtain ⟨us, vs, rfl, hleaves, hadmits, hvs⟩ := hproduct
    exact ⟨.product hleaves hfits hadmits hvs hm ho, fun _ => trivial⟩
  · obtain ⟨hsum, hfits⟩ := hproduct.closeSum hfits
    unfold afterProduct at hstep
    generalize closeSum t stack = sum at hstep hsum hfits
    obtain ⟨t, stack⟩ := sum
    simp only at hstep hsum hfits
    split at hstep
    next o ho =>
      cases hstep
      obtain ⟨hm, ho⟩ := Option.filter_eq_some_iff.1 ho
      obtain ⟨us, vs, rfl, hleaves, hadmits, hvs⟩ := hsum
      exact ⟨.sum hleaves hfits hadmits hvs hm ho, fun _ => trivial⟩
    next hadd => exact holds_afterSum hsum hfits hadd hstep

theorem Ends.operand {isPath : Bool} (h : Ends (if isPath then .path else .operand) t stack ws) :
    Ends .operand t stack ws := by
  cases isPath with
  | false => exact h
  | true => exact h.map fun _ => .path

theorem holds_afterValue {isPath : Bool}
    (h : Ends (if isPath then .path else .operand) t stack ws)
    (hstep : afterValue t isPath stack w = .ok s) : Holds s (ws ++ [w]) := by
  simp only [afterValue] at hstep
  split at hstep
  next hm =>
    cases hstep
    obtain ⟨us, vs, rfl, hleaves, hadmits, hvs⟩ := h.operand
    exact ⟨.power hleaves hadmits hvs hm, fun _ => trivial⟩
  · split at hstep
    next hm =>
      cases hstep
      obtain ⟨rfl, hm⟩ := hm
      exact ⟨t, ws, w, rfl, rfl, h, hm⟩
    · split at hstep
      next hm =>
        cases hstep
        obtain ⟨rfl, hm⟩ := hm
        obtain ⟨us, vs, rfl, hleaves, hadmits, hvs⟩ := h
        exact ⟨.index hleaves hadmits hvs hm, fun _ => trivial⟩
      · exact holds_afterFactor (h.operand.map fun _ hvs => .power (.operand hvs)) hstep

/-- Every step keeps the invariant. -/
theorem Holds.step (h : Holds s ws) {s' : State} (hstep : s.step w = .ok s') :
    Holds s' (ws ++ [w]) := by
  obtain ⟨mode, stack⟩ := s
  cases mode with
  | operand => exact holds_startOperand h.1 (h.2 [w]) hstep
  | value t isPath => exact holds_afterValue h hstep
  | tested t => exact holds_afterTest h.2 h.1 hstep
  | memberName base =>
    obtain ⟨t, us, d, rfl, rfl, hends, hd⟩ := h
    obtain ⟨us, vs, rfl, hleaves, hadmits, hvs⟩ := hends
    have hmember : ∀ {v}, NameWord v → Holds
        ⟨.value (.op .member (pathBase t) (.leaf (unquote v))) true, stack⟩
        (us ++ vs ++ [d] ++ [v]) := fun {v} hv =>
      ⟨us, vs ++ [d, v], by simp, hleaves, hadmits.append hvs.ne_nil _, .member hvs hd hv⟩
    simp only [State.step] at hstep
    split at hstep
    next hquoted =>
      cases hstep
      exact hmember ⟨ofSpelling?_of_isQuoted hquoted, by simp [isName, hquoted]⟩
    next hquoted =>
      split at hstep
      next hname =>
        cases hstep
        simp only [Bool.and_eq_true, Option.isNone_iff_eq_none] at hname
        simpa [unquote, hquoted] using hmember hname
      · cases hstep
  | isTest t =>
    obtain ⟨hfits, us, v, rfl, hends, hv⟩ := h
    simp only [State.step] at hstep
    split at hstep
    next hm =>
      cases hstep
      exact ⟨hfits, us, v, w, by simp, hends, hv, hm⟩
    · split at hstep
      next hm =>
        cases hstep
        obtain ⟨us, vs, rfl, hleaves, hadmits, hvs⟩ := hends
        exact ⟨hfits, us, vs ++ [v, w], by simp, hleaves, hadmits.append hvs.ne_nil _,
          .isNull hvs hv hm⟩
      · cases hstep
  | isNotTest t =>
    obtain ⟨hfits, us, v, n, rfl, hends, hv, hn⟩ := h
    simp only [State.step] at hstep
    split at hstep
    next hm =>
      cases hstep
      obtain ⟨us, vs, rfl, hleaves, hadmits, hvs⟩ := hends
      exact ⟨hfits, us, vs ++ [v, n, w], by simp, hleaves, hadmits.append hvs.ne_nil _,
        .isNotNull hvs hv hn hm⟩
    · cases hstep
  | negatedTest t =>
    obtain ⟨hfits, us, v, rfl, hends, hv⟩ := h
    simp only [State.step] at hstep
    split at hstep
    next next hstart =>
      cases hstep
      obtain ⟨o, ho, hstart⟩ := Option.bind_eq_some_iff.1 hstart
      simpa using holds_startTest hends hfits (.negated hv ho) hstart
    · cases hstep
  | listOpening t negated =>
    obtain ⟨hfits, us, js, rfl, hends, hjs⟩ := h
    simp only [State.step] at hstep
    split at hstep
    next hm =>
      cases hstep
      obtain ⟨us, vs, rfl, hleaves, hadmits, hvs⟩ := hends
      refine ⟨?_, fun _ => .inl rfl⟩
      simpa using Leaves.item hleaves hfits hvs hjs hm .nil
    · cases hstep

theorem Holds.reads (h : Holds s ws) {us : List Text} {s' : State} (hreads : Reads s us s') :
    Holds s' (ws ++ us) := by
  induction hreads generalizing ws with
  | nil => simpa using h
  | cons hstep _ ih => simpa using ih (h.step hstep)

theorem derives_of_finishTest (h : Ends .comparison t stack ws) (hfits : Fits .comparison stack)
    {u : Tree} (hfinish : finishTest t stack = .ok u) : Derives .disjunction ws u := by
  obtain ⟨hconj, hfits⟩ := Ends.closeConjunct (h.map fun _ => .comparison) hfits
  obtain ⟨hdisj, -⟩ := hconj.closeDisjunct hfits
  simp only [finishTest] at hfinish
  split at hfinish
  next hnil =>
    cases hfinish
    rw [hnil] at hdisj
    obtain ⟨us, vs, rfl, hleaves, -, hvs⟩ := hdisj
    cases hleaves
    simpa using hvs
  · cases hfinish

theorem derives_of_finishValue (h : Ends .signed t stack ws) {u : Tree}
    (hfinish : finishValue t stack = .ok u) : Derives .disjunction ws u := by
  obtain ⟨hproduct, hfits⟩ := h.closeProduct
  obtain ⟨hsum, hfits⟩ := hproduct.closeSum hfits
  simp only [finishValue] at hfinish
  generalize closeSum _ _ = sum at hfinish hsum hfits
  obtain ⟨t, stack⟩ := sum
  simp only at hfinish hsum hfits
  rcases stack with _ | ⟨frame, stack⟩
  · exact derives_of_finishTest (hsum.map fun _ => .sum) (Nat.zero_le _) hfinish
  · cases frame with
    | group | disjunct | conjunct | negation =>
      exact derives_of_finishTest (hsum.map fun _ => .sum) (by simp [Frame.tier, Tier.rank]) hfinish
    | comparand => exact derives_of_finishTest hsum.comparand.1 hsum.comparand.2 hfinish
    | highBound => exact derives_of_finishTest hsum.highBound.1 hsum.highBound.2 hfinish
    | item | index | lowBound => cases hfinish
    | sum | product | sign | power => simp [Frame.tier, Tier.rank] at hfits

/-- At the end of the words an accepted tree is the tree of a phrase. -/
theorem Holds.finish (h : Holds s ws) (hfinish : s.finish = .ok t) : Derives .disjunction ws t := by
  obtain ⟨mode, stack⟩ := s
  cases mode with
  | operand =>
    simp only [State.finish] at hfinish
    split at hfinish <;> cases hfinish
  | value u isPath =>
    exact derives_of_finishValue (Ends.operand h |>.map fun _ hvs => .power (.operand hvs)) hfinish
  | tested u => exact derives_of_finishTest h.2 h.1 hfinish
  | memberName | isTest | isNotTest | negatedTest | listOpening => cases hfinish

end Steps

theorem derives_of_run {ws : List Text} {t : Tree} {i : Nat} (h : State.start.run i ws = .ok t) :
    Derives .disjunction ws t := by
  obtain ⟨s, hreads, hfinish⟩ := run_eq_ok_iff.1 h
  exact (holds_start.reads hreads).finish hfinish

end Parsing

end TagFilter
