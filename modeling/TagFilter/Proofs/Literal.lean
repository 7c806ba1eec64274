import TagFilter.Sql.Token

/-!
# Literals in SQL

A text stands in SQL between quotes, where a quote inside is doubled.  `Doubled x` says that every
quote of `x` is, and this is exactly when `x` between quotes is read as one literal, whatever comes
next (`first_literal_iff`).

`outline` empties the literals of a statement and keeps what is outside.
-/

namespace TagFilter.Sql

/-- The byte around literals. -/
def quote : UInt8 := byte '\''

/-- A text between quotes. -/
def enclose (inside : Text) : Text := quote :: inside ++ [quote]

/-- Every quote in a text is doubled. -/
inductive Doubled : Text → Prop
  | nil : Doubled []
  | plain {b t} : b ≠ quote → Doubled t → Doubled (b :: t)
  | pair {t} : Doubled t → Doubled (quote :: quote :: t)

theorem Doubled.of_not_mem {t : Text} (h : quote ∉ t) : Doubled t := by
  induction t with
  | nil => exact .nil
  | cons b t ih =>
    simp only [List.mem_cons, not_or] at h
    exact .plain (Ne.symm h.1) (ih h.2)

theorem doubled_singleton {b : UInt8} : Doubled [b] ↔ b ≠ quote := by
  constructor
  · rintro (_ | ⟨hb, -⟩)
    exact hb
  · exact fun hb => .plain hb .nil

theorem doubled_cons_cons {b c : UInt8} {t : Text} :
    Doubled (b :: c :: t) ↔ if b = quote then c = quote ∧ Doubled t else Doubled (c :: t) := by
  by_cases hb : b = quote
  · subst hb
    rw [if_pos rfl]
    constructor
    · rintro (_ | ⟨hb, -⟩ | h)
      · exact absurd rfl hb
      · exact ⟨rfl, h⟩
    · rintro ⟨rfl, h⟩
      exact .pair h
  · rw [if_neg hb]
    constructor
    · rintro (_ | ⟨-, h⟩ | -)
      · exact h
      · exact absurd rfl hb
    · exact .plain hb

instance decidableDoubled : (t : Text) → Decidable (Doubled t)
  | [] => .isTrue .nil
  | [_] => decidable_of_iff _ doubled_singleton.symm
  | _ :: c :: t =>
    have := decidableDoubled t
    have := decidableDoubled (c :: t)
    decidable_of_iff _ doubled_cons_cons.symm

/-! ## Reading literals -/

namespace Token

/-- A quoted part holds at least its closing quote and at most what there is to read. -/
theorem quotedPart_bounds {q : UInt8} {skip : Bool} {t inside : Text} {n : Nat}
    (h : quotedPart q skip t = some (inside, n)) : 1 ≤ n ∧ n ≤ t.length := by
  induction t generalizing skip inside n with
  | nil => cases h
  | cons b t ih =>
    have hstep : ∀ {skip' : Bool} {u : Text} {m : Nat}, quotedPart q skip' t = some (u, m) →
        n = m + 1 → 1 ≤ n ∧ n ≤ (b :: t).length := by
      intro skip' u m hu hn
      have := ih hu
      simp only [List.length_cons]
      omega
    unfold quotedPart at h
    split at h
    · obtain ⟨⟨u, m⟩, hu, heq⟩ := Option.map_eq_some_iff.1 h
      exact hstep hu (by cases heq; rfl)
    · split at h
      · split at h
        · obtain ⟨⟨u, m⟩, hu, heq⟩ := Option.map_eq_some_iff.1 h
          exact hstep hu (by cases heq; rfl)
        · cases h
          simp
      · obtain ⟨⟨u, m⟩, hu, heq⟩ := Option.map_eq_some_iff.1 h
        exact hstep hu (by cases heq; rfl)

/-- Reading stops at the quote after a text whose quotes are doubled. -/
theorem quotedPart_of_doubled {x rest : Text} (h : Doubled x) (hrest : rest.head? ≠ some quote) :
    ∃ inside, quotedPart quote false (x ++ quote :: rest) = some (inside, x.length + 1) := by
  induction h with
  | nil => exact ⟨[], by simp [quotedPart, hrest]⟩
  | @plain b t hb _ ih =>
    obtain ⟨inside, ih⟩ := ih
    exact ⟨b :: inside, by simp [quotedPart, hb, ih]⟩
  | @pair t _ ih =>
    obtain ⟨inside, ih⟩ := ih
    exact ⟨quote :: inside, by simp [quotedPart, ih]⟩

theorem quotedPart_plain {b : UInt8} (hb : b ≠ quote) (t : Text) :
    quotedPart quote false (b :: t) =
      (quotedPart quote false t).map fun part => (b :: part.1, part.2 + 1) := by
  simp [quotedPart, hb]

theorem quotedPart_pair (t : Text) :
    quotedPart quote false (quote :: quote :: t) =
      (quotedPart quote false t).map fun part => (quote :: part.1, part.2 + 2) := by
  simp [quotedPart, Function.comp_def]

/-- Reading a text up to the quote after it needs the quotes of the text doubled. -/
theorem doubled_of_quotedPart {rest : Text} : ∀ {x inside : Text},
    quotedPart quote false (x ++ quote :: rest) = some (inside, x.length + 1) → Doubled x
  | [], _, _ => .nil
  | [b], inside, h => by
    by_cases hb : b = quote
    · -- The quote and the closing one would make a pair, and reading goes on.
      subst hb
      rw [List.singleton_append, quotedPart_pair] at h
      obtain ⟨⟨u, n⟩, hu, heq⟩ := Option.map_eq_some_iff.1 h
      have := (quotedPart_bounds hu).1
      simp only [Prod.mk.injEq, List.length_singleton] at heq
      omega
    · exact .plain hb .nil
  | b :: c :: x, inside, h => by
    by_cases hb : b = quote
    · subst hb
      by_cases hc : c = quote
      · subst hc
        rw [List.cons_append, List.cons_append, quotedPart_pair] at h
        obtain ⟨⟨u, n⟩, hu, heq⟩ := Option.map_eq_some_iff.1 h
        simp only [Prod.mk.injEq, List.length_cons] at heq
        obtain rfl : n = x.length + 1 := by omega
        exact .pair (doubled_of_quotedPart hu)
      · simp [quotedPart, hc] at h
    · rw [List.cons_append, quotedPart_plain hb] at h
      obtain ⟨⟨u, n⟩, hu, heq⟩ := Option.map_eq_some_iff.1 h
      simp only [Prod.mk.injEq, List.length_cons] at heq
      obtain rfl : n = (c :: x).length + 1 := by simp only [List.length_cons]; omega
      exact .plain hb (doubled_of_quotedPart hu)

theorem first_quote (t : Text) :
    first (quote :: t) =
      match quotedPart quote false t with
      | some (inside, n) => .ok ⟨.text inside, quote :: t.take n, []⟩
      | none => .error (.unrecognized (quote :: t)) := by
  rfl

/-- A text between quotes is read as one literal exactly when its own quotes are doubled. -/
theorem first_literal_iff {x rest : Text} (hrest : rest.head? ≠ some quote) :
    (∃ inside, first (enclose x ++ rest) = .ok ⟨.text inside, enclose x, []⟩) ↔ Doubled x := by
  have happend : enclose x ++ rest = quote :: (x ++ quote :: rest) := by simp [enclose]
  rw [happend, first_quote]
  constructor
  · rintro ⟨inside, h⟩
    cases hpart : quotedPart quote false (x ++ quote :: rest) with
    | none => simp [hpart] at h
    | some part =>
      obtain ⟨u, n⟩ := part
      have hbound := (quotedPart_bounds hpart).2
      have htake : (x ++ quote :: rest).take n = x ++ [quote] := by
        simp only [hpart, Except.ok.injEq, Token.mk.injEq, enclose, List.cons_append,
          List.cons.injEq] at h
        exact h.2.1.2
      have hn : n = x.length + 1 := by
        have hlength := congrArg List.length htake
        simp only [List.length_take, List.length_append, List.length_cons, List.length_nil]
          at hlength hbound
        omega
      subst hn
      exact doubled_of_quotedPart hpart
  · intro h
    obtain ⟨inside, hpart⟩ := quotedPart_of_doubled h hrest
    refine ⟨inside, ?_⟩
    have htake : (x ++ quote :: rest).take (x.length + 1) = x ++ [quote] := by
      simp [List.take_append, List.take_of_length_le]
    simp [hpart, htake, enclose]

end Token

/-! ## What is outside literals -/

/-- Where reading is: outside literals, inside one, or at the second quote of a pair. -/
inductive Place where
  | outside
  | inside
  | paired
  deriving DecidableEq, Repr

/-- A statement with its literals emptied.  A doubled quote does not end a literal. -/
def outline : Place → Text → Text
  | _, [] => []
  | .outside, b :: rest =>
    if b = quote then b :: outline .inside rest else b :: outline .outside rest
  | .inside, b :: rest =>
    if b = quote then
      if rest.head? = some quote then outline .paired rest else b :: outline .outside rest
    else outline .inside rest
  | .paired, _ :: rest => outline .inside rest

theorem outline_append {t : Text} (h : quote ∉ t) (rest : Text) :
    outline .outside (t ++ rest) = t ++ outline .outside rest := by
  induction t with
  | nil => rfl
  | cons b t ih =>
    simp only [List.mem_cons, not_or] at h
    simp [outline, Ne.symm h.1, ih h.2]

theorem outline_inside {x rest : Text} (h : Doubled x) (hrest : rest.head? ≠ some quote) :
    outline .inside (x ++ quote :: rest) = quote :: outline .outside rest := by
  induction h with
  | nil => simp [outline, hrest]
  | plain hb _ ih => simp [outline, hb, ih]
  | pair _ ih => simp [outline, ih]

/-- A literal whose quotes are doubled leaves only its own quotes. -/
theorem outline_enclose {x rest : Text} (h : Doubled x) (hrest : rest.head? ≠ some quote) :
    outline .outside (enclose x ++ rest) = enclose [] ++ outline .outside rest := by
  have happend : enclose x ++ rest = quote :: (x ++ quote :: rest) := by simp [enclose]
  rw [happend]
  simp [outline, outline_inside h hrest, enclose]

end TagFilter.Sql
