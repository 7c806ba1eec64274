import Mathlib.Data.List.Basic
import TagFilter.Lint.Config

/-!
# Severities in any order

The severities of a configuration come from a table, whose entries have no order of their own.
Whether the table makes a configuration and which rules are off is the same in every order.  The
severity of a rule is the one of the last entry for it, and each of the entries for a rule is the
last one in some order (`severityOf_in_some_order_iff`).  So the order matters exactly when two
entries name one rule, in other letters or with other blanks, and give it two severities
(`ofLists_any_order`).
-/

namespace TagFilter.LintConfig

variable {disabled : List Text} {entries order : List (Text × Text)} {c : LintConfig}

/-- All severities of a table have names of severities. -/
def Named (entries : List (Text × Text)) : Prop :=
  ∀ e ∈ entries, (Severity.ofName? e.2).isSome = true

/-- Entries of a table for one rule give it one severity. -/
def Consistent (entries : List (Text × Text)) : Prop :=
  ∀ e ∈ entries, ∀ f ∈ entries, normalize e.1 = normalize f.1 →
    Severity.ofName? e.2 = Severity.ofName? f.2

/-- A table makes a configuration if its entries come in some order. -/
def MadeFrom (disabled : List Text) (entries : List (Text × Text)) (c : LintConfig) : Prop :=
  ∃ order, order.Perm entries ∧ ofLists disabled order = .ok c

/-- What is kept of an entry. -/
def override (e : Text × Text) : Text × Severity :=
  (normalize e.1, (Severity.ofName? e.2).getD .warning)

/-! ## Configurations of one order -/

theorem override_eq_iff {e : Text × Text} {rule : Text} {severity : Severity}
    (h : (Severity.ofName? e.2).isSome = true) :
    override e = (rule, severity) ↔ normalize e.1 = rule ∧ Severity.ofName? e.2 = some severity := by
  obtain ⟨s, hs⟩ := Option.isSome_iff_exists.1 h
  rw [override, Prod.mk.injEq, hs, Option.getD_some, Option.some.injEq]

theorem setSeverities_eq_ok_iff {c c' : LintConfig} :
    c.setSeverities entries = .ok c' ↔ Named entries ∧
      c' = { c with severities := (entries.map override).reverse ++ c.severities } := by
  induction entries generalizing c with
  | nil => exact ⟨fun h => ⟨by simp [Named], (Except.ok.inj h).symm⟩, fun h => congrArg _ h.2.symm⟩
  | cons e entries ih =>
    obtain ⟨id, name⟩ := e
    cases hname : Severity.ofName? name with
    | none => simp [setSeverities, Named, hname]
    | some severity =>
      have hoverride : override (id, name) = (normalize id, severity) := by simp [override, hname]
      simp only [setSeverities, hname, ih]
      simp [Named, hname, hoverride, setSeverity]

theorem severities_foldl_disable (ids : List Text) (c : LintConfig) :
    (ids.foldl disable c).severities = c.severities := by
  induction ids generalizing c with
  | nil => rfl
  | cons id ids ih => rw [List.foldl_cons, ih, disable]

theorem ofLists_eq_ok_iff : ofLists disabled entries = .ok c ↔ Named entries ∧
    c = ⟨(disabled.foldl disable {}).disabled, (entries.map override).reverse⟩ := by
  rw [ofLists, setSeverities_eq_ok_iff, severities_foldl_disable, List.append_nil]

theorem Named.of_perm (h : Named entries) (horder : order.Perm entries) : Named order :=
  fun e he => h e (horder.mem_iff.1 he)

theorem named_of_madeFrom (h : MadeFrom disabled entries c) : Named entries := by
  obtain ⟨order, horder, hc⟩ := h
  exact (ofLists_eq_ok_iff.1 hc).1.of_perm horder.symm

/-! ## The severity of a rule -/

/-- The severities of a rule in all orders: those of the entries for it, or its own if there is no
entry for it. -/
theorem severityOf_in_some_order_iff (hnamed : Named entries) (id : Text)
    (own : Severity) {severity : Severity} :
    (∃ c, MadeFrom disabled entries c ∧ c.severityOf id own = severity) ↔
      (∃ e ∈ entries, override e = (normalize id, severity)) ∨
        (∀ e ∈ entries, normalize e.1 ≠ normalize id) ∧ severity = own := by
  constructor
  · rintro ⟨c, ⟨order, horder, hc⟩, hseverity⟩
    obtain ⟨-, rfl⟩ := ofLists_eq_ok_iff.1 hc
    rw [severityOf] at hseverity
    cases hlookup : (order.map override).reverse.lookup (normalize id) with
    | some s =>
      obtain ⟨front, back, heq, -⟩ := List.lookup_eq_some_iff.1 hlookup
      have hmem : (normalize id, s) ∈ order.map override := by
        rw [← List.mem_reverse, heq]
        simp
      obtain ⟨e, he, hoverride⟩ := List.mem_map.1 hmem
      rw [hlookup, Option.getD_some] at hseverity
      exact .inl ⟨e, horder.mem_iff.1 he, by rw [hoverride, hseverity]⟩
    | none =>
      rw [hlookup, Option.getD_none] at hseverity
      refine .inr ⟨fun e he hid => ?_, hseverity.symm⟩
      have hmem : override e ∈ (order.map override).reverse := by
        rw [List.mem_reverse]
        exact List.mem_map_of_mem (horder.mem_iff.2 he)
      have hne := List.lookup_eq_none_iff.1 hlookup _ hmem
      simp [override, hid] at hne
  · rintro (⟨e, he, hoverride⟩ | ⟨hnone, rfl⟩)
    · -- The entry decides in an order in which it comes last.
      have horder : (entries.erase e ++ [e]).Perm entries :=
        (List.perm_append_singleton e _).trans (List.perm_cons_erase he).symm
      refine ⟨_, ⟨_, horder, ofLists_eq_ok_iff.2 ⟨hnamed.of_perm horder, rfl⟩⟩, ?_⟩
      simp [severityOf, hoverride]
    · refine ⟨_, ⟨entries, .refl _, ofLists_eq_ok_iff.2 ⟨hnamed, rfl⟩⟩, ?_⟩
      have hlookup : (entries.map override).reverse.lookup (normalize id) = none := by
        rw [List.lookup_eq_none_iff]
        intro p hp
        obtain ⟨e, he, rfl⟩ := List.mem_map.1 (List.mem_reverse.1 hp)
        simpa [override] using Ne.symm (hnone e he)
      rw [severityOf, hlookup, Option.getD_none]

theorem severityOf_eq_of_consistent (h : Consistent entries) {c c' : LintConfig}
    (hc : MadeFrom disabled entries c) (hc' : MadeFrom disabled entries c') (id : Text)
    (own : Severity) : c.severityOf id own = c'.severityOf id own := by
  have hnamed : Named entries := named_of_madeFrom hc
  have hfrom := (severityOf_in_some_order_iff hnamed id own).1 ⟨c, hc, rfl⟩
  have hfrom' := (severityOf_in_some_order_iff hnamed id own).1 ⟨c', hc', rfl⟩
  rcases hfrom with ⟨e, he, heq⟩ | ⟨hnone, hown⟩ <;>
    rcases hfrom' with ⟨f, hf, hfeq⟩ | ⟨hnone', hown'⟩
  · obtain ⟨hid, hs⟩ := (override_eq_iff (hnamed e he)).1 heq
    obtain ⟨hid', hs'⟩ := (override_eq_iff (hnamed f hf)).1 hfeq
    have hsame := h e he f hf (hid.trans hid'.symm)
    rw [hs, hs'] at hsame
    exact Option.some.inj hsame
  · exact absurd ((override_eq_iff (hnamed e he)).1 heq).1 (hnone' e he)
  · exact absurd ((override_eq_iff (hnamed f hf)).1 hfeq).1 (hnone f hf)
  · rw [hown, hown']

theorem consistent_of_severityOf_eq (hnamed : Named entries)
    (h : ∀ c c', MadeFrom disabled entries c → MadeFrom disabled entries c' →
      ∀ id own, c.severityOf id own = c'.severityOf id own) : Consistent entries := by
  intro e he f hf hid
  obtain ⟨s, hs⟩ := Option.isSome_iff_exists.1 (hnamed e he)
  obtain ⟨s', hs'⟩ := Option.isSome_iff_exists.1 (hnamed f hf)
  have hoverride : override e = (normalize e.1, s) :=
    (override_eq_iff (hnamed e he)).2 ⟨rfl, hs⟩
  have hoverride' : override f = (normalize e.1, s') :=
    (override_eq_iff (hnamed f hf)).2 ⟨hid.symm, hs'⟩
  obtain ⟨c, hc, hseverity⟩ :=
    (severityOf_in_some_order_iff hnamed e.1 s).2 (.inl ⟨e, he, hoverride⟩)
  obtain ⟨c', hc', hseverity'⟩ :=
    (severityOf_in_some_order_iff hnamed e.1 s).2 (.inl ⟨f, hf, hoverride'⟩)
  rw [hs, hs', ← hseverity, ← hseverity', h c c' hc hc']

/-- In every order of the entries a table makes a configuration, or in none: it does if all its
severities have names.  The same rules are off in every order.  Rules have the same severity in
every order if and only if the entries for one rule give it one severity. -/
theorem ofLists_any_order (disabled : List Text) (entries : List (Text × Text)) :
    (∀ order, order.Perm entries →
      ((∃ c, ofLists disabled order = .ok c) ↔ Named entries)) ∧
    (∀ c c', MadeFrom disabled entries c → MadeFrom disabled entries c' →
      ∀ id, c.isDisabled id = c'.isDisabled id) ∧
    (Named entries →
      ((∀ c c', MadeFrom disabled entries c → MadeFrom disabled entries c' →
        ∀ id own, c.severityOf id own = c'.severityOf id own) ↔ Consistent entries)) := by
  refine ⟨fun order horder => ⟨?_, fun hnamed => ?_⟩, ?_, fun hnamed => ⟨?_, ?_⟩⟩
  · rintro ⟨c, hc⟩
    exact named_of_madeFrom ⟨order, horder, hc⟩
  · exact ⟨_, ofLists_eq_ok_iff.2 ⟨hnamed.of_perm horder, rfl⟩⟩
  · rintro c c' ⟨order, -, hc⟩ ⟨order', -, hc'⟩ id
    obtain ⟨-, rfl⟩ := ofLists_eq_ok_iff.1 hc
    obtain ⟨-, rfl⟩ := ofLists_eq_ok_iff.1 hc'
    rfl
  · exact consistent_of_severityOf_eq hnamed
  · exact fun h c c' hc hc' => severityOf_eq_of_consistent h hc hc'

/-- With two spellings of one rule as keys, the rule has one severity or the other. -/
theorem ofLists_any_order_two_spellings :
    let entries : List (Text × Text) := [("ex01", "error"), ("EX01", "hint")]
    (entries.map Prod.fst).Nodup ∧ Named entries ∧ ¬ Consistent entries ∧
      ¬ ∀ c c', MadeFrom [] entries c → MadeFrom [] entries c' →
        ∀ id own, c.severityOf id own = c'.severityOf id own := by
  intro entries
  have hnamed : Named entries := by
    intro e he
    simp only [entries, List.mem_cons, List.not_mem_nil, or_false] at he
    rcases he with rfl | rfl <;> decide +kernel
  have hinconsistent : ¬ Consistent entries := by
    intro h
    have hsame := h ("ex01", "error") (by simp [entries]) ("EX01", "hint") (by simp [entries])
      (by decide +kernel)
    exact absurd hsame (by decide +kernel)
  refine ⟨by decide +kernel, hnamed, hinconsistent, fun h => hinconsistent ?_⟩
  exact ((ofLists_any_order [] entries).2.2 hnamed).1 h

end TagFilter.LintConfig
