import TagFilter.Predicate

/-!
# Boolean expressions and how they are written

A `Formula` is what an expression says: tests of a tag, each of its name and of its value, joined by
`and` and `or`.  A `Clause` is a Boolean expression of SQL, in which `and` binds tighter than `or`
and parentheses group.  Both have a truth value under any assignment of truth values to the
conditions.

`Formula.written` is the clause that predicates are the printed form of.  It keeps the connective at
the root and joins everything below by `and`, so it means the formula when there is no `or` below
the root (`Formula.holds_written`), and it means something else when there is one and no two tests
share a mark (`Formula.exists_holds_written_ne`).
-/

namespace TagFilter

/-! ## Conditions -/

/-- A condition on the value of a tag: a comparison with a literal, or being one of some literals.
-/
inductive ValueCondition where
  | compared (column : Column) (operator : Operator) (literal : Text)
  | listed (column : Column) (literals : List Text)
  deriving DecidableEq, Repr

/-- A condition on one column of the tag table. -/
inductive Condition where
  | named (name : Text)
  | valued (value : ValueCondition)
  deriving DecidableEq, Repr

/-- A condition on a value in SQL.  Lists are written with the last literal first. -/
def ValueCondition.print : ValueCondition → Text
  | compared column operator literal =>
    column.name ++ " " ++ Tag.spelled operator ++ " " ++ literal
  | listed column literals => column.name ++ " in (" ++ Text.join ", " literals.reverse ++ ")"

/-- A condition in SQL. -/
def Condition.print : Condition → Text
  | named name => "name = '" ++ name ++ "'"
  | valued value => value.print

/-- Truth values for all conditions. -/
abbrev Assignment := Condition → Bool

/-! ## Clauses -/

/-- The levels of Boolean expressions, from tight to loose. -/
inductive ClauseLevel where
  | single
  | both
  | either
  deriving DecidableEq, Repr

/-- A Boolean expression of SQL by its level. -/
inductive Clause : ClauseLevel → Type where
  | condition (c : Condition) : Clause .single
  | group (c : Clause .either) : Clause .single
  | single (c : Clause .single) : Clause .both
  | and (l : Clause .both) (r : Clause .single) : Clause .both
  | both (c : Clause .both) : Clause .either
  | or (l : Clause .either) (r : Clause .both) : Clause .either

namespace Clause

/-- A clause in SQL. -/
def print : {level : ClauseLevel} → Clause level → Text
  | _, condition c => c.print
  | _, group c => "(" ++ c.print ++ ")"
  | _, single c => c.print
  | _, and l r => l.print ++ " and " ++ r.print
  | _, both c => c.print
  | _, or l r => l.print ++ " or " ++ r.print

/-- The truth value of a clause. -/
def holds (v : Assignment) : {level : ClauseLevel} → Clause level → Bool
  | _, condition c => v c
  | _, group c => c.holds v
  | _, single c => c.holds v
  | _, and l r => l.holds v && r.holds v
  | _, both c => c.holds v
  | _, or l r => l.holds v || r.holds v

end Clause

/-! ## Formulas -/

/-- A test of a tag: its name and the condition on its value. -/
structure Test where
  name : Text
  value : ValueCondition
  deriving DecidableEq, Repr

/-- A test is true when both of its conditions are. -/
def Test.holds (v : Assignment) (t : Test) : Bool := v (.named t.name) && v (.valued t.value)

/-- Tests joined by `and` and `or`. -/
inductive Formula where
  | test (t : Test)
  | and (l r : Formula)
  | or (l r : Formula)
  deriving DecidableEq, Repr

namespace Formula

/-- The truth value of a formula. -/
def holds (v : Assignment) : Formula → Bool
  | test t => t.holds v
  | and l r => l.holds v && r.holds v
  | or l r => l.holds v || r.holds v

/-- The tests of a formula in order. -/
def tests : Formula → List Test
  | test t => [t]
  | and l r | or l r => l.tests ++ r.tests

/-- Whether there is an `or`. -/
def hasOr : Formula → Bool
  | test _ => false
  | and l r => l.hasOr || r.hasOr
  | or _ _ => true

/-- Whether there is an `or` below the root. -/
def hasInnerOr : Formula → Bool
  | test _ => false
  | and l r | or l r => l.hasOr || r.hasOr

/-- A formula in parentheses, with all its tests joined by `and`. -/
def factor : Formula → Clause .single
  | test t => .group (.both (.and (.single (.condition (.named t.name)))
      (.condition (.valued t.value))))
  | and l r | or l r => .group (.both (.and (.single l.factor) r.factor))

/-- The clause that is written for a formula.  A test of a list keeps its parentheses. -/
def written : Formula → Clause .either
  | test ⟨name, .listed column literals⟩ =>
    .both (.single (factor (test ⟨name, .listed column literals⟩)))
  | test t => .both (.and (.single (.condition (.named t.name))) (.condition (.valued t.value)))
  | and l r => .both (.and (.single l.factor) r.factor)
  | or l r => .or (.both (.single l.factor)) (.single r.factor)

/-! ## When the written clause means the formula -/

theorem holds_factor (v : Assignment) (f : Formula) :
    f.factor.holds v = f.tests.all (Test.holds v) := by
  induction f with
  | test t => simp [factor, tests, Clause.holds, Test.holds]
  | and l r ihl ihr | or l r ihl ihr => simp [factor, tests, Clause.holds, ihl, ihr]

theorem holds_of_not_hasOr {f : Formula} (h : f.hasOr = false) (v : Assignment) :
    f.holds v = f.tests.all (Test.holds v) := by
  induction f with
  | test t => simp [holds, tests]
  | and l r ihl ihr =>
    obtain ⟨hl, hr⟩ : l.hasOr = false ∧ r.hasOr = false := by simpa [hasOr] using h
    simp [holds, tests, ihl hl, ihr hr]
  | or l r => simp [hasOr] at h

/-- Without an `or` below the root, the written clause means the formula. -/
theorem holds_written {f : Formula} (h : f.hasInnerOr = false) (v : Assignment) :
    f.written.holds v = f.holds v := by
  match f with
  | test ⟨name, .listed column literals⟩ => rfl
  | test ⟨name, .compared column operator literal⟩ => rfl
  | and l r | or l r =>
    obtain ⟨hl, hr⟩ : l.hasOr = false ∧ r.hasOr = false := by simpa [hasInnerOr] using h
    simp [written, holds, Clause.holds, holds_factor, holds_of_not_hasOr hl, holds_of_not_hasOr hr]

/-! ## When it means something else -/

theorem tests_ne_nil (f : Formula) : f.tests ≠ [] := by
  induction f with
  | test t => simp [tests]
  | and l r ihl | or l r ihl => simp [tests, ihl]

theorem holds_of_all {f : Formula} {v : Assignment} (h : ∀ t ∈ f.tests, t.holds v = true) :
    f.holds v = true := by
  induction f with
  | test t => exact h t (by simp [tests])
  | and l r ihl ihr =>
    have hl := ihl fun t ht => h t (by simp [tests, ht])
    have hr := ihr fun t ht => h t (by simp [tests, ht])
    simp [holds, hl, hr]
  | or l r ihl =>
    have hl := ihl fun t ht => h t (by simp [tests, ht])
    simp [holds, hl]

end Formula

/-- The two conditions of a test. -/
inductive Side where
  | name
  | value
  deriving DecidableEq, Repr

/-- The condition on one side of a test. -/
def Test.mark (side : Side) (t : Test) : Condition :=
  match side with
  | .name => .named t.name
  | .value => .valued t.value

/-- The assignment that makes only some conditions false. -/
def refuting (refuted : List Condition) : Assignment := fun c => !refuted.contains c

/-- The conditions are on one side of tests. -/
def OnSide (side : Side) (conditions : List Condition) : Prop :=
  ∀ c ∈ conditions, ∃ t : Test, c = t.mark side

theorem OnSide.append {side : Side} {cs ds : List Condition} (hc : OnSide side cs)
    (hd : OnSide side ds) : OnSide side (cs ++ ds) := by
  intro c hmem
  exact (List.mem_append.1 hmem).elim (hc c) (hd c)

/-- Refuting conditions on one side refutes the tests that have them. -/
theorem Test.holds_refuting {side : Side} {refuted : List Condition} (h : OnSide side refuted)
    (t : Test) : t.holds (refuting refuted) = !refuted.contains (t.mark side) := by
  -- The condition on the other side is not refuted.
  cases side with
  | name =>
    have hvalue : Condition.valued t.value ∉ refuted := by
      intro hmem
      obtain ⟨u, hu⟩ := h _ hmem
      cases hu
    simp [Test.holds, refuting, mark, hvalue]
  | value =>
    have hname : Condition.named t.name ∉ refuted := by
      intro hmem
      obtain ⟨u, hu⟩ := h _ hmem
      cases hu
    simp [Test.holds, refuting, mark, hname]

namespace Formula

variable {side : Side} {f : Formula} {refuted : List Condition}

/-- The conditions on one side of the tests of a formula. -/
def marks (side : Side) (f : Formula) : List Condition := f.tests.map (Test.mark side)

theorem onSide_marks (side : Side) (f : Formula) : OnSide side (f.marks side) := by
  intro c hc
  obtain ⟨t, -, rfl⟩ := List.mem_map.1 hc
  exact ⟨t, rfl⟩

theorem holds_refuting_of_disjoint (h : OnSide side refuted)
    (hdisjoint : ∀ c ∈ f.marks side, c ∉ refuted) : f.holds (refuting refuted) = true := by
  refine holds_of_all fun t ht => ?_
  have hmark : t.mark side ∉ refuted := hdisjoint _ (List.mem_map_of_mem ht)
  simp [Test.holds_refuting h, hmark]

theorem factor_refuting_of_subset (h : OnSide side refuted) (hsubset : f.marks side ⊆ refuted) :
    f.factor.holds (refuting refuted) = false := by
  obtain ⟨t, ht⟩ := List.exists_mem_of_ne_nil _ f.tests_ne_nil
  have hmark : t.mark side ∈ refuted := hsubset (List.mem_map_of_mem ht)
  rw [holds_factor, List.all_eq_false]
  exact ⟨t, ht, by simp [Test.holds_refuting h, hmark]⟩

/-- Refuting some conditions of a formula refutes its written form and not the formula itself,
whatever else is refuted that the formula does not have. -/
def Parts (side : Side) (f : Formula) (own : List Condition) : Prop :=
  own ⊆ f.marks side ∧ ∀ others, OnSide side others → (∀ c ∈ f.marks side, c ∉ others) →
    f.factor.holds (refuting (own ++ others)) = false ∧
      f.holds (refuting (own ++ others)) = true

theorem marks_and (side : Side) (l r : Formula) :
    (and l r).marks side = l.marks side ++ r.marks side := by
  simp [marks, tests]

theorem marks_or (side : Side) (l r : Formula) :
    (or l r).marks side = l.marks side ++ r.marks side := by
  simp [marks, tests]

theorem onSide_of_subset {own : List Condition} (h : own ⊆ f.marks side) : OnSide side own :=
  fun c hc => onSide_marks side f c (h hc)

/-- A formula keeps its truth when only conditions of its neighbour and others are refuted. -/
theorem holds_beside {g : Formula} {own others : List Condition} (hown : own ⊆ g.marks side)
    (hothers : OnSide side others) (hg : ∀ c ∈ f.marks side, c ∉ g.marks side)
    (ho : ∀ c ∈ f.marks side, c ∉ others) : f.holds (refuting (own ++ others)) = true := by
  refine holds_refuting_of_disjoint ((onSide_of_subset hown).append hothers) fun c hc hmem => ?_
  rcases List.mem_append.1 hmem with h | h
  · exact hg c hc (hown h)
  · exact ho c hc h

/-- A formula with an `or` parts from its written form. -/
theorem exists_parts (hor : f.hasOr = true) (hnodup : (f.marks side).Nodup) :
    ∃ own, Parts side f own := by
  induction f with
  | test t => simp [hasOr] at hor
  | or l r =>
    -- Refuting all of one side leaves the other.
    rw [marks_or] at hnodup
    have hdisjoint := (List.nodup_append.1 hnodup).2.2
    refine ⟨l.marks side, by simp [marks_or], fun others hothers hfree => ?_⟩
    rw [marks_or] at hfree
    have hl : l.factor.holds (refuting (l.marks side ++ others)) = false :=
      factor_refuting_of_subset ((onSide_marks side l).append hothers) (by simp)
    have hr : r.holds (refuting (l.marks side ++ others)) = true :=
      holds_beside (List.Subset.refl _) hothers (fun c hc hcl => hdisjoint c hcl c hc rfl)
        fun c hc => hfree c (by simp [hc])
    simp [factor, holds, Clause.holds, hl, hr]
  | and l r ihl ihr =>
    rw [marks_and] at hnodup
    obtain ⟨hnl, hnr, hdisjoint⟩ := List.nodup_append.1 hnodup
    have hsides : l.hasOr = true ∨ r.hasOr = true := by simpa [hasOr] using hor
    rcases hsides with hl | hr
    · obtain ⟨own, hown, hparts⟩ := ihl hl hnl
      refine ⟨own, fun c hc => by simp [marks_and, hown hc], fun others hothers hfree => ?_⟩
      rw [marks_and] at hfree
      obtain ⟨hfactor, hholds⟩ := hparts others hothers fun c hc => hfree c (by simp [hc])
      have hr : r.holds (refuting (own ++ others)) = true :=
        holds_beside hown hothers (fun c hc hcl => hdisjoint c hcl c hc rfl)
          fun c hc => hfree c (by simp [hc])
      simp [factor, holds, Clause.holds, hfactor, hholds, hr]
    · obtain ⟨own, hown, hparts⟩ := ihr hr hnr
      refine ⟨own, fun c hc => by simp [marks_and, hown hc], fun others hothers hfree => ?_⟩
      rw [marks_and] at hfree
      obtain ⟨hfactor, hholds⟩ := hparts others hothers fun c hc => hfree c (by simp [hc])
      have hl : l.holds (refuting (own ++ others)) = true :=
        holds_beside hown hothers (fun c hc hcr => hdisjoint c hc c hcr rfl)
          fun c hc => hfree c (by simp [hc])
      simp [factor, holds, Clause.holds, hfactor, hholds, hl]

/-- Some assignment refutes the written forms of two formulas and keeps one that has an `or`. -/
theorem exists_refuting_both {g : Formula} (hor : f.hasOr = true)
    (hnodup : (f.marks side).Nodup) (hdisjoint : ∀ c ∈ f.marks side, c ∉ g.marks side) :
    ∃ v, f.factor.holds v = false ∧ f.holds v = true ∧ g.factor.holds v = false := by
  obtain ⟨own, hown, hparts⟩ := exists_parts hor hnodup
  have hside : OnSide side (own ++ g.marks side) :=
    (onSide_of_subset hown).append (onSide_marks side g)
  obtain ⟨hfactor, hholds⟩ := hparts (g.marks side) (onSide_marks side g) hdisjoint
  exact ⟨_, hfactor, hholds, factor_refuting_of_subset hside (by simp)⟩

/-- With an `or` below the root and no mark twice, some assignment tells the written clause from the
formula. -/
theorem exists_holds_written_ne (hor : f.hasInnerOr = true) (hnodup : (f.marks side).Nodup) :
    ∃ v, f.written.holds v ≠ f.holds v := by
  match f with
  | test t => simp [hasInnerOr] at hor
  | and l r =>
    obtain ⟨own, -, hparts⟩ := exists_parts (f := and l r) (by simpa [hasOr, hasInnerOr] using hor)
      hnodup
    obtain ⟨hfactor, hholds⟩ := hparts [] (by simp [OnSide]) (by simp)
    refine ⟨refuting (own ++ []), ?_⟩
    rw [hholds]
    simpa [written, factor, Clause.holds] using hfactor
  | or l r =>
    rw [marks_or] at hnodup
    obtain ⟨hnl, hnr, hdisjoint⟩ := List.nodup_append.1 hnodup
    have hsides : l.hasOr = true ∨ r.hasOr = true := by simpa [hasInnerOr] using hor
    rcases hsides with hl | hr
    · obtain ⟨v, hfactor, hholds, hother⟩ := exists_refuting_both (g := r) hl hnl
        fun c hc hcr => hdisjoint c hc c hcr rfl
      exact ⟨v, by simp [written, holds, Clause.holds, hfactor, hholds, hother]⟩
    · obtain ⟨v, hfactor, hholds, hother⟩ := exists_refuting_both (g := l) hr hnr
        fun c hc hcl => hdisjoint c hcl c hc rfl
      exact ⟨v, by simp [written, holds, Clause.holds, hfactor, hholds, hother]⟩

end Formula

end TagFilter
