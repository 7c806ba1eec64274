import TagFilter.Proofs.Meaning

/-!
# The fragment that predicates keep

Trees of tests joined by `and`, with at most one `or`, at the root (`Sniffer.Faithful`), are rendered
without a change of meaning: the predicate is a clause of SQL that has the truth value of the tree
under every assignment (`render_faithful`).

The clause is read as SQL reads it (`Clause.sql`), with the literals of a list in the order in which
they stand there, which is not the order of the tree.  Hence the assignments are those for which the
order in a list makes no difference (`Assignment.IgnoresOrder`).
-/

namespace TagFilter

/-! ## Clauses as SQL reads them -/

/-- A condition in SQL, the literals of a list in their order. -/
def Condition.sql : Condition → Text
  | named name => "name = '" ++ name ++ "'"
  | valued (.compared column operator literal) =>
    column.name ++ " " ++ Tag.spelled operator ++ " " ++ literal
  | valued (.listed column literals) => column.name ++ " in (" ++ Text.join ", " literals ++ ")"

/-- The order of the literals in a list makes no difference. -/
def Assignment.IgnoresOrder (v : Assignment) : Prop :=
  ∀ column xs ys, xs.Perm ys → v (.valued (.listed column xs)) = v (.valued (.listed column ys))

/-- A condition with its list turned round. -/
def Condition.turned : Condition → Condition
  | valued (.listed column literals) => valued (.listed column literals.reverse)
  | c => c

theorem Condition.sql_turned (c : Condition) : c.turned.sql = c.print := by
  match c with
  | named _ => rfl
  | valued (.compared ..) => rfl
  | valued (.listed ..) => rfl

theorem Assignment.IgnoresOrder.turned {v : Assignment} (hv : v.IgnoresOrder) (c : Condition) :
    v c.turned = v c := by
  match c with
  | .named _ => rfl
  | .valued (.compared ..) => rfl
  | .valued (.listed column literals) => exact hv column _ _ literals.reverse_perm

namespace Clause

variable {level : ClauseLevel}

/-- A clause in SQL, the literals of a list in their order. -/
def sql : {level : ClauseLevel} → Clause level → Text
  | _, condition c => c.sql
  | _, group c => "(" ++ c.sql ++ ")"
  | _, single c => c.sql
  | _, and l r => l.sql ++ " and " ++ r.sql
  | _, both c => c.sql
  | _, or l r => l.sql ++ " or " ++ r.sql

/-- A clause with its lists turned round. -/
def turned : {level : ClauseLevel} → Clause level → Clause level
  | _, condition c => condition c.turned
  | _, group c => group c.turned
  | _, single c => single c.turned
  | _, and l r => and l.turned r.turned
  | _, both c => both c.turned
  | _, or l r => or l.turned r.turned

theorem sql_turned (c : Clause level) : c.turned.sql = c.print := by
  induction c with
  | condition c => exact c.sql_turned
  | group c ih | single c ih | both c ih => simp only [turned, sql, print, ih]
  | and l r ihl ihr | or l r ihl ihr => simp only [turned, sql, print, ihl, ihr]

theorem holds_turned {v : Assignment} (hv : v.IgnoresOrder) (c : Clause level) :
    c.turned.holds v = c.holds v := by
  induction c with
  | condition c => exact hv.turned c
  | group c ih | single c ih | both c ih => simp only [turned, holds, ih]
  | and l r ihl ihr | or l r ihl ihr => simp only [turned, holds, ihl, ihr]

end Clause

/-! ## Trees of tests -/

/-- The literals of a chain of list cells. -/
def Tree.cellTexts : Tree → List Text
  | .op .list (.leaf text) rest => text :: rest.cellTexts
  | _ => []

namespace Sniffer

variable {s : Sniffer}

/-- One test: a comparison or a null test of a name with a literal, or of a name with a list of
literals that belong to one column. -/
inductive Atomic (s : Sniffer) : Tree → Prop
  | compared {o name literal} : o.isCompare = true ∨ o = .is →
      Atomic s (.op o (.leaf name) (.leaf literal))
  | listed {name first rest} : (∀ literal ∈ rest, s.column literal = s.column first) →
      Atomic s (.op .among (.leaf name) (literalCells (first :: rest)))

/-- Tests joined by `and`. -/
inductive Conjunctive (s : Sniffer) : Tree → Prop
  | test {t} : s.Atomic t → Conjunctive s t
  | and {l r} : Conjunctive s l → Conjunctive s r → Conjunctive s (.op .and l r)

/-- Tests joined by `and`, or two such trees joined by `or`. -/
inductive Faithful (s : Sniffer) : Tree → Prop
  | conjunctive {t} : s.Conjunctive t → Faithful s t
  | or {l r} : s.Conjunctive l → s.Conjunctive r → Faithful s (.op .or l r)

/-- The truth value of a tree of tests.  A test is true when the tag has the name and its value in
the column of the literal is as compared. -/
def truth (s : Sniffer) (v : Assignment) : Tree → Bool
  | .op .and l r => s.truth v l && s.truth v r
  | .op .or l r => s.truth v l || s.truth v r
  | .op .among (.leaf name) items =>
    v (.named name) && v (.valued (.listed (s.column items.left.text) items.cellTexts))
  | .op o (.leaf name) (.leaf literal) =>
    v (.named name) && v (.valued (.compared (s.column literal) o literal))
  | _ => false

theorem cellTexts_literalCells (texts : List Text) : (literalCells texts).cellTexts = texts := by
  induction texts with
  | nil => rfl
  | cons text texts ih => rw [literalCells, Tree.cellTexts, ih]

/-- What a tree says has the truth value of the tree. -/
theorem Says.holds_eq_truth {t : Tree} {f : Formula} (h : s.Says t f) (v : Assignment) :
    f.holds v = s.truth v t := by
  induction h with
  | @compared o name literal ho =>
    cases o <;> first | rfl | simp [Operator.isCompare] at ho
  | @listed name first rest _ =>
    have htexts := cellTexts_literalCells (first :: rest)
    rw [literalCells] at htexts ⊢
    simp only [truth, htexts]
    rfl
  | and _ _ ihl ihr | or _ _ ihl ihr => simp only [Formula.holds, truth, ihl, ihr]

theorem Conjunctive.exists_says {t : Tree} (h : s.Conjunctive t) :
    ∃ f, s.Says t f ∧ f.hasOr = false := by
  induction h with
  | test ht =>
    cases ht with
    | compared ho => exact ⟨_, .compared ho, rfl⟩
    | listed hcolumns => exact ⟨_, .listed hcolumns, rfl⟩
  | and _ _ ihl ihr =>
    obtain ⟨f, hf, hfor⟩ := ihl
    obtain ⟨g, hg, hgor⟩ := ihr
    exact ⟨_, .and hf hg, by simp [Formula.hasOr, hfor, hgor]⟩

theorem Faithful.exists_says {t : Tree} (h : s.Faithful t) :
    ∃ f, s.Says t f ∧ f.hasInnerOr = false := by
  cases h with
  | conjunctive ht =>
    obtain ⟨f, hf, hor⟩ := ht.exists_says
    refine ⟨f, hf, ?_⟩
    cases f with
    | test => rfl
    | and => exact hor
    | or => cases hor
  | or hl hr =>
    obtain ⟨f, hf, hfor⟩ := hl.exists_says
    obtain ⟨g, hg, hgor⟩ := hr.exists_says
    exact ⟨_, .or hf hg, by simp [Formula.hasInnerOr, hfor, hgor]⟩

end Sniffer

/-- Tests joined by `and`, with `or` at the root at most, are rendered as a clause that has their
truth value under every assignment for which the order in a list makes no difference. -/
theorem render_faithful (s : Sniffer) (select : Text) {t : Tree} (h : s.Faithful t) :
    ∃ c : Clause .either, s.render select t = select ++ " where " ++ c.sql ∧
      ∀ v : Assignment, v.IgnoresOrder → c.holds v = s.truth v t := by
  obtain ⟨f, hsays, hor⟩ := h.exists_says
  refine ⟨f.written.turned, ?_, fun v hv => ?_⟩
  · rw [Sniffer.render, hsays.predicate, f.written.sql_turned]
  · rw [Clause.holds_turned hv, Formula.holds_written hor, hsays.holds_eq_truth]

/-- The list of `a = 1 and b in (1, 2) or c is null` is written with the last literal first, and the
whole is true when it should be. -/
theorem render_faithful_list :
    let t : Tree := .op .or
      (.op .and (.op .eq (.leaf "a") (.leaf "1")) (.op .among (.leaf "b") (literalCells ["1", "2"])))
      (.op .is (.leaf "c") (.leaf "null"))
    Sniffer.default.Faithful t ∧
      ∃ c : Clause .either,
        Text.ofString "q where ((name = 'a' and num_value = 1) and " ++
            "(name = 'b' and num_value in (2, 1))) or (name = 'c' and str_value is null)" =
          Text.ofString "q" ++ " where " ++ c.sql ∧
        ∀ v : Assignment, v.IgnoresOrder → c.holds v = Sniffer.default.truth v t := by
  intro t
  have hcolumns : ∀ literal ∈ [Text.ofString "2"],
      Sniffer.default.column literal = Sniffer.default.column "1" := by decide +kernel
  have h : Sniffer.default.Faithful t :=
    .or (.and (.test (.compared (.inl rfl))) (.test (.listed hcolumns)))
      (.test (.compared (.inr rfl)))
  obtain ⟨c, hrender, hholds⟩ := render_faithful Sniffer.default "q" h
  refine ⟨h, c, ?_, hholds⟩
  rw [← hrender]
  decide +kernel

end TagFilter
