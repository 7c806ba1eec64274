import Mathlib.Data.List.Basic
import TagFilter.Lint.Rule

/-!
# Configurations filter and relabel

A configuration comes about by changes, one after the other (`LintConfig.after`).  What they lead to
can be read off their list: a rule is off if some change turns it off, and it has the severity of
the last change that gives it one, in whatever order changes for several rules come
(`isDisabled_after`, `severityOf_after`).

To a report a configuration does nothing else.  Each rule looks at the tree alone, so the report
under any configuration is the one under the default configuration without the diagnostics of the
rules that are off and with the severities of the rules that have one of their own
(`analyze_eq_relabelled`).
-/

namespace TagFilter

/-! ## Changes of a configuration -/

namespace LintConfig

/-- A change of a configuration. -/
inductive Change where
  | disable (id : Text)
  | setSeverity (id : Text) (severity : Severity)
  deriving DecidableEq, Repr

/-- Whether a change turns a rule off. -/
def Change.turnsOff (rule : Text) : Change → Bool
  | disable id => normalize id == normalize rule
  | setSeverity _ _ => false

/-- The severity that a change gives a rule. -/
def Change.severityFor? (rule : Text) : Change → Option Severity
  | disable _ => none
  | setSeverity id severity => if normalize id = normalize rule then some severity else none

/-- The severity that the last of the changes gives a rule that give it one. -/
def lastSeverity? (changes : List Change) (rule : Text) : Option Severity :=
  (changes.filterMap (Change.severityFor? rule)).getLast?

/-- Makes a change. -/
def apply (c : LintConfig) : Change → LintConfig
  | .disable id => c.disable id
  | .setSeverity id severity => c.setSeverity id severity

/-- The default configuration after some changes. -/
def after (changes : List Change) : LintConfig := changes.foldl apply {}

variable (c : LintConfig) (rule : Text) (own : Severity)

/-! ### One change -/

theorem isDisabled_apply (change : Change) :
    (c.apply change).isDisabled rule = (change.turnsOff rule || c.isDisabled rule) := by
  cases change with
  | disable id =>
    rw [Change.turnsOff, BEq.comm, isDisabled, apply, disable, List.elem_cons, ← isDisabled]
    cases normalize rule == normalize id <;> rfl
  | setSeverity => rfl

theorem severityOf_apply (change : Change) :
    (c.apply change).severityOf rule own =
      (change.severityFor? rule).getD (c.severityOf rule own) := by
  cases change with
  | disable => rfl
  | setSeverity id severity =>
    by_cases h : normalize id = normalize rule
    · simp [apply, setSeverity, severityOf, Change.severityFor?, h]
    · have hne : (normalize rule == normalize id) = false := beq_false_of_ne (Ne.symm h)
      simp [apply, setSeverity, severityOf, Change.severityFor?, List.lookup_cons, h, hne]

/-! ### All changes -/

theorem isDisabled_foldl (changes : List Change) :
    (changes.foldl apply c).isDisabled rule =
      (changes.any (Change.turnsOff rule) || c.isDisabled rule) := by
  induction changes generalizing c with
  | nil => rfl
  | cons change changes ih =>
    rw [List.foldl_cons, ih, isDisabled_apply, List.any_cons, ← Bool.or_assoc,
      Bool.or_comm (changes.any _)]

theorem severityOf_foldl (changes : List Change) :
    (changes.foldl apply c).severityOf rule own =
      (lastSeverity? changes rule).getD (c.severityOf rule own) := by
  induction changes generalizing c with
  | nil => rfl
  | cons change changes ih =>
    rw [List.foldl_cons, ih, severityOf_apply]
    cases h : change.severityFor? rule with
    | none => simp [lastSeverity?, h]
    | some severity =>
      -- A later change for the rule prevails, and this one counts if there is none.
      have hlast : lastSeverity? (change :: changes) rule =
          some ((lastSeverity? changes rule).getD severity) := by
        simp [lastSeverity?, h, List.getLast?_cons]
      rw [hlast]
      rfl

theorem isDisabled_after (changes : List Change) :
    (after changes).isDisabled rule = changes.any (Change.turnsOff rule) := by
  have hdefault : ({} : LintConfig).isDisabled rule = false := rfl
  rw [after, isDisabled_foldl, hdefault, Bool.or_false]

theorem severityOf_after (changes : List Change) :
    (after changes).severityOf rule own = (lastSeverity? changes rule).getD own := by
  rw [after, severityOf_foldl]
  rfl

end LintConfig

/-! ## Reports -/

variable (config : LintConfig) (classifier : Option Classifier) (t : Tree)

theorem Rule.diagnostics_eq_relabelled (r : Rule) :
    r.diagnostics config classifier t =
      ((r.diagnostics {} classifier t).filter fun d => !config.isDisabled d.ruleId).map
        fun d => { d with severity := config.severityOf d.ruleId d.severity } := by
  have hon : ({} : LintConfig).isDisabled r.id = false := rfl
  have hown : ({} : LintConfig).severityOf r.id r.severity = r.severity := rfl
  unfold diagnostics
  rw [hon, hown, if_neg Bool.false_ne_true, List.filter_map, List.map_map]
  -- All diagnostics of a rule carry its name, so they stay or go together.
  cases hoff : config.isDisabled r.id with
  | true => simp [Function.comp_def, hoff]
  | false => simp [Function.comp_def, hoff]

theorem analyze_eq_relabelled :
    analyze config classifier t =
      ((analyze {} classifier t).filter fun d => !config.isDisabled d.ruleId).map
        fun d => { d with severity := config.severityOf d.ruleId d.severity } := by
  unfold analyze
  rw [List.filter_flatMap, List.map_flatMap]
  exact List.flatMap_congr fun r _ => r.diagnostics_eq_relabelled config classifier t

/-- What is kept at a threshold is the longest part of a report without anything less grave. -/
theorem sublist_atLeast_iff {threshold : Severity} {ds es : List Diagnostic} :
    es.Sublist (atLeast threshold ds) ↔
      es.Sublist ds ∧ ∀ d ∈ es, d.severity.rank ≤ threshold.rank := by
  unfold atLeast
  constructor
  · intro h
    refine ⟨h.trans List.filter_sublist, fun d hd => ?_⟩
    exact of_decide_eq_true (List.mem_filter.1 (h.subset hd)).2
  · rintro ⟨h, hgrave⟩
    have hall : es.filter (fun d => d.severity.rank ≤ threshold.rank) = es :=
      List.filter_eq_self.2 fun d hd => decide_eq_true (hgrave d hd)
    rw [← hall]
    exact h.filter _

/-- After some changes of the default configuration a report is the default report without the
diagnostics of the rules that some change turns off, and with the severity that the last change for
its rule gives a diagnostic, if there is one.  Order, messages and nodes stay as they are.  The
report at a threshold has the diagnostics in their order that are at least as grave, and no other
part of the report has more of them. -/
theorem analyze_after_changes (changes : List LintConfig.Change) :
    analyze (.after changes) classifier t =
      ((analyze {} classifier t).filter fun d => !changes.any (·.turnsOff d.ruleId)).map
        (fun d =>
          { d with severity := (LintConfig.lastSeverity? changes d.ruleId).getD d.severity }) ∧
    ∀ (threshold : Severity) (es : List Diagnostic),
      es.Sublist (atLeast threshold (analyze (.after changes) classifier t)) ↔
        es.Sublist (analyze (.after changes) classifier t) ∧
          ∀ d ∈ es, d.severity.rank ≤ threshold.rank := by
  refine ⟨?_, fun threshold es => sublist_atLeast_iff⟩
  rw [analyze_eq_relabelled]
  simp only [LintConfig.isDisabled_after, LintConfig.severityOf_after]

/-- Blanks and letter case make no difference, and the later of two severities counts. -/
example :
    let t : Tree := .op .and (.op .eq (.leaf "a") (.leaf "null")) (.op .not (.leaf "b") .absent)
    let changes : List LintConfig.Change :=
      [.disable " ex02", .setSeverity "EX01" .hint, .setSeverity "ex01 " .error]
    (analyze {} none t).map (fun d => d.severity) = [.warning, .error] ∧
      (analyze (.after changes) none t).map (fun d => d.severity) = [.error] := by
  decide +kernel

end TagFilter
