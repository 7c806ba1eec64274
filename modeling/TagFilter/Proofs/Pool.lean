import Mathlib.Algebra.Ring.Nat
import Mathlib.Data.PNat.Defs
import Mathlib.Tactic.Common

/-!
# Pools of tasks

A job has a task for every item.  The tasks are started in the order of the items, at most so many
at a time, and from then on they go on side by side: each looks once whether the job was cancelled,
and if not it writes the result of its item into its own slot.  A `Step` is one action of one task,
or a cancellation, and a `Run` takes the steps in any order.

What a step preserves (`Step.sound`) holds along every run, so whatever the schedule the answer of a
job is either the results of all items in their order or the cause of a cancellation
(`Run.answer`).  Every run comes to an answer: as long as there is none some task can go on
(`Sound.progress`), and the tasks take no more than four steps for each item (`Run.work_le`).
`Job.gives_map` puts this together.
-/

namespace TagFilter

/-- Where a task is.  It looks whether the job was cancelled, writes its result, returns, with or
without a failure, and makes room for another one. -/
inductive Phase (ε : Type) where
  | started
  | admitted
  | returned (failure? : Option ε)
  | finished
  deriving DecidableEq, Repr

/-- The steps that are left to a task. -/
def Phase.weight {ε : Type} : Phase ε → Nat
  | started => 3
  | admitted => 2
  | returned _ => 1
  | finished => 0

/-- What a pool works on: the items, what is made of one, what a slot holds before, and how many
tasks there may be at a time. -/
structure Job (α β : Type) where
  items : List α
  work : α → β
  blank : β
  limit? : Option ℕ+

/-- The tasks that were started, the slots for the results, why the job was cancelled if it was, and
the failure that was reported first. -/
structure Pool (β ε : Type) where
  phases : List (Phase ε)
  results : List β
  cause? : Option ε
  failure? : Option ε

namespace Pool

variable {α β ε : Type}

/-- What can happen next. -/
inductive Action (ε : Type) where
  | start
  | check (i : Nat)
  | write (i : Nat)
  | finish (i : Nat)
  | cancel (cause : ε)
  deriving DecidableEq, Repr

/-- Whether an action is one of the job itself. -/
def Action.isWork : Action ε → Bool
  | cancel _ => false
  | _ => true

/-- Whether there is room for one more task. -/
def HasRoom (limit? : Option ℕ+) (p : Pool β ε) : Prop :=
  ∀ n ∈ limit?, p.phases.countP (fun phase => phase.weight != 0) < n

/-- The pool of a job before its first step. -/
def start (job : Job α β) : Pool β ε :=
  ⟨[], List.replicate job.items.length job.blank, none, none⟩

/-- The steps of a pool. -/
inductive Step (job : Job α β) : Pool β ε → Action ε → Pool β ε → Prop
  | start {p} : p.phases.length < job.items.length → p.HasRoom job.limit? →
      Step job p .start { p with phases := p.phases ++ [.started] }
  | enter {p i} : p.phases[i]? = some Phase.started → p.cause? = none →
      Step job p (.check i) { p with phases := p.phases.set i .admitted }
  | refuse {p i e} : p.phases[i]? = some Phase.started → p.cause? = some e →
      Step job p (.check i) { p with phases := p.phases.set i (.returned (some e)) }
  | write {p i item} : p.phases[i]? = some Phase.admitted → job.items[i]? = some item →
      Step job p (.write i) { p with
        phases := p.phases.set i (.returned none), results := p.results.set i (job.work item) }
  | finish {p i failure?} : p.phases[i]? = some (Phase.returned failure?) →
      Step job p (.finish i) { p with
        phases := p.phases.set i .finished, failure? := p.failure?.or failure? }
  | cancel {p e} : Step job p (.cancel e) { p with cause? := p.cause?.or (some e) }

/-- The steps of a schedule, one after the other. -/
inductive Run (job : Job α β) : Pool β ε → List (Action ε) → Pool β ε → Prop
  | done {p} : Run job p [] p
  | step {p q r a schedule} : Step job p a q → Run job q schedule r → Run job p (a :: schedule) r

/-- What a job gives when all of its tasks are finished: the first failure, or the results. -/
def answer? (job : Job α β) (p : Pool β ε) : Option (Except ε (List β)) :=
  if p.phases.length = job.items.length ∧ ∀ phase ∈ p.phases, phase.weight = 0 then
    some (match p.failure? with
      | some e => .error e
      | none => .ok p.results)
  else none

/-! ## What holds along every run -/

/-- What a task has done in a phase: its slot is filled once it has returned without a failure, and
a failure is the cause of a cancellation. -/
def Did (job : Job α β) (p : Pool β ε) (i : Nat) : Phase ε → Prop
  | .started => True
  | .admitted => True
  | .returned none => p.results[i]? = job.items[i]?.map job.work
  | .returned (some e) => p.cause? = some e
  | .finished => p.failure? = none → p.results[i]? = job.items[i]?.map job.work

/-- What holds of a pool along every run of a job. -/
structure Sound (job : Job α β) (p : Pool β ε) : Prop where
  tasks : p.phases.length ≤ job.items.length
  slots : p.results.length = job.items.length
  did : ∀ i phase, p.phases[i]? = some phase → p.Did job i phase
  failure : ∀ e, p.failure? = some e → p.cause? = some e

theorem sound_start (job : Job α β) : Sound job (start job : Pool β ε) where
  tasks := Nat.zero_le _
  slots := List.length_replicate
  did := by
    intro i phase h
    cases h
  failure := by
    intro e h
    cases h

variable {job : Job α β} {p q r : Pool β ε} {a : Action ε} {schedule : List (Action ε)}

/-- A task keeps what it has done while the others go on. -/
theorem Did.mono {i : Nat} {phase : Phase ε} (h : p.Did job i phase)
    (hresult : q.results[i]? = p.results[i]?) (hcause : ∀ e, p.cause? = some e → q.cause? = some e)
    (hfailure : q.failure? = none → p.failure? = none) : q.Did job i phase := by
  cases phase with
  | started | admitted => trivial
  | returned failure? =>
    cases failure? with
    | none => exact hresult.trans h
    | some e => exact hcause e h
  | finished => exact fun hq => hresult.trans (h (hfailure hq))

/-- A step of one task: it has done what its phase says, and the other slots are as they were. -/
theorem Sound.set (hp : Sound job p) {i : Nat} {phase : Phase ε}
    (hphases : q.phases = p.phases.set i phase) (hslots : q.results.length = p.results.length)
    (hothers : ∀ j, j ≠ i → q.results[j]? = p.results[j]?) (hcause : q.cause? = p.cause?)
    (hkept : q.failure? = none → p.failure? = none)
    (hfailure : ∀ e, q.failure? = some e → q.cause? = some e)
    (hdid : q.Did job i phase) : Sound job q where
  tasks := by
    rw [hphases, List.length_set]
    exact hp.tasks
  slots := hslots.trans hp.slots
  did := by
    intro j phase' hj
    rw [hphases] at hj
    by_cases hij : j = i
    · subst hij
      have hphase : phase' = phase := by
        rw [List.getElem?_set_self'] at hj
        cases hold : p.phases[j]? <;> rw [hold] at hj <;> cases hj
        rfl
      exact hphase ▸ hdid
    · rw [List.getElem?_set_ne (Ne.symm hij)] at hj
      exact (hp.did j phase' hj).mono (hothers j hij) (fun e he => hcause.trans he) hkept
  failure := hfailure

theorem Step.sound (h : Step job p a q) (hp : Sound job p) : Sound job q := by
  cases h with
  | start hlt _ =>
    refine ⟨?_, hp.slots, ?_, hp.failure⟩
    · rw [List.length_append]
      exact hlt
    · intro i phase hi
      by_cases hold : i < p.phases.length
      · rw [List.getElem?_append_left hold] at hi
        exact (hp.did i phase hi).mono rfl (fun _ he => he) (fun hq => hq)
      · rw [List.getElem?_append_right (by omega)] at hi
        obtain rfl := List.mem_singleton.1 (List.mem_of_getElem? hi)
        trivial
  | enter hi hcause => exact hp.set rfl rfl (fun _ _ => rfl) rfl id hp.failure trivial
  | refuse hi hcause => exact hp.set rfl rfl (fun _ _ => rfl) rfl id hp.failure hcause
  | @write i item hi hitem =>
    have hslot : i < p.results.length := by
      have hlt := (List.getElem?_eq_some_iff.1 hitem).1
      have hslots := hp.slots
      omega
    refine hp.set rfl List.length_set ?_ rfl id hp.failure ?_
    · exact fun j hj => List.getElem?_set_ne (Ne.symm hj)
    · show (p.results.set i (job.work item))[i]? = _
      rw [List.getElem?_set_self hslot, hitem]
      rfl
  | @finish i failure? hi =>
    have hdid := hp.did i _ hi
    refine hp.set rfl rfl (fun _ _ => rfl) rfl ?_ ?_ ?_
    · intro h
      exact (Option.or_eq_none_iff.1 h).1
    · intro e h
      cases hold : p.failure? with
      | none =>
        rw [hold, Option.none_or] at h
        subst h
        exact hdid
      | some e' =>
        rw [hold, Option.some_or] at h
        exact hp.failure e (hold.trans h)
    · intro h
      obtain ⟨-, hnone⟩ := Option.or_eq_none_iff.1 h
      subst hnone
      exact hdid
  | cancel =>
    have hcause : ∀ e e', p.cause? = some e → p.cause?.or (some e') = some e := by
      intro e e' h
      rw [h, Option.some_or]
    refine ⟨hp.tasks, hp.slots, ?_, fun e he => hcause e _ (hp.failure e he)⟩
    exact fun i phase hi => (hp.did i phase hi).mono rfl (fun e he => hcause e _ he) id

theorem Run.sound (h : Run job p schedule q) (hp : Sound job p) : Sound job q := by
  induction h with
  | done => exact hp
  | step hstep _ ih => exact ih (hstep.sound hp)

/-- A job is cancelled from outside only. -/
theorem Run.cancelled (h : Run job p schedule q) {e : ε} (hq : q.cause? = some e) :
    p.cause? = some e ∨ .cancel e ∈ schedule := by
  induction h with
  | done => exact .inl hq
  | @step p _ _ _ _ hstep _ ih =>
    rcases ih hq with hcause | hmem
    · cases hstep with
      | cancel =>
        rcases Option.or_eq_some_iff.1 hcause with hold | ⟨-, hnew⟩
        · exact .inl hold
        · cases hnew
          exact .inr List.mem_cons_self
      | _ => exact .inl hcause
    · exact .inr (List.mem_cons_of_mem _ hmem)

/-! ## Answers -/

theorem Sound.results (hp : Sound job p) (hall : p.phases.length = job.items.length)
    (hfinished : ∀ phase ∈ p.phases, phase.weight = 0) (hfailure : p.failure? = none) :
    p.results = job.items.map job.work := by
  refine List.ext_getElem? fun i => ?_
  rw [List.getElem?_map]
  by_cases hi : i < job.items.length
  · obtain ⟨phase, hphase⟩ : ∃ phase, p.phases[i]? = some phase :=
      ⟨_, List.getElem?_eq_getElem (hall ▸ hi)⟩
    have hweight := hfinished phase (List.mem_of_getElem? hphase)
    have hdid := hp.did i phase hphase
    cases phase with
    | finished => exact hdid hfailure
    | _ => cases hweight
  · have hslots := hp.slots
    rw [List.getElem?_eq_none (by omega), List.getElem?_eq_none (by omega)]
    rfl

/-- Whatever the schedule, the answer is the results of all items in their order, or the cause of a
cancellation. -/
theorem Run.answer (h : Run job (start job) schedule p) {r : Except ε (List β)}
    (hr : p.answer? job = some r) :
    r = .ok (job.items.map job.work) ∨ ∃ e, r = .error e ∧ .cancel e ∈ schedule := by
  have hp := h.sound (sound_start job)
  unfold answer? at hr
  split at hr
  next hdone =>
    obtain rfl := Option.some.inj hr
    cases hfailure : p.failure? with
    | none => exact .inl (congrArg Except.ok (hp.results hdone.1 hdone.2 hfailure))
    | some e =>
      rcases h.cancelled (hp.failure e hfailure) with hstart | hmem
      · cases hstart
      · exact .inr ⟨e, rfl, hmem⟩
  · cases hr

/-! ## Coming to an answer -/

/-- The steps that are left to a job. -/
def left (job : Job α β) (p : Pool β ε) : Nat :=
  4 * (job.items.length - p.phases.length) + (p.phases.map Phase.weight).sum

theorem sum_weight_set {phases : List (Phase ε)} {i : Nat} {old : Phase ε}
    (h : phases[i]? = some old) (new : Phase ε) :
    ((phases.set i new).map Phase.weight).sum + old.weight =
      (phases.map Phase.weight).sum + new.weight := by
  induction phases generalizing i with
  | nil => cases h
  | cons phase phases ih =>
    cases i with
    | zero =>
      obtain rfl := Option.some.inj h
      simp only [List.set_cons_zero, List.map_cons, List.sum_cons]
      omega
    | succ i =>
      have hrest := ih h
      simp only [List.set_cons_succ, List.map_cons, List.sum_cons]
      omega

theorem left_set {i : Nat} {old new : Phase ε} (hi : p.phases[i]? = some old)
    (hq : q.phases = p.phases.set i new) (hlt : new.weight < old.weight) :
    q.left job + 1 ≤ p.left job := by
  have hsum := sum_weight_set hi new
  unfold Pool.left
  rw [hq, List.length_set]
  omega

theorem Step.left (h : Step job p a q) : q.left job + (if a.isWork then 1 else 0) ≤ p.left job := by
  cases h with
  | start hlt _ =>
    simp only [Pool.left, List.length_append, List.length_singleton, List.map_append,
      List.sum_append, List.map_singleton, List.sum_singleton, Phase.weight, Action.isWork, if_true]
    omega
  | enter hi _ | refuse hi _ | write hi _ | finish hi =>
    exact left_set hi rfl (by simp [Phase.weight])
  | cancel => exact Nat.le_refl _

theorem Run.left (h : Run job p schedule q) :
    q.left job + schedule.countP Action.isWork ≤ p.left job := by
  induction h with
  | done => exact Nat.le_refl _
  | step hstep _ ih =>
    have hfirst := hstep.left
    rw [List.countP_cons]
    omega

/-- A job takes no more than four steps for each item. -/
theorem Run.work_le (h : Run job (start job) schedule p) :
    schedule.countP Action.isWork ≤ 4 * job.items.length := by
  have hleft := h.left
  have hstart : (start job : Pool β ε).left job = 4 * job.items.length := by
    simp [Pool.left, start]
  omega

/-- A task that is not finished can go on. -/
theorem Sound.go_on (hp : Sound job p) {i : Nat} {phase : Phase ε} (hi : p.phases[i]? = some phase)
    (hweight : phase.weight ≠ 0) : ∃ a q, a.isWork = true ∧ Step job p a q := by
  cases phase with
  | started =>
    cases hcause : p.cause? with
    | none => exact ⟨_, _, rfl, .enter hi hcause⟩
    | some e => exact ⟨_, _, rfl, .refuse hi hcause⟩
  | admitted =>
    have hlt : i < job.items.length := by
      have hphases := (List.getElem?_eq_some_iff.1 hi).1
      have htasks := hp.tasks
      omega
    exact ⟨_, _, rfl, .write hi (List.getElem?_eq_getElem hlt)⟩
  | returned failure? => exact ⟨_, _, rfl, .finish hi⟩
  | finished => exact absurd rfl hweight

/-- A job without an answer can go on, whatever the limit. -/
theorem Sound.progress (hp : Sound job p) (hnone : p.answer? job = none) :
    ∃ a q, a.isWork = true ∧ Step job p a q := by
  by_cases hbusy : ∃ phase ∈ p.phases, phase.weight ≠ 0
  · obtain ⟨phase, hphase, hweight⟩ := hbusy
    obtain ⟨i, hi⟩ := List.mem_iff_getElem?.1 hphase
    exact hp.go_on hi hweight
  · have hfinished : ∀ phase ∈ p.phases, phase.weight = 0 := by
      intro phase hphase
      by_contra hweight
      exact hbusy ⟨phase, hphase, hweight⟩
    have hlt : p.phases.length < job.items.length := by
      have htasks := hp.tasks
      by_contra hge
      rw [answer?, if_pos ⟨by omega, hfinished⟩] at hnone
      cases hnone
    have hroom : p.HasRoom job.limit? := by
      intro n _
      have hidle : p.phases.countP (fun phase => phase.weight != 0) = 0 := by
        rw [List.countP_eq_zero]
        intro phase hphase
        simp [hfinished phase hphase]
      rw [hidle]
      exact n.pos
    exact ⟨_, _, rfl, .start hlt hroom⟩

/-- From wherever a job is, its own steps lead to an answer. -/
theorem Sound.exists_answer (hp : Sound job p) :
    ∃ schedule q, (∀ a ∈ schedule, a.isWork = true) ∧ Run job p schedule q ∧
      (q.answer? job).isSome = true := by
  induction hleft : p.left job using Nat.strong_induction_on generalizing p with
  | _ n ih =>
    cases hanswer : p.answer? job with
    | some r => exact ⟨[], p, by simp, .done, by rw [hanswer]; rfl⟩
    | none =>
      obtain ⟨a, q, ha, hstep⟩ := hp.progress hanswer
      have hless := hstep.left
      rw [if_pos ha] at hless
      obtain ⟨schedule, r, hwork, hrun, hr⟩ := ih (q.left job) (by omega) (hstep.sound hp) rfl
      refine ⟨a :: schedule, r, ?_, .step hstep hrun, hr⟩
      rw [List.forall_mem_cons]
      exact ⟨ha, hwork⟩

end Pool

open Pool in
/-- Whatever the schedule, a job gives some results, or else the cause of a cancellation: from
wherever it is its own steps lead to an answer, and it takes at most four of them for each item. -/
structure Job.Gives {α β : Type} (job : Job α β) (results : List β) (ε : Type) : Prop where
  answer : ∀ (schedule : List (Action ε)) (p : Pool β ε) (r : Except ε (List β)),
    Run job (start job) schedule p → p.answer? job = some r →
      r = .ok results ∨ ∃ e, r = .error e ∧ .cancel e ∈ schedule
  returns : ∀ (schedule : List (Action ε)) (p : Pool β ε), Run job (start job) schedule p →
    ∃ rest q, (∀ a ∈ rest, a.isWork = true) ∧ Run job p rest q ∧ (q.answer? job).isSome = true
  bounded : ∀ (schedule : List (Action ε)) (p : Pool β ε), Run job (start job) schedule p →
    schedule.countP Action.isWork ≤ 4 * job.items.length

theorem Job.gives_map {α β : Type} (job : Job α β) (ε : Type) :
    job.Gives (job.items.map job.work) ε where
  answer := fun _ _ _ hrun hr => hrun.answer hr
  returns := fun _ _ hrun => (hrun.sound (Pool.sound_start job)).exists_answer
  bounded := fun _ _ hrun => hrun.work_le

end TagFilter
