import Mathlib.Tactic.Common
import TagFilter.Batch.Watch

/-!
# When a watch is up to date

A watched batch is rendered once before its file is watched.  Then notices of changes are received
one by one, arm the timer, and the batch is rendered again when it fires, while files change at any
time.  `WatchRun.Step` says what can happen next, and `WatchRun.Reached` which states a trace of
events leads to.

A change to the file while it is watched is owed a rendering until the batch has been read again
(`WatchRun.Watched`), but a change between the first rendering and the watch is owed nothing
(`WatchRun.Shown`).  So a watch at rest, with nothing to receive and no timer armed, has read the
file after its last change unless that change came in between.
-/

namespace TagFilter

/-- A file and what happened to it. -/
abbrev Notice := Text × FileChange

/-- Whether a notice says that a file may have another content. -/
def Notice.concerns (file : Text) (n : Notice) : Bool :=
  Path.clean n.1 == Path.clean file && n.2.isContent

/-- How far a watch has come. -/
inductive WatchStage where
  | idle
  | shown
  | watching
  | stopped
  deriving DecidableEq, Repr

/-- A watch and the folder it is in, with the notices that it has not received yet and all that it
has printed. -/
structure WatchRun where
  watch : Watch
  folder : Folder
  stage : WatchStage := .idle
  notices : List Notice := []
  printed : Output := {}

/-- What happens to a watch: the first rendering, the start of the watch proper, a change to some
file, the receipt of a notice, the firing of the timer, and the end. -/
inductive WatchEvent where
  | begin
  | attach
  | change (n : Notice) (folder : Folder)
  | receive
  | fire
  | stop

namespace WatchEvent

/-- Whether the batch is read. -/
def reads : WatchEvent → Bool
  | begin | fire => true
  | _ => false

/-- Whether a file may have another content. -/
def changes (file : Text) : WatchEvent → Bool
  | change n _ => n.concerns file
  | _ => false

end WatchEvent

/-- Some events end with a file unchanged since the batch was last read. -/
def Fresh (file : Text) (trace : List WatchEvent) : Prop :=
  ∃ before e after, trace = before ++ e :: after ∧ e.reads = true ∧
    ∀ x ∈ after, x.changes file = false

namespace WatchRun

/-- What can happen next.  Notices come of the changes that are made while the file is watched.  A
rendering is one step, taken when the file is read: meanwhile the watch does nothing else, and what
changes then has changed before the read or after it. -/
inductive Step : WatchRun → WatchEvent → WatchRun → Prop
  | begin {s} : s.stage = .idle →
      Step s .begin { s with stage := .shown, printed := s.printed ++ s.watch.begin s.folder }
  | attach {s} : s.stage = .shown → s.watch.problem? s.folder = none →
      Step s .attach { s with stage := .watching }
  | change {s} (n folder) :
      Step s (.change n folder) { s with
        folder := folder
        notices := if s.stage = .watching then s.notices ++ [n] else s.notices }
  | receive {s n rest} : s.stage = .watching → s.notices = n :: rest →
      Step s .receive { s with watch := s.watch.notice n.1 n.2, notices := rest }
  | fire {s} : s.stage = .watching → s.watch.pending = true →
      Step s .fire { s with
        watch := (s.watch.fire s.folder).1
        printed := s.printed ++ (s.watch.fire s.folder).2 }
  | stop {s} : s.stage = .watching → Step s .stop { s with stage := .stopped }

/-- The state that events lead to, one after the other. -/
inductive Reached (w : Watch) (folder : Folder) : List WatchEvent → WatchRun → Prop
  | start : Reached w folder [] { watch := w, folder := folder }
  | step {trace s e s'} : Reached w folder trace s → Step s e s' →
      Reached w folder (trace ++ [e]) s'

/-- A change to a file has not led to a rendering yet: the timer is armed, or a notice of the change
will arm it. -/
def Owes (file : Text) (s : WatchRun) : Prop :=
  s.watch.pending = true ∨ ∃ n ∈ s.notices, n.concerns file = true

end WatchRun

/-! ## Reading after a change -/

variable {file : Text} {trace before between since : List WatchEvent} {e : WatchEvent}

theorem fresh_concat_of_reads (h : e.reads = true) : Fresh file (trace ++ [e]) :=
  ⟨trace, e, [], rfl, h, by simp⟩

theorem fresh_concat_iff (h : e.reads = false) :
    Fresh file (trace ++ [e]) ↔ Fresh file trace ∧ e.changes file = false := by
  constructor
  · rintro ⟨before, x, after, heq, hx, hafter⟩
    rcases List.eq_nil_or_concat after with rfl | ⟨after, y, rfl⟩
    · obtain ⟨-, hlast⟩ := List.append_inj' heq rfl
      obtain rfl : e = x := by simpa using hlast
      rw [h] at hx
      cases hx
    · rw [List.concat_eq_append, ← List.cons_append, ← List.append_assoc] at heq
      obtain ⟨hinit, hlast⟩ := List.append_inj' heq rfl
      obtain rfl : e = y := by simpa using hlast
      refine ⟨⟨before, x, after, hinit, hx, fun z hz => hafter z (by simp [hz])⟩, hafter e (by simp)⟩
  · rintro ⟨⟨before, x, after, rfl, hx, hafter⟩, he⟩
    refine ⟨before, x, after ++ [e], by simp, hx, ?_⟩
    rw [List.forall_mem_append, List.forall_mem_singleton]
    exact ⟨hafter, he⟩

/-! ## What a trace says of the state it leads to -/

namespace WatchRun

/-- Nothing has been read. -/
structure Idle (file : Text) (trace : List WatchEvent) (s : WatchRun) : Prop where
  stage : s.stage = .idle
  begins : .begin ∉ trace
  owes : ¬ s.Owes file

/-- The batch was rendered once but its file is not watched yet: the watch is up to date as long as
the file does not change, and nothing is owed when it does. -/
structure Shown (file : Text) (before between : List WatchEvent) (s : WatchRun) : Prop where
  stage : s.stage = .shown
  begins : .begin ∉ before
  attaches : .attach ∉ between
  owes : ¬ s.Owes file
  fresh : Fresh file (before ++ .begin :: between) ↔ ∀ x ∈ between, x.changes file = false

/-- The file is watched: a change is owed a rendering until the batch has been read again, and
without one nothing is rendered. -/
structure Watched (file : Text) (before between since : List WatchEvent) (s : WatchRun) :
    Prop where
  stage : s.stage = .watching
  begins : .begin ∉ before
  attaches : .attach ∉ between
  changed : (∃ x ∈ since, x.changes file = true) →
    s.Owes file ∨ Fresh file (before ++ .begin :: between ++ .attach :: since)
  unchanged : (∀ x ∈ since, x.changes file = false) → ¬ s.Owes file ∧
    (Fresh file (before ++ .begin :: between ++ .attach :: since) ↔
      ∀ x ∈ between, x.changes file = false)

/-- A trace and the state it leads to, by stage. -/
inductive Tracks (file : Text) : List WatchEvent → WatchRun → Prop
  | idle {trace s} : Idle file trace s → Tracks file trace s
  | shown {before between s} : Shown file before between s →
      Tracks file (before ++ .begin :: between) s
  | watched {before between since s} : Watched file before between since s →
      Tracks file (before ++ .begin :: between ++ .attach :: since) s
  | stopped {trace s} : s.stage = .stopped → Tracks file trace s

variable {w : Watch} {folder : Folder} {s s' : WatchRun}

theorem Step.path (h : Step s e s') : s'.watch.path = s.watch.path := by
  cases h with
  | fire =>
    unfold Watch.fire
    split <;> rfl
  | _ => rfl

theorem Reached.path (h : Reached w folder trace s) : s.watch.path = w.path := by
  induction h with
  | start => rfl
  | step _ hstep ih => exact hstep.path.trans ih

theorem Idle.step (hs : Idle file trace s) (h : Step s e s') : Tracks file (trace ++ [e]) s' := by
  cases h with
  | begin =>
    have hfresh : Fresh file (trace ++ [.begin]) := fresh_concat_of_reads rfl
    exact .shown ⟨rfl, hs.begins, List.not_mem_nil, hs.owes, fun _ => by simp, fun _ => hfresh⟩
  | change n folder =>
    refine .idle ⟨hs.stage, by simp [hs.begins], ?_⟩
    rw [hs.stage]
    exact hs.owes
  | attach hstage | receive hstage | fire hstage | stop hstage => cases hs.stage.symm.trans hstage

theorem Shown.step (hs : Shown file before between s) (h : Step s e s') :
    Tracks file (before ++ .begin :: between ++ [e]) s' := by
  cases h with
  | attach =>
    refine .watched ⟨rfl, hs.begins, hs.attaches, fun h => by simp at h, fun _ => ⟨hs.owes, ?_⟩⟩
    rw [fresh_concat_iff rfl, hs.fresh]
    exact and_iff_left rfl
  | change n folder =>
    rw [List.append_assoc, List.cons_append]
    refine .shown ⟨hs.stage, hs.begins, by simp [hs.attaches], ?_, ?_⟩
    · rw [hs.stage]
      exact hs.owes
    · rw [← List.cons_append, ← List.append_assoc, fresh_concat_iff rfl, hs.fresh,
        List.forall_mem_append, List.forall_mem_singleton]
  | begin hstage | receive hstage | fire hstage | stop hstage => cases hs.stage.symm.trans hstage

/-- A change is owed from now on, and receiving a notice leaves what is owed as it is. -/
theorem Step.owes_iff (h : Step s e s') (hfile : s.watch.path = file) (hstage : s.stage = .watching)
    (hreads : e.reads = false) : s'.Owes file ↔ s.Owes file ∨ e.changes file = true := by
  unfold Owes
  cases h with
  | begin | fire => cases hreads
  | attach hs => cases hstage.symm.trans hs
  | change n _ => simp [hstage, WatchEvent.changes, or_assoc, or_and_right, exists_or]
  | @receive n rest _ hnotices =>
    have hpending : (s.watch.notice n.1 n.2).pending = (s.watch.pending || n.concerns file) := by
      rw [← hfile]
      rfl
    simp [hpending, hnotices, WatchEvent.changes, or_assoc]
  | stop => simp [WatchEvent.changes]

/-- An event that reads nothing makes the watch owe what it changes. -/
theorem Watched.concat (hs : Watched file before between since s) (hstage : s'.stage = .watching)
    (hreads : e.reads = false) (howes : s'.Owes file ↔ s.Owes file ∨ e.changes file = true) :
    Watched file before between (since ++ [e]) s' := by
  have htrace : before ++ .begin :: between ++ .attach :: (since ++ [e]) =
      before ++ .begin :: between ++ .attach :: since ++ [e] := by simp
  refine ⟨hstage, hs.begins, hs.attaches, ?_, ?_⟩
  · rintro ⟨x, hx, hchanges⟩
    rw [htrace, fresh_concat_iff hreads, howes]
    cases hlast : e.changes file with
    | true => exact .inl (.inr rfl)
    | false =>
      rcases List.mem_append.1 hx with hx | hx
      · rcases hs.changed ⟨x, hx, hchanges⟩ with h | h
        · exact .inl (.inl h)
        · exact .inr ⟨h, rfl⟩
      · rw [List.mem_singleton.1 hx, hlast] at hchanges
        cases hchanges
  · intro h
    rw [List.forall_mem_append, List.forall_mem_singleton] at h
    obtain ⟨hnothing, hfresh⟩ := hs.unchanged h.1
    rw [htrace, fresh_concat_iff hreads, hfresh, howes]
    exact ⟨by simp [hnothing, h.2], and_iff_left h.2⟩

/-- The timer is armed only by a change, so the batch is read after one. -/
theorem Watched.fire (hs : Watched file before between since s) (hpending : s.watch.pending = true)
    (hstage : s'.stage = .watching) :
    Watched file before between (since ++ [.fire]) s' := by
  have hchange : ¬ ∀ x ∈ since, x.changes file = false :=
    fun h => (hs.unchanged h).1 (.inl hpending)
  have hfresh : Fresh file (before ++ .begin :: between ++ .attach :: since ++ [.fire]) :=
    fresh_concat_of_reads rfl
  refine ⟨hstage, hs.begins, hs.attaches, fun _ => .inr (by simpa using hfresh), ?_⟩
  intro h
  rw [List.forall_mem_append] at h
  exact absurd h.1 hchange

theorem Watched.step (hs : Watched file before between since s) (hfile : s.watch.path = file)
    (h : Step s e s') :
    Tracks file (before ++ .begin :: between ++ .attach :: since ++ [e]) s' := by
  have hnext : ∀ {x s'}, Watched file before between (since ++ [x]) s' →
      Tracks file (before ++ .begin :: between ++ .attach :: since ++ [x]) s' := by
    intro x s' h
    rw [List.append_assoc, List.cons_append]
    exact .watched h
  cases h with
  | begin hstage | attach hstage => cases hs.stage.symm.trans hstage
  | change n folder =>
    exact hnext (hs.concat hs.stage rfl (Step.owes_iff (.change n folder) hfile hs.stage rfl))
  | receive hstage hnotices =>
    have hstep := Step.receive hstage hnotices
    exact hnext (hs.concat hs.stage rfl (hstep.owes_iff hfile hs.stage rfl))
  | fire _ hpending => exact hnext (hs.fire hpending hs.stage)
  | stop => exact .stopped rfl

theorem Reached.tracks (h : Reached w folder trace s) (hpending : w.pending = false) :
    Tracks w.path trace s := by
  induction h with
  | start =>
    refine .idle ⟨rfl, List.not_mem_nil, ?_⟩
    simp [Owes, hpending]
  | step hreached hstep ih =>
    cases ih with
    | idle hs => exact hs.step hstep
    | shown hs => exact hs.step hstep
    | watched hs => exact hs.step hreached.path hstep
    | stopped hstage =>
      cases hstep with
      | change => exact .stopped hstage
      | begin hs | attach hs | receive hs | fire hs | stop hs => cases hstage.symm.trans hs

end WatchRun

/-- A watch at rest, with no notice to receive and no timer armed, has read its file after the last
change to it, unless the file changed after the first rendering and before it was watched, and has
not changed since. -/
theorem watch_fresh_iff {w : Watch} {folder : Folder} {trace : List WatchEvent} {s : WatchRun}
    (hpending : w.pending = false) (h : WatchRun.Reached w folder trace s)
    (hstage : s.stage = .watching) (hnotices : s.notices = []) (htimer : s.watch.pending = false) :
    ∃ before between since, trace = before ++ .begin :: between ++ .attach :: since ∧
      .begin ∉ before ∧ .attach ∉ between ∧
      (Fresh w.path trace ↔ (∀ x ∈ between, x.changes w.path = false) ∨
        ∃ x ∈ since, x.changes w.path = true) := by
  have howes : ¬ s.Owes w.path := by simp [WatchRun.Owes, hnotices, htimer]
  cases h.tracks hpending with
  | idle hs => cases hs.stage.symm.trans hstage
  | shown hs => cases hs.stage.symm.trans hstage
  | stopped hs => cases hs.symm.trans hstage
  | @watched before between since _ hs =>
    refine ⟨before, between, since, rfl, hs.begins, hs.attaches, ?_⟩
    by_cases hchange : ∃ x ∈ since, x.changes w.path = true
    · have hfresh := (hs.changed hchange).resolve_left howes
      exact ⟨fun _ => .inr hchange, fun _ => hfresh⟩
    · have hunchanged : ∀ x ∈ since, x.changes w.path = false := by
        simpa using hchange
      rw [(hs.unchanged hunchanged).2]
      exact ⟨.inl, fun h => h.resolve_right hchange⟩

/-- A change right before the file is watched: the watch is at rest and still shows what it read
first. -/
theorem watch_fresh_iff_missed_change :
    let c : Context := ⟨{ statement := "q" }, Sniffer.default, ⟨.text, false⟩, {}⟩
    let w : Watch := ⟨c, "f.txt", false⟩
    let old := Folder.ofFiles [("f.txt", "a = 1\n")]
    let new := Folder.ofFiles [("f.txt", "b = 2\n")]
    let trace := [.begin, .change ("f.txt", .written) new, .attach]
    ∃ s, WatchRun.Reached w old trace s ∧ s.stage = .watching ∧ s.notices = [] ∧
      s.watch.pending = false ∧ s.printed = w.begin old ∧ w.begin s.folder ≠ w.begin old ∧
      ¬ Fresh w.path trace := by
  intro c w old new trace
  have hattach : w.problem? new = none := by decide +kernel
  have hdiffers : w.begin new ≠ w.begin old := by decide +kernel
  have hreached : WatchRun.Reached w old trace ⟨w, new, .watching, [], w.begin old⟩ :=
    .step (.step (.step .start (.begin rfl)) (.change ("f.txt", .written) new)) (.attach rfl hattach)
  refine ⟨_, hreached, rfl, rfl, rfl, rfl, hdiffers, ?_⟩
  obtain ⟨before, between, since, htrace, hbegin, -, hfresh⟩ :=
    watch_fresh_iff rfl hreached rfl rfl rfl
  -- The first rendering is the first event, and the file is watched from the third one on.
  cases before with
  | nil =>
    rcases between with _ | ⟨y, _ | ⟨z, between⟩⟩ <;> simp [trace] at htrace
    obtain ⟨rfl, rfl⟩ := htrace
    rw [hfresh]
    decide +kernel
  | cons x before => simp [← (List.cons.inj htrace).1] at hbegin

end TagFilter
