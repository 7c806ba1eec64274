import TagFilter.Proofs.SeedRows

/-!
# Calls that add tags, statement by statement

A store is a value, so a call that fails has no store to give back and leaves the old one as it is.
A database is not: rows go into it one after the other, and a call may fail after any of them.  Here
calls are sent to a `Connection` statement by statement.  Tags that are put go straight into the
table; those of a seed go through a transaction, which is rolled back if anything is wrong with a
later one.

Inside a transaction the statements come to what the store operation comes to (`Work.Mirrors`), so
a whole transaction does that or nothing (`Work.transaction_done`, `Work.transaction_failed`), and
so does every call (`Call.comes`).  Over any run of calls the table only grows, by well-formed rows.

Nothing is said about documents: a call comes with a way to decode its seed.
-/

namespace TagFilter

/-! ## Connections -/

/-- A connection to the tag table.  What an open transaction has done is not in the table before it
is committed. -/
structure Connection where
  table : List Row
  pending? : Option (List Row) := none
  deriving DecidableEq, Repr

namespace Connection

/-- Opens a transaction. -/
def begin (c : Connection) : Connection := { c with pending? := some c.table }

/-- Adds a row: to the open transaction, or to the table if there is none. -/
def insert (r : Row) (c : Connection) : Connection :=
  match c.pending? with
  | some rows => { c with pending? := some (rows ++ [r]) }
  | none => { c with table := c.table ++ [r] }

/-- Makes what the transaction has done the table. -/
def commit (c : Connection) : Connection :=
  match c.pending? with
  | some rows => ⟨rows, none⟩
  | none => c

/-- Gives up what the transaction has done; nothing if it has been committed. -/
def rollback (c : Connection) : Connection := { c with pending? := none }

end Connection

/-- Work on a connection.  Where it fails, the statements sent before have been carried out. -/
abbrev Work := ExceptT StoreError (StateM Connection)

namespace Work

variable {α β : Type}

/-- The outcome of work and the connection after it. -/
def on (w : Work α) (c : Connection) : Except StoreError α × Connection := (ExceptT.run w).run c

theorem on_bind (w : Work α) (k : α → Work β) (c : Connection) :
    on (w >>= k) c =
      match on w c with
      | (.ok a, c) => on (k a) c
      | (.error e, c) => (.error e, c) := by
  unfold on
  rw [ExceptT.run_bind, StateT.run_bind]
  cases (ExceptT.run w).run c with
  | mk r c => cases r <;> rfl

theorem on_adapt (f : StoreError → StoreError) (w : Work α) (c : Connection) :
    on (w.adapt f) c = ((on w c).1.mapError f, (on w c).2) := rfl

/-! ## The statements of a call -/

/-- Adds a tag. -/
def insertTag (t : NewTag) : Work Unit :=
  match t.row with
  | .ok r => modify (·.insert r)
  | .error p => throw (.tag p)

/-- Adds the tags of one entry, and counts them. -/
def insertTags (classify : Text → Text) (entry : Text) : List SeedTag → Work Nat
  | [] => pure 0
  | t :: ts => do
    insertTag ⟨entry, t.name, classify t.literal, t.value⟩
    let n ← insertTags classify entry ts
    return n + 1

/-- Adds an entry: the number of its tags, and the number of ids that were given. -/
def insertEntry (classify : Text → Text) (issued : Nat) (e : SeedEntry) : Work (Nat × Nat) :=
  match e.tags with
  | .error p => throw (.tags p)
  | .ok tags => do
    let n ← insertTags classify (if e.id.isEmpty then Store.freshId issued else e.id) tags
    return (n, if e.id.isEmpty then issued + 1 else issued)

/-- Adds entries, of which the first one has an index: the number of their tags, and the number of
ids that were given. -/
def insertEntries (classify : Text → Text) (index issued : Nat) :
    List SeedEntry → Work (Nat × Nat)
  | [] => pure (0, issued)
  | e :: es => do
    let (n, issued) ← (insertEntry classify issued e).adapt (.entry index)
    let (m, issued) ← insertEntries classify (index + 1) issued es
    return (n + m, issued)

/-- Does work in a transaction, which is committed if the work is done and rolled back whatever
comes of it. -/
def transaction (w : Work α) : Work α :=
  ExceptT.mk fun c =>
    match on w c.begin with
    | (.ok a, c) => (.ok a, c.commit.rollback)
    | (.error e, c) => (.error e, c.rollback)

theorem on_transaction (w : Work α) (c : Connection) :
    on (transaction w) c =
      match on w c.begin with
      | (.ok a, c) => (.ok a, c.commit.rollback)
      | (.error e, c) => (.error e, c.rollback) := rfl

/-! ## What the statements do -/

/-- Work that starts in a transaction on some rows leaves the table alone and comes to what an
operation on the database with these rows comes to. -/
inductive Mirrors (w : Work α) (rows : List Row) : Except StoreError (Database × α) → Prop
  | done {a : α} {rows' : List Row} :
      (∀ table, on w ⟨table, some rows⟩ = (.ok a, ⟨table, some rows'⟩)) →
      Mirrors w rows (.ok (⟨true, rows'⟩, a))
  | failed {e : StoreError} (rows' : List Row) :
      (∀ table, on w ⟨table, some rows⟩ = (.error e, ⟨table, some rows'⟩)) →
      Mirrors w rows (.error e)

theorem Mirrors.of_on {v : Work β} {rows' : List Row} {r : Except StoreError (Database × β)}
    (h : Mirrors v rows' r) {w : Work β} {rows : List Row}
    (hw : ∀ table, on w ⟨table, some rows⟩ = on v ⟨table, some rows'⟩) : Mirrors w rows r := by
  cases h with
  | done hv => exact .done fun table => (hw table).trans (hv table)
  | failed _ hv => exact .failed _ fun table => (hw table).trans (hv table)

theorem Mirrors.bind {w : Work α} {rows : List Row} {r : Except StoreError (Database × α)}
    {k : α → Work β} {g : Database × α → Except StoreError (Database × β)} (h : Mirrors w rows r)
    (hk : ∀ rows' a, Mirrors (k a) rows' (g (⟨true, rows'⟩, a))) :
    Mirrors (w >>= k) rows (r >>= g) := by
  cases h with
  | failed rows' hw =>
    refine .failed rows' fun table => ?_
    rw [on_bind, hw]
  | @done a rows' hw =>
    refine (hk rows' a).of_on fun table => ?_
    rw [on_bind, hw]

theorem Mirrors.adapt {w : Work α} {rows : List Row} {r : Except StoreError (Database × α)}
    (h : Mirrors w rows r) (wrap : StoreError → StoreError) :
    Mirrors (w.adapt wrap) rows (r.mapError wrap) := by
  cases h with
  | failed rows' hw =>
    refine .failed rows' fun table => ?_
    rw [on_adapt, hw]
    rfl
  | done hw =>
    refine .done fun table => ?_
    rw [on_adapt, hw]
    rfl

theorem mirrors_pure (a : α) (rows : List Row) : Mirrors (pure a) rows (.ok (⟨true, rows⟩, a)) :=
  .done fun _ => rfl

theorem mirrors_throw (e : StoreError) (rows : List Row) :
    Mirrors (throw e : Work α) rows (.error e) := .failed rows fun _ => rfl

theorem mirrors_insertTag (t : NewTag) (rows : List Row) :
    Mirrors (insertTag t) rows ((Store.insertTag ⟨true, rows⟩ t).map (·, ())) := by
  unfold insertTag
  cases hrow : t.row with
  | error p =>
    rw [Store.insertTag_of_problem hrow]
    exact mirrors_throw (.tag p) rows
  | ok r =>
    rw [Store.insertTag_of_row hrow]
    exact .done fun _ => rfl

theorem mirrors_insertTags (classify : Text → Text) (entry : Text) (tags : List SeedTag)
    (rows : List Row) :
    Mirrors (insertTags classify entry tags) rows
      ((Store.insertTags classify entry ⟨true, rows⟩ tags).map (·, tags.length)) := by
  induction tags generalizing rows with
  | nil => exact mirrors_pure 0 rows
  | cons t tags ih =>
    have hrest : ∀ rows' (_ : Unit), Mirrors
        (insertTags classify entry tags >>= fun n => pure (n + 1)) rows'
        ((Store.insertTags classify entry ⟨true, rows'⟩ tags).map (·, tags.length + 1)) := by
      intro rows' _
      have h := (ih rows').bind (g := fun p => .ok (p.1, p.2 + 1))
        fun rows n => mirrors_pure (n + 1) rows
      cases hd : Store.insertTags classify entry ⟨true, rows'⟩ tags <;> rw [hd] at h <;> exact h
    have h := (mirrors_insertTag ⟨entry, t.name, classify t.literal, t.value⟩ rows).bind
      (g := fun p => (Store.insertTags classify entry p.1 tags).map (·, tags.length + 1)) hrest
    unfold Store.insertTags
    cases hd : Store.insertTag ⟨true, rows⟩ ⟨entry, t.name, classify t.literal, t.value⟩ <;>
      rw [hd] at h <;> exact h

theorem mirrors_insertEntry (classify : Text → Text) (issued : Nat) (e : SeedEntry)
    (rows : List Row) :
    Mirrors (insertEntry classify issued e) rows
      (Store.insertEntry classify issued ⟨true, rows⟩ e) := by
  unfold insertEntry
  cases htags : e.tags with
  | error p =>
    rw [Store.insertEntry_of_problem htags]
    exact mirrors_throw (.tags p) rows
  | ok tags =>
    rw [Store.insertEntry_of_tags htags]
    have h := (mirrors_insertTags classify (if e.id.isEmpty then Store.freshId issued else e.id)
      tags rows).bind (g := fun p => .ok (p.1, p.2, if e.id.isEmpty then issued + 1 else issued))
      fun rows n => mirrors_pure (n, if e.id.isEmpty then issued + 1 else issued) rows
    cases hd : Store.insertTags classify (if e.id.isEmpty then Store.freshId issued else e.id)
      ⟨true, rows⟩ tags <;> rw [hd] at h <;> exact h

theorem mirrors_insertEntries (classify : Text → Text) (index issued : Nat) (es : List SeedEntry)
    (rows : List Row) :
    Mirrors (insertEntries classify index issued es) rows
      (Store.insertEntries classify index issued ⟨true, rows⟩ es) := by
  induction es generalizing index issued rows with
  | nil => exact mirrors_pure (0, issued) rows
  | cons e es ih =>
    refine ((mirrors_insertEntry classify issued e rows).adapt (.entry index)).bind ?_
    rintro rows' ⟨n, issued'⟩
    refine (ih (index + 1) issued' rows').bind ?_
    rintro rows'' ⟨m, issued''⟩
    exact mirrors_pure (n + m, issued'') rows''

/-- A transaction that is done makes its rows the table. -/
theorem transaction_done {w : Work α} {table : List Row} {d : Database} {a : α}
    (h : Mirrors w table (.ok (d, a))) :
    on (transaction w) ⟨table, none⟩ = (.ok a, ⟨d.rows, none⟩) := by
  have hbegin : (⟨table, none⟩ : Connection).begin = ⟨table, some table⟩ := rfl
  cases h with
  | done hw =>
    rw [on_transaction, hbegin, hw table]
    rfl

/-- A transaction that fails leaves the table as it was, however far it had come. -/
theorem transaction_failed {w : Work α} {table : List Row} {e : StoreError}
    (h : Mirrors w table (.error e)) :
    on (transaction w) ⟨table, none⟩ = (.error e, ⟨table, none⟩) := by
  have hbegin : (⟨table, none⟩ : Connection).begin = ⟨table, some table⟩ := rfl
  cases h with
  | failed rows hw =>
    rw [on_transaction, hbegin, hw table]
    rfl

end Work

/-! ## Calls -/

/-- A call that adds tags to a store: one tag, or those of a seed, with a way to decode it. -/
inductive Call where
  | put (t : NewTag)
  | load (classify : Text → Text) (text : Text) (decode : SeedDecoder)

namespace Store

/-- What a store gives a call: the store after it, the number of tags it has added, and the number
of ids that were given. -/
def answer (s : Store) (issued : Nat) : Call → Except StoreError (Store × Nat × Nat)
  | .put t => (s.put t).map (·, 1, issued)
  | .load classify text decode =>
    (s.load classify issued text decode).map fun
      | none => (s, 0, issued)
      | some l => (l.store, l.tags, l.issued)

/-- The store after calls, and the number of ids that were given.  A call that fails leaves the
store as it is. -/
def answerAll (s : Store) (issued : Nat) : List Call → Store × Nat
  | [] => (s, issued)
  | call :: calls =>
    match s.answer issued call with
    | .ok (s, _, issued) => s.answerAll issued calls
    | .error _ => s.answerAll issued calls

end Store

namespace Call

/-- The statements of a call. -/
def work (issued : Nat) : Call → Work (Nat × Nat)
  | put t => do
    Work.insertTag t
    return (1, issued)
  | load classify text decode =>
    match decode text with
    | .error reason => throw (.seed reason)
    | .ok none => return (0, issued)
    | .ok (some entries) => Work.transaction (Work.insertEntries classify 1 issued entries)

/-- Sends a call: the number of tags it has added, the connection after it, and the number of ids
that were given. -/
def send (call : Call) (c : Connection) (issued : Nat) :
    Except StoreError Nat × Connection × Nat :=
  match (call.work issued).on c with
  | (.ok (n, issued), c) => (.ok n, c, issued)
  | (.error e, c) => (.error e, c, issued)

/-- Sends calls one after the other, whatever comes of them. -/
def sendAll (c : Connection) (issued : Nat) : List Call → Connection × Nat
  | [] => (c, issued)
  | call :: calls => sendAll (call.send c issued).2.1 (call.send c issued).2.2 calls

/-- The rows that a call is to add: one that keeps its tag, or those that keep the entries of its
seed, in the order of the document. -/
inductive Adds : Call → List Row → Prop
  | put {t : NewTag} {r : Row} : t.KeptBy r → Adds (put t) [r]
  | empty {classify : Text → Text} {text : Text} {decode : SeedDecoder} :
      decode text = .ok none → Adds (load classify text decode) []
  | entries {classify : Text → Text} {text : Text} {decode : SeedDecoder} {es : List SeedEntry}
      {blocks : List (List Row)} :
      decode text = .ok (some es) → List.Forall₂ (SeedEntry.KeptBy classify) es blocks →
      Adds (load classify text decode) blocks.flatten

theorem Adds.wellFormed {call : Call} {rows : List Row} (h : call.Adds rows) :
    ∀ r ∈ rows, r.WellFormed := by
  cases h with
  | put hkept => exact List.forall_mem_singleton.2 hkept.wellFormed
  | empty => simp
  | entries htext hkept =>
    clear htext
    induction hkept with
    | nil => simp
    | cons hfirst _ ih =>
      rw [List.flatten_cons, List.forall_mem_append]
      exact ⟨hfirst.wellFormed, ih⟩

/-- What comes of a call on a table: it fails and leaves the table as it was, which it does only if
there are no rows for it to add, or it adds its rows and gives their number.  The store says the
same. -/
inductive Comes (call : Call) (path? : Option Text) (table : List Row) (issued : Nat) : Prop
  | failed (e : StoreError) :
      call.send ⟨table, none⟩ issued = (.error e, ⟨table, none⟩, issued) →
      Store.answer ⟨.opened ⟨true, table⟩, path?⟩ issued call = .error e →
      (∀ rows, ¬ call.Adds rows) → Comes call path? table issued
  | done (rows : List Row) (issued' : Nat) :
      call.send ⟨table, none⟩ issued = (.ok rows.length, ⟨table ++ rows, none⟩, issued') →
      Store.answer ⟨.opened ⟨true, table⟩, path?⟩ issued call =
        .ok (⟨.opened ⟨true, table ++ rows⟩, path?⟩, rows.length, issued') →
      call.Adds rows → Comes call path? table issued

theorem comes_put (t : NewTag) (path? : Option Text) (table : List Row) (issued : Nat) :
    (put t).Comes path? table issued := by
  cases hrow : t.row with
  | error p =>
    refine .failed (.tag p) ?_ ?_ ?_
    · simp only [send, work, Work.insertTag, hrow]
      rfl
    · simp only [Store.answer, Store.put, Store.insertTag_of_problem hrow]
      rfl
    · intro rows hadds
      cases hadds with
      | put hkept =>
        rw [NewTag.row_eq_ok_iff.2 hkept] at hrow
        cases hrow
  | ok r =>
    refine .done [r] issued ?_ ?_ (.put (NewTag.row_eq_ok_iff.1 hrow))
    · simp only [send, work, Work.insertTag, hrow]
      rfl
    · simp only [Store.answer, Store.put, Store.insertTag_of_row hrow]
      rfl

section

variable {classify : Text → Text} {text : Text} {decode : SeedDecoder}

theorem comes_entries {es : List SeedEntry} (htext : decode text = .ok (some es))
    (path? : Option Text) (table : List Row) (issued : Nat) :
    (load classify text decode).Comes path? table issued := by
  have hmirrors := Work.mirrors_insertEntries classify 1 issued es table
  cases hd : Store.insertEntries classify 1 issued ⟨true, table⟩ es with
  | error e =>
    rw [hd] at hmirrors
    refine .failed e ?_ ?_ ?_
    · simp only [send, work, htext, Work.transaction_failed hmirrors]
    · simp only [Store.answer, Store.load, htext, Except.mapError, bind, Except.bind,
        Store.database, hd]
      rfl
    · intro rows hadds
      cases hadds with
      | empty hnone =>
        rw [htext] at hnone
        cases hnone
      | entries hes hkept =>
        rw [htext] at hes
        cases hes
        obtain ⟨result, hresult⟩ := Store.insertEntries_complete hkept 1 issued table
        rw [hresult] at hd
        cases hd
  | ok result =>
    obtain ⟨d, n, issued'⟩ := result
    rw [hd] at hmirrors
    obtain ⟨blocks, rfl, rfl, hkept⟩ := Store.insertEntries_sound hd
    refine .done blocks.flatten issued' ?_ ?_ (.entries htext hkept)
    · simp only [send, work, htext, Work.transaction_done hmirrors]
    · simp only [Store.answer, Store.load, htext, Except.mapError, bind, Except.bind,
        Store.database, hd]
      rfl

theorem comes_load (path? : Option Text) (table : List Row) (issued : Nat) :
    (load classify text decode).Comes path? table issued := by
  cases htext : decode text with
  | error reason =>
    refine .failed (.seed reason) ?_ ?_ ?_
    · simp only [send, work, htext]
      rfl
    · simp only [Store.answer, Store.load, htext]
      rfl
    · intro rows hadds
      cases hadds with
      | empty hok | entries hok =>
        rw [htext] at hok
        cases hok
  | ok entries? =>
    cases entries? with
    | none =>
      refine .done [] issued ?_ ?_ (.empty htext)
      · simp only [send, work, htext, List.append_nil]
        rfl
      · simp only [Store.answer, Store.load, htext, List.append_nil]
        rfl
    | some es => exact comes_entries htext path? table issued

end

theorem comes (call : Call) (path? : Option Text) (table : List Row) (issued : Nat) :
    call.Comes path? table issued := by
  cases call with
  | put t => exact comes_put t path? table issued
  | load classify text decode => exact comes_load path? table issued

theorem sendAll_eq_answerAll (path? : Option Text) (start : List Row) (issued : Nat)
    (calls : List Call) :
    ∃ added issued', sendAll ⟨start, none⟩ issued calls = (⟨start ++ added, none⟩, issued') ∧
      Store.answerAll ⟨.opened ⟨true, start⟩, path?⟩ issued calls =
        (⟨.opened ⟨true, start ++ added⟩, path?⟩, issued') ∧
      ∀ r ∈ added, r.WellFormed := by
  induction calls generalizing start issued with
  | nil => exact ⟨[], issued, by simp [sendAll], by simp [Store.answerAll], by simp⟩
  | cons call calls ih =>
    cases call.comes path? start issued with
    | failed e hsend hanswer _ =>
      rw [sendAll, hsend, Store.answerAll, hanswer]
      exact ih start issued
    | done rows issued₁ hsend hanswer hadds =>
      rw [sendAll, hsend, Store.answerAll, hanswer]
      obtain ⟨added, issued₂, hall, hstore, hadded⟩ := ih (start ++ rows) issued₁
      refine ⟨rows ++ added, issued₂, ?_, ?_, ?_⟩
      · rw [← List.append_assoc]
        exact hall
      · rw [← List.append_assoc]
        exact hstore
      · rw [List.forall_mem_append]
        exact ⟨hadds.wellFormed, hadded⟩

end Call

/-- After any calls the tag table of a migrated store holds what it held before and well-formed
rows.  Whatever call comes next, it adds its rows and gives their number, or it fails and leaves the
table as it was, however many rows it had sent.  It fails only if there are no rows for it to add.
The store says the same as the statements sent to its database. -/
theorem calls_keep_table (path? : Option Text) (start : List Row) (issued : Nat)
    (calls : List Call) :
    ∃ added issued',
      Call.sendAll ⟨start, none⟩ issued calls = (⟨start ++ added, none⟩, issued') ∧
      Store.answerAll ⟨.opened ⟨true, start⟩, path?⟩ issued calls =
        (⟨.opened ⟨true, start ++ added⟩, path?⟩, issued') ∧
      (∀ r ∈ added, r.WellFormed) ∧
      ∀ call : Call,
        let (result, after, _) := call.send ⟨start ++ added, none⟩ issued'
        let answer := Store.answer ⟨.opened ⟨true, start ++ added⟩, path?⟩ issued' call
        result = answer.map (·.2.1) ∧
        (∀ e, result = .error e →
          after = ⟨start ++ added, none⟩ ∧ ∀ rows, ¬ call.Adds rows) ∧
        ∀ n, result = .ok n → ∃ rows, after = ⟨start ++ added ++ rows, none⟩ ∧
          n = rows.length ∧ call.Adds rows := by
  obtain ⟨added, issued', hall, hstore, hformed⟩ :=
    Call.sendAll_eq_answerAll path? start issued calls
  refine ⟨added, issued', hall, hstore, hformed, fun call => ?_⟩
  cases call.comes path? (start ++ added) issued' with
  | failed e hsend hanswer hnone =>
    rw [hsend, hanswer]
    exact ⟨rfl, fun _ _ => ⟨rfl, hnone⟩, fun n hn => (by cases hn)⟩
  | done rows issued'' hsend hanswer hadds =>
    rw [hsend, hanswer]
    refine ⟨rfl, fun e he => (by cases he), ?_⟩
    rintro n ⟨⟩
    exact ⟨rows, rfl, rfl, hadds⟩

end TagFilter
