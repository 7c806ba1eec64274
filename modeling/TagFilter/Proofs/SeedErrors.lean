import TagFilter.Proofs.SeedFilter

/-!
# When a seed is refused

Loading a seed that has been decoded fails for bad entries only: one whose tags are no mapping, a
tag whose value is no scalar, or a tag without a name (`SeedEntry.Flawed`).  The classifier puts a
tag into a column that takes its value whatever the mask is, so no tag is refused for its value or
its column (`SeedTag.values_eq_ok`).  The error names the first entry with a flaw, and what it is
refused for (`SeedEntry.RefusedFor`).
-/

namespace TagFilter

/-! ## Flaws -/

/-- What may be wrong with an entry of a seed. -/
inductive SeedEntry.Flawed (e : SeedEntry) : Prop
  | notMapping {node : Yaml} : e.tags? = some node → ¬ node.IsMapping → Flawed e
  | notScalar {fields : List (Yaml × Yaml)} {tag : Text} {line : Nat} {field : Yaml × Yaml} :
      e.tags? = some (.mapping fields tag line) → field ∈ fields → ¬ field.2.IsScalar → Flawed e
  | unnamed {fields : List (Yaml × Yaml)} {tag : Text} {line : Nat} {field : Yaml × Yaml} :
      e.tags? = some (.mapping fields tag line) → field ∈ fields → field.1.HasText [] → Flawed e

/-- What an entry is refused for: its tags are no mapping, or the first value in them that is no
scalar, or, if there is no such value, a tag without a name. -/
inductive SeedEntry.RefusedFor (e : SeedEntry) : StoreError → Prop
  | notMapping {node : Yaml} : e.tags? = some node → ¬ node.IsMapping →
      RefusedFor e (.tags (.notMapping node.line))
  | notScalar {before after : List (Yaml × Yaml)} {key value : Yaml} {name tag : Text}
      {line : Nat} :
      e.tags? = some (.mapping (before ++ (key, value) :: after) tag line) →
      (∀ field ∈ before, field.2.IsScalar) → ¬ value.IsScalar → key.HasText name →
      RefusedFor e (.tags (.notScalar name value.line))
  | unnamed {fields : List (Yaml × Yaml)} {tag : Text} {line : Nat} {field : Yaml × Yaml} :
      e.tags? = some (.mapping fields tag line) → (∀ field ∈ fields, field.2.IsScalar) →
      field ∈ fields → field.1.HasText [] → RefusedFor e (.tag .incomplete)

theorem seedTags_of_first {before : List (Yaml × Yaml)} {value : Yaml}
    (hbefore : ∀ field ∈ before, field.2.IsScalar) (hvalue : ¬ value.IsScalar) (key : Yaml)
    (after : List (Yaml × Yaml)) :
    seedTags (before ++ (key, value) :: after) = .error (.notScalar key.text value.line) := by
  induction before with
  | nil => exact seedTags_of_not_scalar key after hvalue
  | cons field before ih =>
    obtain ⟨first, scalar⟩ := field
    obtain ⟨hscalar, hothers⟩ := List.forall_mem_cons.1 hbefore
    obtain ⟨text, style, tag, line⟩ := hscalar
    rw [List.cons_append, seedTags_of_scalar, ih hothers]
    rfl

theorem seedTags_of_scalars {fields : List (Yaml × Yaml)} (h : ∀ field ∈ fields, field.2.IsScalar) :
    ∃ tags, seedTags fields = .ok tags ∧ tags.map (·.name) = fields.map (·.1.text) := by
  induction fields with
  | nil => exact ⟨[], rfl, rfl⟩
  | cons field fields ih =>
    obtain ⟨key, value⟩ := field
    obtain ⟨hscalar, hfields⟩ := List.forall_mem_cons.1 h
    obtain ⟨text, style, tag, line⟩ := hscalar
    obtain ⟨tags, htags, hnames⟩ := ih hfields
    rw [seedTags_of_scalar, htags]
    refine ⟨_, rfl, ?_⟩
    rw [List.map_cons, List.map_cons, hnames]

theorem scalars_or_first (fields : List (Yaml × Yaml)) :
    (∀ field ∈ fields, field.2.IsScalar) ∨ ∃ before key value after,
      fields = before ++ (key, value) :: after ∧ (∀ field ∈ before, field.2.IsScalar) ∧
        ¬ value.IsScalar := by
  induction fields with
  | nil => exact .inl (by simp)
  | cons field fields ih =>
    by_cases hfield : field.2.IsScalar
    · rcases ih with hscalars | ⟨before, key, value, after, rfl, hbefore, hvalue⟩
      · exact .inl (List.forall_mem_cons.2 ⟨hfield, hscalars⟩)
      · exact .inr ⟨field :: before, key, value, after, rfl,
          List.forall_mem_cons.2 ⟨hfield, hbefore⟩, hvalue⟩
    · exact .inr ⟨[], field.1, field.2, fields, rfl, by simp, hfield⟩

namespace SeedEntry

theorem not_flawed_of_none {e : SeedEntry} (h : e.tags? = none) : ¬ e.Flawed := by
  rintro (⟨hnode, -⟩ | ⟨hnode, -, -⟩ | ⟨hnode, -, -⟩) <;>
  · rw [h] at hnode
    cases hnode

theorem flawed_iff_of_mapping {e : SeedEntry} {fields : List (Yaml × Yaml)} {tag : Text}
    {line : Nat} (h : e.tags? = some (.mapping fields tag line)) :
    e.Flawed ↔ ∃ field ∈ fields, ¬ field.2.IsScalar ∨ field.1.HasText [] := by
  constructor
  · rintro (⟨hnode, hflaw⟩ | ⟨hnode, hmem, hflaw⟩ | ⟨hnode, hmem, hflaw⟩) <;>
      (rw [h] at hnode; cases hnode)
    · exact absurd (.mapping fields tag line) hflaw
    · exact ⟨_, hmem, .inl hflaw⟩
    · exact ⟨_, hmem, .inr hflaw⟩
  · rintro ⟨field, hmem, hflaw | hflaw⟩
    · exact .notScalar h hmem hflaw
    · exact .unnamed h hmem hflaw

/-- An entry with a flaw is refused for something; all tags of one without have names. -/
theorem refused_or_named (e : SeedEntry) :
    (e.Flawed ∧ ∃ reason, e.RefusedFor reason) ∨
      (¬ e.Flawed ∧ ∃ tags, e.tags = .ok tags ∧ ∀ t ∈ tags, t.name ≠ []) := by
  cases hnode : e.tags? with
  | none => exact .inr ⟨not_flawed_of_none hnode, [], tags_of_none hnode, by simp⟩
  | some node =>
    by_cases hmapping : node.IsMapping
    · obtain ⟨fields, tag, line⟩ := hmapping
      rw [flawed_iff_of_mapping hnode]
      rcases scalars_or_first fields with
        hscalars | ⟨before, key, value, after, rfl, hbefore, hvalue⟩
      · obtain ⟨tags, htags, hnames⟩ := seedTags_of_scalars hscalars
        by_cases hunnamed : ∃ field ∈ fields, field.1.HasText []
        · obtain ⟨field, hfield, htext⟩ := hunnamed
          exact .inl ⟨⟨field, hfield, .inr htext⟩, _, .unnamed hnode hscalars hfield htext⟩
        · refine .inr ⟨?_, tags, (tags_of_mapping hnode).trans htags, fun t ht hname => ?_⟩
          · rintro ⟨field, hfield, hnot | htext⟩
            · exact hnot (hscalars field hfield)
            · exact hunnamed ⟨field, hfield, htext⟩
          · have hmem : t.name ∈ fields.map (·.1.text) := hnames ▸ List.mem_map_of_mem ht
            obtain ⟨field, hfield, htext⟩ := List.mem_map.1 hmem
            exact hunnamed ⟨field, hfield, Yaml.hasText_iff.2 (htext.trans hname)⟩
      · exact .inl ⟨⟨(key, value), by simp, .inl hvalue⟩, _,
          .notScalar hnode hbefore hvalue (Yaml.hasText_iff.2 rfl)⟩
    · exact .inl ⟨.notMapping hnode hmapping, _, .notMapping hnode hmapping⟩

end SeedEntry

/-! ## Columns -/

/-- The column that a classifier names takes the value. -/
theorem SeedTag.values_eq_ok (s : Sniffer) (entry : Text) (t : SeedTag) :
    ∃ v, (NewTag.mk entry t.name (s.classifier t.literal) t.value).values = .ok v := by
  obtain ⟨v, hv⟩ := t.exists_keep s
  exact ⟨v, NewTag.values_of_keep hv⟩

/-! ## Entries -/

namespace Store

section

variable (s : Sniffer) {entry : Text} (hentry : entry ≠ [])

include hentry

theorem insertTag_of_named {t : SeedTag} (ht : t.name ≠ []) (rows : List Row) :
    ∃ r, insertTag ⟨true, rows⟩ ⟨entry, t.name, s.classifier t.literal, t.value⟩ =
      .ok ⟨true, rows ++ [r]⟩ := by
  obtain ⟨r, hr⟩ := SeedTag.exists_keptBy s hentry ht
  exact ⟨r, insertTag_of_row (NewTag.row_eq_ok_iff.2 hr) rows⟩

theorem insertTags_of_named {tags : List SeedTag} (h : ∀ t ∈ tags, t.name ≠ [])
    (rows : List Row) :
    ∃ rows', insertTags s.classifier entry ⟨true, rows⟩ tags = .ok ⟨true, rows'⟩ := by
  induction tags generalizing rows with
  | nil => exact ⟨rows, rfl⟩
  | cons t tags ih =>
    rw [List.forall_mem_cons] at h
    obtain ⟨r, hr⟩ := insertTag_of_named s hentry h.1 rows
    rw [insertTags, hr]
    exact ih h.2 (rows ++ [r])

/-- The first tag without a name is refused; those before it are not. -/
theorem insertTags_of_unnamed {tags : List SeedTag} {t : SeedTag} (ht : t ∈ tags)
    (hname : t.name = []) (rows : List Row) :
    insertTags s.classifier entry ⟨true, rows⟩ tags = .error (.tag .incomplete) := by
  induction tags generalizing rows with
  | nil => cases ht
  | cons t' tags ih =>
    rw [insertTags]
    by_cases ht' : t'.name = []
    · have hrow : (NewTag.mk entry t'.name (s.classifier t'.literal) t'.value).row =
          .error .incomplete := if_pos (.inr (List.isEmpty_iff.2 ht'))
      rw [insertTag_of_problem hrow]
      rfl
    · obtain ⟨r, hr⟩ := insertTag_of_named s hentry ht' rows
      rw [hr]
      rcases List.mem_cons.1 ht with rfl | ht
      · exact absurd hname ht'
      · exact ih ht (rows ++ [r])

end

theorem insertEntry_of_refused (s : Sniffer) {e : SeedEntry} {reason : StoreError}
    (h : e.RefusedFor reason) (issued : Nat) (rows : List Row) :
    insertEntry s.classifier issued ⟨true, rows⟩ e = .error reason := by
  cases h with
  | notMapping hnode hmapping =>
    exact insertEntry_of_problem (SeedEntry.tags_of_not_mapping hnode hmapping) _ _ _
  | notScalar hnode hbefore hvalue hkey =>
    have hread := (SeedEntry.tags_of_mapping hnode).trans (seedTags_of_first hbefore hvalue _ _)
    rw [Yaml.hasText_iff.1 hkey] at hread
    exact insertEntry_of_problem hread _ _ _
  | @unnamed fields _ _ _ hnode hscalars hfield htext =>
    obtain ⟨tags, htags, hnames⟩ := seedTags_of_scalars hscalars
    have hkeys : [] ∈ fields.map (·.1.text) :=
      List.mem_map.2 ⟨_, hfield, Yaml.hasText_iff.1 htext⟩
    have hmem : [] ∈ tags.map (·.name) := hnames ▸ hkeys
    obtain ⟨t, ht, hname⟩ := List.mem_map.1 hmem
    rw [insertEntry_of_tags ((SeedEntry.tags_of_mapping hnode).trans htags),
      insertTags_of_unnamed s (entryId_ne_nil e issued) ht hname]
    rfl

theorem insertEntry_of_named (s : Sniffer) {e : SeedEntry} {tags : List SeedTag}
    (htags : e.tags = .ok tags) (h : ∀ t ∈ tags, t.name ≠ []) (issued : Nat) (rows : List Row) :
    ∃ rows' n issued',
      insertEntry s.classifier issued ⟨true, rows⟩ e = .ok (⟨true, rows'⟩, n, issued') := by
  obtain ⟨rows', hrows⟩ := insertTags_of_named s (entryId_ne_nil e issued) h rows
  rw [insertEntry_of_tags htags, hrows]
  exact ⟨rows', _, _, rfl⟩

/-- The first entry with a flaw is refused, and the index of the error is its own. -/
theorem insertEntries_cases (s : Sniffer) (index issued : Nat) (rows : List Row)
    (es : List SeedEntry) :
    ((∀ e ∈ es, ¬ e.Flawed) ∧
        ∃ d, insertEntries s.classifier index issued ⟨true, rows⟩ es = .ok d) ∨
      ∃ before e after reason, es = before ++ e :: after ∧ (∀ e' ∈ before, ¬ e'.Flawed) ∧
        e.Flawed ∧ e.RefusedFor reason ∧
        insertEntries s.classifier index issued ⟨true, rows⟩ es =
          .error (.entry (index + before.length) reason) := by
  induction es generalizing index issued rows with
  | nil => exact .inl ⟨by simp, _, rfl⟩
  | cons e es ih =>
    unfold insertEntries
    rcases e.refused_or_named with ⟨hflawed, reason, hreason⟩ | ⟨hflawed, tags, htags, hnamed⟩
    · refine .inr ⟨[], e, es, reason, rfl, by simp, hflawed, hreason, ?_⟩
      rw [insertEntry_of_refused s hreason]
      rfl
    · obtain ⟨rows', n, issued', hentry⟩ := insertEntry_of_named s htags hnamed issued rows
      rw [hentry]
      rcases ih (index + 1) issued' rows' with
        ⟨hnone, ⟨d, m, issued''⟩, hd⟩ | ⟨before, e', after, reason, rfl, hbefore, hbad, hreason, hd⟩
      · refine .inl ⟨List.forall_mem_cons.2 ⟨hflawed, hnone⟩, ?_⟩
        simp only [Except.mapError, bind, Except.bind, hd]
        exact ⟨_, rfl⟩
      · refine .inr ⟨e :: before, e', after, reason, rfl,
          List.forall_mem_cons.2 ⟨hflawed, hbefore⟩, hbad, hreason, ?_⟩
        simp only [Except.mapError, bind, Except.bind, hd, List.length_cons]
        rw [Nat.add_assoc, Nat.add_comm 1]

/-- A seed without a flaw is loaded, and one with a flaw is refused for its first bad entry. -/
theorem load_cases (s : Sniffer) (path? : Option Text) (rows : List Row) (issued : Nat)
    {text : Text} {decode : SeedDecoder} {entries? : Option (List SeedEntry)}
    (htext : decode text = .ok entries?) :
    ((∀ e ∈ entries?.getD [], ¬ e.Flawed) ∧
        ∃ l, load ⟨.opened ⟨true, rows⟩, path?⟩ s.classifier issued text decode = .ok l) ∨
      ∃ before e after reason, entries?.getD [] = before ++ e :: after ∧
        (∀ e' ∈ before, ¬ e'.Flawed) ∧ e.Flawed ∧ e.RefusedFor reason ∧
        load ⟨.opened ⟨true, rows⟩, path?⟩ s.classifier issued text decode =
          .error (.entry (before.length + 1) reason) := by
  simp only [load, htext]
  cases entries? with
  | none => exact .inl ⟨by simp, none, rfl⟩
  | some entries =>
    simp only [Except.mapError, bind, Except.bind, database]
    rcases insertEntries_cases s 1 issued rows entries with
      ⟨hnone, d, hd⟩ | ⟨before, e, after, reason, hsplit, hbefore, hbad, hreason, hd⟩
    · rw [hd]
      exact .inl ⟨hnone, _, rfl⟩
    · rw [hd, Nat.add_comm]
      exact .inr ⟨before, e, after, reason, hsplit, hbefore, hbad, hreason, rfl⟩

end Store

/-- Loading a seed fails exactly if an entry has a flaw, whatever the mask of the classifier is and
in whatever way the entries were decoded.  The error names the first such entry, counted from one,
and its flaw.  It is never about an integer or a column: the column that the classifier names takes
the value. -/
theorem load_error_iff_flawed (s : Sniffer) (path? : Option Text) (rows : List Row) (issued : Nat)
    (text : Text) (decode : SeedDecoder) (entries? : Option (List SeedEntry))
    (htext : decode text = .ok entries?) :
    let loaded := Store.load ⟨.opened ⟨true, rows⟩, path?⟩ s.classifier issued text decode
    ((∃ error, loaded = .error error) ↔ ∃ e ∈ entries?.getD [], e.Flawed) ∧
      (∀ error, loaded = .error error → ∃ before e after reason,
        entries?.getD [] = before ++ e :: after ∧ (∀ e' ∈ before, ¬ e'.Flawed) ∧ e.Flawed ∧
          e.RefusedFor reason ∧ error = .entry (before.length + 1) reason) ∧
      ∀ (entry : Text) (t : SeedTag),
        ∃ v, (NewTag.mk entry t.name (s.classifier t.literal) t.value).values = .ok v := by
  intro loaded
  rcases Store.load_cases s path? rows issued htext with
    ⟨hnone, l, hl⟩ | ⟨before, e, after, reason, hsplit, hbefore, hbad, hreason, herror⟩
  · have hloaded : loaded = .ok l := hl
    rw [hloaded]
    refine ⟨⟨?_, ?_⟩, ?_, fun entry t => t.values_eq_ok s entry⟩
    · rintro ⟨error, h⟩
      cases h
    · rintro ⟨e, hmem, hbad⟩
      exact absurd hbad (hnone e hmem)
    · intro error h
      cases h
  · have hloaded : loaded = .error (.entry (before.length + 1) reason) := herror
    rw [hloaded]
    refine ⟨⟨fun _ => ⟨e, by simp [hsplit], hbad⟩, fun _ => ⟨_, rfl⟩⟩, ?_,
      fun entry t => t.values_eq_ok s entry⟩
    rintro _ ⟨⟩
    exact ⟨before, e, after, reason, hsplit, hbefore, hbad, hreason, rfl⟩

/-- A list is no value of a tag. -/
theorem load_error_iff_flawed_list :
    let seed : Text := "entries: [{tags: {a: 1}}, {tags: {b: [2]}}]"
    ∃ entries? error, Seed.ofText seed = .ok entries? ∧
      Store.load ⟨.opened ⟨true, []⟩, none⟩ Sniffer.default.classifier 0 seed = .error error ∧
      error.message = "entry 2: tag b: value must be a scalar (line 1)" ∧
      ∃ e ∈ entries?.getD [], e.Flawed := by
  intro seed
  have hread : (Seed.ofText seed).toOption.isSome = true := by decide +kernel
  have hmessage :
      (match Store.load ⟨.opened ⟨true, []⟩, none⟩ Sniffer.default.classifier 0 seed with
        | .ok _ => []
        | .error e => e.message) =
          Text.ofString "entry 2: tag b: value must be a scalar (line 1)" := by decide +kernel
  cases hseed : Seed.ofText seed with
  | error reason =>
    rw [hseed] at hread
    cases hread
  | ok entries? =>
    have hflawed :=
      (load_error_iff_flawed Sniffer.default none [] 0 seed Seed.ofText entries? hseed).1
    cases hload : Store.load ⟨.opened ⟨true, []⟩, none⟩ Sniffer.default.classifier 0 seed with
    | ok l =>
      rw [hload] at hmessage
      cases hmessage
    | error e =>
      rw [hload] at hmessage
      exact ⟨entries?, e, rfl, rfl, hmessage, hflawed.1 ⟨e, hload⟩⟩

end TagFilter
