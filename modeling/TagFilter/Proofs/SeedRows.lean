import Mathlib.Data.List.Forall2
import TagFilter.Proofs.TagRow
import TagFilter.Store.Basic

/-!
# Rows of a seed

The entries of a seed are kept by rows, one for each field of the mapping of an entry and in the
order of the document (`SeedEntry.KeptBy`).  The insertion of entries adds rows that keep them
(`Store.insertEntries_sound`), and it fails only if there are no such rows
(`Store.insertEntries_complete`).
-/

namespace TagFilter

/-- A node is a mapping.  A reference to one is not. -/
inductive Yaml.IsMapping : Yaml → Prop
  | mapping (fields : List (Yaml × Yaml)) (tag : Text) (line : Nat) :
      IsMapping (.mapping fields tag line)

/-- A node is a scalar.  A reference to one is not. -/
inductive Yaml.IsScalar : Yaml → Prop
  | scalar (text : Text) (style : ScalarStyle) (tag : Text) (line : Nat) :
      IsScalar (.scalar text style tag line)

/-- The text of a node: that of a scalar, the name of a reference, and nothing for other nodes. -/
inductive Yaml.HasText : Yaml → Text → Prop
  | scalar (text : Text) (style : ScalarStyle) (tag : Text) (line : Nat) :
      HasText (.scalar text style tag line) text
  | reference (name : Text) (target : Yaml) (line : Nat) :
      HasText (.reference name target line) name
  | sequence (items : List Yaml) (tag : Text) (line : Nat) : HasText (.sequence items tag line) []
  | mapping (fields : List (Yaml × Yaml)) (tag : Text) (line : Nat) :
      HasText (.mapping fields tag line) []
  | enclosing (isMapping : Bool) (tag : Text) (line : Nat) :
      HasText (.enclosing isMapping tag line) []

/-- A row keeps a field of a mapping in an entry: the text of the key is the name and the scalar the
value.  The classifier names the column; it is given a scalar that was written in quotes with single
quotes around it. -/
inductive Yaml.FieldKept (classify : Text → Text) (entry : Text) : Yaml × Yaml → Row → Prop
  | quoted {key : Yaml} {name text tag : Text} {style : ScalarStyle} {line : Nat} {r : Row} :
      key.HasText name → style = .singleQuoted ∨ style = .doubleQuoted →
      NewTag.KeptBy ⟨entry, name, classify ("'" ++ text ++ "'"), text⟩ r →
      FieldKept classify entry (key, .scalar text style tag line) r
  | bare {key : Yaml} {name text tag : Text} {style : ScalarStyle} {line : Nat} {r : Row} :
      key.HasText name → ¬ (style = .singleQuoted ∨ style = .doubleQuoted) →
      NewTag.KeptBy ⟨entry, name, classify text, text⟩ r →
      FieldKept classify entry (key, .scalar text style tag line) r

/-- Rows keep an entry of a seed: one row a field of its mapping, in the order of the document, with
the id of the entry or, if it has none, with a new one.  An entry without tags has no rows. -/
inductive SeedEntry.KeptBy (classify : Text → Text) (e : SeedEntry) : List Row → Prop
  | untagged : e.tags? = none → KeptBy classify e []
  | tagged {id tag : Text} {fields : List (Yaml × Yaml)} {line : Nat} {rows : List Row} :
      e.tags? = some (.mapping fields tag line) → id ≠ [] → (e.id ≠ [] → id = e.id) →
      List.Forall₂ (Yaml.FieldKept classify id) fields rows → KeptBy classify e rows

/-- A row keeps a tag of a seed in an entry. -/
def SeedTag.KeptBy (classify : Text → Text) (entry : Text) (t : SeedTag) (r : Row) : Prop :=
  NewTag.KeptBy ⟨entry, t.name, classify t.literal, t.value⟩ r

/-! ## Reading the tags of an entry -/

theorem Yaml.hasText_iff {node : Yaml} {t : Text} : node.HasText t ↔ node.text = t := by
  constructor
  · intro h
    cases h <;> rfl
  · rintro rfl
    cases node <;> constructor

theorem seedTags_of_scalar (key : Yaml) (text : Text) (style : ScalarStyle) (tag : Text)
    (line : Nat) (fields : List (Yaml × Yaml)) :
    seedTags ((key, .scalar text style tag line) :: fields) =
      (seedTags fields).map (⟨key.text, text, style.isQuoted⟩ :: ·) := by
  rw [seedTags]
  cases seedTags fields <;> rfl

theorem seedTags_of_not_scalar (key : Yaml) {value : Yaml} (fields : List (Yaml × Yaml))
    (h : ¬ value.IsScalar) :
    seedTags ((key, value) :: fields) = .error (.notScalar key.text value.line) := by
  cases value with
  | scalar text style tag line => exact absurd (.scalar text style tag line) h
  | sequence | mapping | reference | enclosing => rfl

namespace SeedEntry

variable {e : SeedEntry}

theorem tags_of_none (h : e.tags? = none) : e.tags = .ok [] := by
  unfold tags
  rw [h]

theorem tags_of_not_mapping {node : Yaml} (h : e.tags? = some node) (hnode : ¬ node.IsMapping) :
    e.tags = .error (.notMapping node.line) := by
  unfold tags
  rw [h]
  cases node with
  | mapping fields tag line => exact absurd (.mapping fields tag line) hnode
  | scalar | sequence | reference | enclosing => rfl

theorem tags_of_mapping {fields : List (Yaml × Yaml)} {tag : Text} {line : Nat}
    (h : e.tags? = some (.mapping fields tag line)) : e.tags = seedTags fields := by
  unfold tags
  rw [h]

end SeedEntry

section Fields

variable {classify : Text → Text} {entry : Text}

theorem Yaml.FieldKept.isScalar {field : Yaml × Yaml} {r : Row}
    (h : FieldKept classify entry field r) : field.2.IsScalar := by
  cases h <;> exact .scalar _ _ _ _

theorem ScalarStyle.isQuoted_iff {style : ScalarStyle} :
    style.isQuoted = true ↔ style = .singleQuoted ∨ style = .doubleQuoted := by
  cases style <;> decide

theorem Yaml.fieldKept_scalar_iff {key : Yaml} {text tag : Text} {style : ScalarStyle} {line : Nat}
    {r : Row} :
    FieldKept classify entry (key, .scalar text style tag line) r ↔
      SeedTag.KeptBy classify entry ⟨key.text, text, style.isQuoted⟩ r := by
  unfold SeedTag.KeptBy SeedTag.literal
  constructor
  · intro h
    cases h with
    | quoted hkey hstyle hkept =>
      rwa [hasText_iff.1 hkey, if_pos (ScalarStyle.isQuoted_iff.2 hstyle)]
    | bare hkey hstyle hkept =>
      rwa [hasText_iff.1 hkey, if_neg (mt ScalarStyle.isQuoted_iff.1 hstyle)]
  · intro h
    by_cases hstyle : style = .singleQuoted ∨ style = .doubleQuoted
    · rw [if_pos (ScalarStyle.isQuoted_iff.2 hstyle)] at h
      exact .quoted (hasText_iff.2 rfl) hstyle h
    · rw [if_neg (mt ScalarStyle.isQuoted_iff.1 hstyle)] at h
      exact .bare (hasText_iff.2 rfl) hstyle h

/-- Rows keep the fields of a mapping if they keep the tags that the fields are read to. -/
theorem Yaml.forall₂_fieldKept_iff {fields : List (Yaml × Yaml)} {rows : List Row} :
    List.Forall₂ (FieldKept classify entry) fields rows ↔
      ∃ tags, seedTags fields = .ok tags ∧
        List.Forall₂ (SeedTag.KeptBy classify entry) tags rows := by
  induction fields generalizing rows with
  | nil =>
    constructor
    · intro h
      exact ⟨[], rfl, by cases h; exact .nil⟩
    · rintro ⟨_, ⟨⟩, h⟩
      cases h
      exact .nil
  | cons field fields ih =>
    obtain ⟨key, value⟩ := field
    constructor
    · intro h
      cases h with
      | cons hfirst hothers =>
        obtain ⟨tags, htags, hkept⟩ := ih.1 hothers
        obtain ⟨text, style, tag, line⟩ := hfirst.isScalar
        rw [seedTags_of_scalar, htags]
        exact ⟨_, rfl, .cons (fieldKept_scalar_iff.1 hfirst) hkept⟩
    · rintro ⟨tags, htags, hkept⟩
      by_cases hvalue : value.IsScalar
      · obtain ⟨text, style, tag, line⟩ := hvalue
        rw [seedTags_of_scalar] at htags
        cases hrest : seedTags fields with
        | error p =>
          rw [hrest] at htags
          cases htags
        | ok others =>
          rw [hrest] at htags
          cases htags
          cases hkept with
          | cons hfirst hothers =>
            exact .cons (fieldKept_scalar_iff.2 hfirst) (ih.2 ⟨others, hrest, hothers⟩)
      · rw [seedTags_of_not_scalar key fields hvalue] at htags
        cases htags

/-- Fields that are kept in one entry can be kept in another. -/
theorem Yaml.FieldKept.moved {id : Text} (hid : id ≠ []) {field : Yaml × Yaml} {r : Row}
    (h : FieldKept classify entry field r) :
    FieldKept classify id field { r with entry := id } := by
  cases h with
  | quoted hkey hstyle hkept =>
    exact .quoted hkey hstyle ⟨rfl, hkept.name, hid, hkept.name_ne_nil, hkept.values⟩
  | bare hkey hstyle hkept =>
    exact .bare hkey hstyle ⟨rfl, hkept.name, hid, hkept.name_ne_nil, hkept.values⟩

theorem Yaml.FieldKept.wellFormed {field : Yaml × Yaml} {r : Row}
    (h : FieldKept classify entry field r) : r.WellFormed := by
  cases h with
  | quoted _ _ hkept | bare _ _ hkept => exact hkept.wellFormed

theorem SeedEntry.KeptBy.wellFormed {e : SeedEntry} {rows : List Row}
    (h : e.KeptBy classify rows) : ∀ r ∈ rows, r.WellFormed := by
  cases h with
  | untagged => simp
  | tagged hnode _ _ hkept =>
    clear hnode
    induction hkept with
    | nil => simp
    | cons hfirst _ ih => exact List.forall_mem_cons.2 ⟨hfirst.wellFormed, ih⟩

end Fields

/-! ## Inserting entries -/

namespace Store

theorem freshId_ne_nil (n : Nat) : freshId n ≠ [] := by
  have hdash : Text.ofString "-" ≠ [] := by decide
  simp [freshId, hdash]

theorem entryId_ne_nil (e : SeedEntry) (issued : Nat) :
    (if e.id.isEmpty then freshId issued else e.id) ≠ [] := by
  split
  · exact freshId_ne_nil issued
  next hid => simpa using hid

theorem insertTag_of_row {t : NewTag} {r : Row} (h : t.row = .ok r) (rows : List Row) :
    insertTag ⟨true, rows⟩ t = .ok ⟨true, rows ++ [r]⟩ := by
  unfold insertTag
  rw [h]
  rfl

theorem insertTag_of_problem {t : NewTag} {p : TagProblem} (h : t.row = .error p) (d : Database) :
    insertTag d t = .error (.tag p) := by
  unfold insertTag
  rw [h]
  rfl

theorem insertEntry_of_tags {e : SeedEntry} {tags : List SeedTag} (h : e.tags = .ok tags)
    (classify : Text → Text) (issued : Nat) (d : Database) :
    insertEntry classify issued d e =
      (insertTags classify (if e.id.isEmpty then freshId issued else e.id) d tags).map
        (·, tags.length, if e.id.isEmpty then issued + 1 else issued) := by
  unfold insertEntry
  rw [h]
  rfl

theorem insertEntry_of_problem {e : SeedEntry} {p : SeedProblem} (h : e.tags = .error p)
    (classify : Text → Text) (issued : Nat) (d : Database) :
    insertEntry classify issued d e = .error (.tags p) := by
  unfold insertEntry
  rw [h]
  rfl

variable {classify : Text → Text} {rows : List Row}

/-- Tags are inserted exactly if there are rows that keep them, and these are added. -/
theorem insertTags_eq_ok_iff {entry : Text} {tags : List SeedTag} {d : Database} :
    insertTags classify entry ⟨true, rows⟩ tags = .ok d ↔
      ∃ added, d = ⟨true, rows ++ added⟩ ∧
        List.Forall₂ (SeedTag.KeptBy classify entry) tags added := by
  induction tags generalizing rows with
  | nil =>
    constructor
    · intro h
      cases h
      exact ⟨[], by simp, .nil⟩
    · rintro ⟨added, rfl, hkept⟩
      cases hkept
      simp [insertTags]
  | cons t tags ih =>
    rw [insertTags]
    cases hrow : (NewTag.mk entry t.name (classify t.literal) t.value).row with
    | error p =>
      rw [insertTag_of_problem hrow]
      refine ⟨fun h => (by cases h), ?_⟩
      rintro ⟨added, -, hkept⟩
      cases hkept with
      | cons hfirst _ =>
        rw [NewTag.row_eq_ok_iff.2 hfirst] at hrow
        cases hrow
    | ok r =>
      rw [insertTag_of_row hrow]
      refine ih.trans ⟨?_, ?_⟩
      · rintro ⟨added, rfl, hkept⟩
        exact ⟨r :: added, by simp, .cons (NewTag.row_eq_ok_iff.1 hrow) hkept⟩
      · rintro ⟨_, rfl, hkept⟩
        cases hkept with
        | cons hfirst hothers =>
          rw [NewTag.row_eq_ok_iff.2 hfirst] at hrow
          cases hrow
          exact ⟨_, by simp, hothers⟩

/-- An entry that is inserted is kept by the rows that are added. -/
theorem insertEntry_sound {issued : Nat} {e : SeedEntry} {d : Database} {n issued' : Nat}
    (h : insertEntry classify issued ⟨true, rows⟩ e = .ok (d, n, issued')) :
    ∃ added, d = ⟨true, rows ++ added⟩ ∧ n = added.length ∧ e.KeptBy classify added := by
  cases htags : e.tags with
  | error p =>
    rw [insertEntry_of_problem htags] at h
    cases h
  | ok tags =>
    rw [insertEntry_of_tags htags] at h
    cases hd : insertTags classify (if e.id.isEmpty then freshId issued else e.id) ⟨true, rows⟩
      tags with
    | error p =>
      rw [hd] at h
      cases h
    | ok d' =>
      rw [hd] at h
      cases h
      obtain ⟨added, rfl, hkept⟩ := insertTags_eq_ok_iff.1 hd
      refine ⟨added, rfl, hkept.length_eq, ?_⟩
      cases hnode : e.tags? with
      | none =>
        rw [SeedEntry.tags_of_none hnode] at htags
        cases htags
        cases hkept
        exact .untagged hnode
      | some node =>
        by_cases hmapping : node.IsMapping
        · obtain ⟨fields, tag, line⟩ := hmapping
          rw [SeedEntry.tags_of_mapping hnode] at htags
          refine .tagged hnode (entryId_ne_nil e issued) (fun hid => by simp [hid]) ?_
          exact Yaml.forall₂_fieldKept_iff.2 ⟨tags, htags, hkept⟩
        · rw [SeedEntry.tags_of_not_mapping hnode hmapping] at htags
          cases htags

/-- An entry that some rows keep is inserted. -/
theorem insertEntry_complete {e : SeedEntry} {kept : List Row} (h : e.KeptBy classify kept)
    (issued : Nat) (rows : List Row) :
    ∃ rows' n issued',
      insertEntry classify issued ⟨true, rows⟩ e = .ok (⟨true, rows'⟩, n, issued') := by
  cases h with
  | untagged hnode =>
    rw [insertEntry_of_tags (SeedEntry.tags_of_none hnode)]
    exact ⟨rows, _, _, rfl⟩
  | tagged hnode _ _ hkept =>
    -- The rows may have another id than the one that is given now.
    have hmoved := List.forall₂_map_right_iff.2
      (hkept.imp fun _ _ hfield => hfield.moved (entryId_ne_nil e issued))
    obtain ⟨tags, htags, hrows⟩ := Yaml.forall₂_fieldKept_iff.1 hmoved
    rw [insertEntry_of_tags ((SeedEntry.tags_of_mapping hnode).trans htags),
      insertTags_eq_ok_iff.2 ⟨_, rfl, hrows⟩]
    exact ⟨_, _, _, rfl⟩

/-- Entries that are inserted are kept by the rows that are added, entry by entry. -/
theorem insertEntries_sound {index issued : Nat} {es : List SeedEntry} {d : Database}
    {n issued' : Nat}
    (h : insertEntries classify index issued ⟨true, rows⟩ es = .ok (d, n, issued')) :
    ∃ blocks : List (List Row), d = ⟨true, rows ++ blocks.flatten⟩ ∧
      n = blocks.flatten.length ∧ List.Forall₂ (SeedEntry.KeptBy classify) es blocks := by
  induction es generalizing index issued rows d n issued' with
  | nil =>
    cases h
    exact ⟨[], by simp, rfl, .nil⟩
  | cons e es ih =>
    unfold insertEntries at h
    cases he : insertEntry classify issued ⟨true, rows⟩ e with
    | error p =>
      rw [he] at h
      cases h
    | ok first =>
      obtain ⟨d₁, n₁, issued₁⟩ := first
      rw [he] at h
      obtain ⟨added, rfl, rfl, hkept⟩ := insertEntry_sound he
      cases hes : insertEntries classify (index + 1) issued₁ ⟨true, rows ++ added⟩ es with
      | error p =>
        simp only [Except.mapError, bind, Except.bind, hes] at h
        cases h
      | ok others =>
        obtain ⟨d₂, n₂, issued₂⟩ := others
        simp only [Except.mapError, bind, Except.bind, hes] at h
        cases h
        obtain ⟨blocks, rfl, rfl, hothers⟩ := ih hes
        exact ⟨added :: blocks, by simp, by simp, .cons hkept hothers⟩

/-- Entries that some rows keep are inserted. -/
theorem insertEntries_complete {es : List SeedEntry} {blocks : List (List Row)}
    (h : List.Forall₂ (SeedEntry.KeptBy classify) es blocks) (index issued : Nat)
    (rows : List Row) :
    ∃ result, insertEntries classify index issued ⟨true, rows⟩ es = .ok result := by
  induction h generalizing index issued rows with
  | nil => exact ⟨_, rfl⟩
  | cons hfirst _ ih =>
    obtain ⟨rows', n, issued', he⟩ := insertEntry_complete hfirst issued rows
    obtain ⟨⟨d, m, issued''⟩, hes⟩ := ih (index + 1) issued' rows'
    unfold insertEntries
    rw [he]
    simp only [Except.mapError, bind, Except.bind, hes]
    exact ⟨_, rfl⟩

end Store

end TagFilter
