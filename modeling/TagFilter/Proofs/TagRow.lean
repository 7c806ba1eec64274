import Mathlib.Logic.ExistsUnique
import TagFilter.Proofs.Integer
import TagFilter.Store.Row

/-!
# What rows hold

A tag becomes a row exactly if it has an entry and a name and its column is one of the three value
columns, where the number column takes the texts of 64-bit integers only (`NewTag.row_eq_ok_iff`).
A row as such may have several of its value columns filled, or none.  One that a tag becomes is well
formed (`Row.WellFormed`): exactly one is filled, and a number has 64 bits.
-/

namespace TagFilter

/-- Values keep a value in the column of a name, and hold nothing in the other columns. -/
inductive RowValues.Keep (column value : Text) : RowValues → Prop
  | text : column = "str_value" →
      Keep column value { text? := some value, number? := none, date? := none }
  | number {n : Int} : column = "num_value" → value.WritesInteger n → Text.IsInt64 n →
      Keep column value { text? := none, number? := some n, date? := none }
  | date : column = "date_value" →
      Keep column value { text? := none, number? := none, date? := some value }

/-- A row keeps a tag, which has an entry and a name. -/
structure NewTag.KeptBy (t : NewTag) (r : Row) : Prop where
  entry : r.entry = t.entry
  name : r.name = t.name
  entry_ne_nil : t.entry ≠ []
  name_ne_nil : t.name ≠ []
  values : r.values.Keep t.column t.value

/-- A row has an entry, a name and a value in exactly one column, and a number has 64 bits. -/
structure Row.WellFormed (r : Row) : Prop where
  entry : r.entry ≠ []
  name : r.name ≠ []
  value : ∃! c : Column, r.cell (.value c) ≠ .null
  number : ∀ n, r.cell (.value .number) = .int n → Text.IsInt64 n

namespace RowValues.Keep

variable {column value : Text} {v : RowValues}

/-- Values that keep one fill its column and no other. -/
theorem existsUnique_cell (h : v.Keep column value) : ∃! c : Column, v.cell c ≠ .null := by
  cases h with
  | text => exact ⟨.text, by simp [cell], fun c hc => by cases c <;> simp_all [cell]⟩
  | number => exact ⟨.number, by simp [cell], fun c hc => by cases c <;> simp_all [cell]⟩
  | date => exact ⟨.date, by simp [cell], fun c hc => by cases c <;> simp_all [cell]⟩

theorem isInt64 (h : v.Keep column value) {n : Int} (hn : v.cell .number = .int n) :
    Text.IsInt64 n := by
  cases h with
  | text | date => cases hn
  | number _ _ hbounds =>
    cases hn
    exact hbounds

end RowValues.Keep

namespace NewTag

variable {t : NewTag} {r : Row}

theorem values_of_keep {v : RowValues} (h : v.Keep t.column t.value) : t.values = .ok v := by
  unfold values
  cases h with
  | text hc => rw [hc, if_pos (by decide)]
  | date hc => rw [hc, if_neg (by decide), if_pos (by decide)]
  | number hc hwrites hbounds =>
    have hread := Text.toInteger_eq_ok_iff.2 ⟨hwrites, hbounds⟩
    rw [hc, if_neg (by decide), if_neg (by decide), if_pos (by decide), hread]
    rfl

theorem keep_of_values {v : RowValues} (h : t.values = .ok v) : v.Keep t.column t.value := by
  unfold values at h
  split at h
  next hc =>
    cases h
    exact .text hc
  split at h
  next hc =>
    cases h
    exact .date hc
  split at h
  next hc =>
    cases hread : t.value.toInteger with
    | error p =>
      rw [hread] at h
      cases h
    | ok n =>
      rw [hread] at h
      cases h
      obtain ⟨hwrites, hbounds⟩ := Text.toInteger_eq_ok_iff.1 hread
      exact .number hc hwrites hbounds
  · cases h

/-- A tag becomes the rows that keep it, and no others. -/
theorem row_eq_ok_iff : t.row = .ok r ↔ t.KeptBy r := by
  unfold row
  split
  next hempty =>
    refine ⟨fun h => (by cases h), fun h => ?_⟩
    simp [h.entry_ne_nil, h.name_ne_nil] at hempty
  next hempty =>
    simp only [List.isEmpty_iff, not_or] at hempty
    constructor
    · intro h
      cases hv : t.values with
      | error p =>
        rw [hv] at h
        cases h
      | ok v =>
        rw [hv] at h
        cases h
        exact ⟨rfl, rfl, hempty.1, hempty.2, keep_of_values hv⟩
    · rintro ⟨hentry, hname, -, -, hvalues⟩
      rw [values_of_keep hvalues, ← hentry, ← hname]
      rfl

theorem KeptBy.wellFormed (h : t.KeptBy r) : r.WellFormed where
  entry := h.entry.symm ▸ h.entry_ne_nil
  name := h.name.symm ▸ h.name_ne_nil
  value := h.values.existsUnique_cell
  number _ := h.values.isInt64

end NewTag

end TagFilter
