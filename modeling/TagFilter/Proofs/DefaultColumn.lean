import Mathlib.Data.List.TakeWhile
import TagFilter.Proofs.Integer

/-!
# Columns under the default mask

The default mask sorts by two forms of a literal.  A day is ten bytes `DDDD-DD-DD` that name a day
of the Gregorian calendar, with at most one quote at either end.  An integer is digits with an optional
sign.  A literal of the first form is in the date column, else one of the second form with 64 bits
in the number column, and any other in the text column (`Sniffer.default_column_exact`).

The layout of the default mask is read field by field (`Layout.fields?_default`): each field takes
digits of a fixed width, and what the fields leave over has to be empty.
-/

namespace TagFilter

/-! ## Days of the calendar -/

namespace Calendar

/-- A year has a leap day: every fourth year has one, but of the full centuries only every
fourth. -/
def LeapYear (year : Nat) : Prop := 4 ∣ year ∧ (100 ∣ year → 400 ∣ year)

instance (year : Nat) : Decidable (LeapYear year) := inferInstanceAs (Decidable (_ ∧ _))

/-- The last day of a month. -/
def lastDay (year month : Nat) : Nat :=
  if month = 2 then if LeapYear year then 29 else 28
  else if month ∈ [4, 6, 9, 11] then 30
  else 31

/-- The calendar has a day. -/
structure IsDay (year month day : Nat) : Prop where
  month_pos : 1 ≤ month
  month_le : month ≤ 12
  day_pos : 1 ≤ day
  day_le : day ≤ lastDay year month

theorem isLeap_iff (year : Nat) : isLeap year = true ↔ LeapYear year := by
  simp only [isLeap, LeapYear, Bool.and_eq_true, Bool.or_eq_true, beq_iff_eq, bne_iff_ne]
  omega

theorem daysIn_eq (year month : Nat) : daysIn year month = lastDay year month := by
  unfold daysIn lastDay
  split
  · simp [isLeap_iff]
  all_goals simp_all

end Calendar

/-! ## Days and integers -/

namespace Text

/-- A text of a width writes a number. -/
structure WritesIn (width : Nat) (t : Text) (n : Nat) : Prop extends t.Writes n where
  length : t.length = width

/-- Ten bytes `DDDD-DD-DD` write a day of the calendar. -/
def WritesDay (t : Text) : Prop :=
  ∃ year month day y m d, t = y ++ byte '-' :: (m ++ byte '-' :: d) ∧
    WritesIn 4 y year ∧ WritesIn 2 m month ∧ WritesIn 2 d day ∧ Calendar.IsDay year month day

/-- A text is another with at most one quote in front and at most one behind. -/
def Wraps (t u : Text) : Prop :=
  ∃ front back : Text, t = front ++ u ++ back ∧ (front = [] ∨ front = [byte '\'']) ∧
    (back = [] ∨ back = [byte '\''])

/-- A literal of the date column: a day, perhaps with quotes around it. -/
def NamesDay (t : Text) : Prop := ∃ u : Text, t.Wraps u ∧ u.WritesDay

/-- A literal of the number column, unless it names a day. -/
def NamesInt64 (t : Text) : Prop := ∃ n : Int, t.WritesInteger n ∧ -2 ^ 63 ≤ n ∧ n ≤ 2 ^ 63 - 1

theorem Writes.quote_not_mem {t : Text} {n : Nat} (h : t.Writes n) : byte '\'' ∉ t :=
  fun hq => absurd (h.digits _ hq) (by decide)

theorem WritesDay.quote_not_mem {t : Text} (h : t.WritesDay) : byte '\'' ∉ t := by
  obtain ⟨_, _, _, y, m, d, rfl, hy, hm, hd, -⟩ := h
  have hhyphen : byte '\'' ≠ byte '-' := by decide
  simp [hy.quote_not_mem, hm.quote_not_mem, hd.quote_not_mem, hhyphen]

theorem WritesDay.ne_nil {t : Text} (h : t.WritesDay) : t ≠ [] := by
  obtain ⟨_, _, _, y, m, d, rfl, -⟩ := h
  simp

theorem isSome_toInt64? {t : Text} : t.toInt64?.isSome ↔ t.NamesInt64 := by
  have hbounds : ∀ n : Int, IsInt64 n ↔ -2 ^ 63 ≤ n ∧ n ≤ 2 ^ 63 - 1 := by
    intro n
    unfold IsInt64
    omega
  rw [Option.isSome_iff_exists]
  simp only [NamesInt64, toInt64?_eq_some_iff, hbounds]

end Text

/-! ## The layout of the default mask -/

namespace Layout

open Text (WritesIn)

theorem digits?_eq_some_iff {width n : Nat} {value rest : Text} :
    digits? width width value = some (n, rest) ↔
      ∃ digits : Text, value = digits ++ rest ∧ WritesIn width digits n := by
  constructor
  · intro h
    simp only [digits?] at h
    split at h
    · cases h
    next hwidth =>
      cases h
      -- As many digits as bytes were looked at, so all of these are digits.
      have hprefix : (value.take width).takeWhile Text.isDigitByte <+: value.take width :=
        List.takeWhile_prefix _
      have hlength := hprefix.length_le
      rw [List.length_take] at hlength
      have hwhole : (value.take width).takeWhile Text.isDigitByte = value.take width :=
        hprefix.eq_of_length (by rw [List.length_take]; omega)
      have hall : (value.take width).all Text.isDigitByte = true := by
        rw [← hwhole]
        exact List.all_takeWhile
      have htaken : (value.take width).length = width := by
        rw [List.length_take]
        omega
      rw [hwhole]
      refine ⟨value.take width, ?_, ⟨Text.writes_iff.2 ⟨hall, rfl⟩, htaken⟩⟩
      rw [htaken, List.take_append_drop]
  · rintro ⟨digits, rfl, hwrites, rfl⟩
    obtain ⟨hall, rfl⟩ := Text.writes_iff.1 hwrites
    have hwhole : digits.takeWhile Text.isDigitByte = digits :=
      List.takeWhile_eq_self_iff.2 (List.all_eq_true.1 hall)
    simp [digits?, hwhole]

theorem within_eq_some_iff {least most : Nat} {r : Option (Nat × Text)} {n : Nat} {rest : Text} :
    within least most r = some (n, rest) ↔ r = some (n, rest) ∧ least ≤ n ∧ n ≤ most := by
  simp [within, Option.filter_eq_some_iff]

theorem literal?_nil {value rest : Text} : literal? false [] value = some rest ↔ value = rest := by
  simp [literal?]

theorem literal?_hyphen {value rest : Text} :
    literal? false "-" value = some rest ↔ value = byte '-' :: rest := by
  have hhyphen : Text.ofString "-" = [byte '-'] := rfl
  have hspace : byte '-' ≠ byte ' ' := by decide
  rw [hhyphen]
  cases value with
  | nil => simp [literal?, hspace]
  | cons b value =>
    by_cases hb : b = byte '-' <;> simp [literal?, hspace, hb]

section Fields

variable {r after : Reading} {next : Bool} {value rest : Text}

theorem field?_year :
    field? r next value .year = some (after, rest) ↔
      ∃ year y, value = y ++ rest ∧ WritesIn 4 y year ∧ after = { r with year := year } := by
  simp only [field?, Option.bind_eq_bind, Option.bind_eq_some_iff, Prod.exists,
    digits?_eq_some_iff, Option.some.injEq, Prod.mk.injEq]
  constructor
  · rintro ⟨year, _, ⟨y, hvalue, hy⟩, rfl, rfl⟩
    exact ⟨year, y, hvalue, hy, rfl⟩
  · rintro ⟨year, y, hvalue, hy, rfl⟩
    exact ⟨year, rest, ⟨y, hvalue, hy⟩, rfl, rfl⟩

theorem field?_month :
    field? r next value (.month .zero) = some (after, rest) ↔
      ∃ month m, value = m ++ rest ∧ WritesIn 2 m month ∧ (1 ≤ month ∧ month ≤ 12) ∧
        after = { r with month? := some month } := by
  simp only [field?, Option.bind_eq_bind, Option.bind_eq_some_iff, Prod.exists, number?, if_pos,
    within_eq_some_iff, digits?_eq_some_iff, Option.some.injEq, Prod.mk.injEq]
  constructor
  · rintro ⟨month, _, ⟨⟨m, hvalue, hm⟩, hmonth⟩, rfl, rfl⟩
    exact ⟨month, m, hvalue, hm, hmonth, rfl⟩
  · rintro ⟨month, m, hvalue, hm, hmonth, rfl⟩
    exact ⟨month, rest, ⟨⟨m, hvalue, hm⟩, hmonth⟩, rfl, rfl⟩

theorem field?_day :
    field? r next value (.day .zero) = some (after, rest) ↔
      ∃ day d, value = d ++ rest ∧ WritesIn 2 d day ∧ after = { r with day? := some day } := by
  have hpadding : Padding.zero ≠ .blank := by decide
  simp only [field?, Option.bind_eq_bind, Option.bind_eq_some_iff, Prod.exists, number?, if_pos,
    if_neg hpadding, digits?_eq_some_iff, Option.some.injEq, Prod.mk.injEq]
  constructor
  · rintro ⟨day, _, ⟨d, hvalue, hd⟩, rfl, rfl⟩
    exact ⟨day, d, hvalue, hd, rfl⟩
  · rintro ⟨day, d, hvalue, hd, rfl⟩
    exact ⟨day, rest, ⟨d, hvalue, hd⟩, rfl, rfl⟩

end Fields

/-- What is read of a year, a month and a day. -/
def Reading.ofDay (year month day : Nat) : Reading :=
  { year := year, month? := some month, day? := some day }

theorem Reading.isSome_moment (r : Reading) : r.moment.isSome = r.day.isSome := by
  unfold moment
  cases r.day <;> rfl

theorem Reading.isSome_moment_ofDay (year month day : Nat) :
    (Reading.ofDay year month day).moment.isSome ↔
      1 ≤ day ∧ day ≤ Calendar.lastDay year month := by
  have hday : (Reading.ofDay year month day).day =
      if 1 ≤ day && day ≤ Calendar.daysIn year month then some ⟨year, month, day⟩ else none := rfl
  rw [isSome_moment, hday, Calendar.daysIn_eq]
  split <;> simp_all

theorem fields?_default {value rest : Text} {r : Reading} :
    fields? {} Sniffer.default.layout.fields value = some (r, rest) ↔
      ∃ year month day y m d, value = y ++ byte '-' :: (m ++ byte '-' :: (d ++ rest)) ∧
        WritesIn 4 y year ∧ WritesIn 2 m month ∧ WritesIn 2 d day ∧
        (1 ≤ month ∧ month ≤ 12) ∧ r = Reading.ofDay year month day := by
  have hfields : Sniffer.default.layout.fields =
      [([], .year), ("-", .month .zero), ("-", .day .zero)] := rfl
  rw [hfields]
  simp only [fields?, Option.bind_eq_bind, Option.bind_eq_some_iff, Prod.exists, literal?_nil,
    literal?_hyphen, field?_year, field?_month, field?_day, Option.some.injEq, Prod.mk.injEq]
  constructor
  · rintro ⟨_, rfl, _, _, ⟨year, y, rfl, hy, rfl⟩, _, rfl, _, _, ⟨month, m, rfl, hm, hmonth, rfl⟩,
      _, rfl, _, _, ⟨day, d, rfl, hd, rfl⟩, rfl, rfl⟩
    exact ⟨year, month, day, y, m, d, rfl, hy, hm, hd, hmonth, rfl⟩
  · rintro ⟨year, month, day, y, m, d, rfl, hy, hm, hd, hmonth, rfl⟩
    exact ⟨_, rfl, _, _, ⟨year, y, rfl, hy, rfl⟩, _, rfl, _, _, ⟨month, m, rfl, hm, hmonth, rfl⟩,
      _, rfl, _, _, ⟨day, d, rfl, hd, rfl⟩, rfl, rfl⟩

theorem isSome_read?_default {t : Text} :
    (Sniffer.default.layout.read? t).isSome ↔ t.WritesDay := by
  have htail : Sniffer.default.layout.tail = [] := rfl
  rw [Option.isSome_iff_exists]
  simp only [read?, htail, Option.bind_eq_bind, Option.bind_eq_some_iff, Prod.exists, literal?_nil,
    Option.ite_none_right_eq_some, List.isEmpty_iff]
  constructor
  · rintro ⟨moment, r, rest, hfields, _, rfl, rfl, hmoment⟩
    obtain ⟨year, month, day, y, m, d, rfl, hy, hm, hd, hmonth, rfl⟩ := fields?_default.1 hfields
    have hday : (Reading.ofDay year month day).moment.isSome := by rw [hmoment]; rfl
    rw [Reading.isSome_moment_ofDay] at hday
    exact ⟨year, month, day, y, m, d, by simp, hy, hm, hd, hmonth.1, hmonth.2, hday.1, hday.2⟩
  · rintro ⟨year, month, day, y, m, d, rfl, hy, hm, hd, hday⟩
    have hread : (Reading.ofDay year month day).moment.isSome := by
      rw [Reading.isSome_moment_ofDay]
      exact ⟨hday.day_pos, hday.day_le⟩
    obtain ⟨moment, hmoment⟩ := Option.isSome_iff_exists.1 hread
    refine ⟨moment, _, [], fields?_default.2 ⟨year, month, day, y, m, d, ?_, hy, hm, hd,
      ⟨hday.month_pos, hday.month_le⟩, rfl⟩, _, rfl, rfl, hmoment⟩
    rw [List.append_nil]

end Layout

/-! ## Columns -/

namespace Sniffer

theorem wraps_trimQuotes (t : Text) : t.Wraps (trimQuotes t) := by
  have hback : ∀ u : Text, ∃ back : Text,
      u = (if u.getLast? = some (byte '\'') then u.dropLast else u) ++ back ∧
        (back = [] ∨ back = [byte '\'']) := by
    intro u
    split
    next h =>
      obtain ⟨v, rfl⟩ := List.getLast?_eq_some_iff.1 h
      exact ⟨[byte '\''], by simp, .inr rfl⟩
    · exact ⟨[], by simp, .inl rfl⟩
  unfold trimQuotes
  split
  next h =>
    obtain ⟨u, rfl⟩ := List.head?_eq_some_iff.1 h
    obtain ⟨back, hu, hquote⟩ := hback u
    exact ⟨[byte '\''], back, congrArg (byte '\'' :: ·) hu, .inr rfl, hquote⟩
  · obtain ⟨back, hu, hquote⟩ := hback t
    exact ⟨[], back, hu, .inl rfl, hquote⟩

theorem trimQuotes_of_wraps {t u : Text} (h : t.Wraps u) (hne : u ≠ []) (hu : byte '\'' ∉ u) :
    trimQuotes t = u := by
  obtain ⟨front, back, rfl, hfront, hback⟩ := h
  obtain ⟨b, v, rfl⟩ := List.exists_cons_of_ne_nil hne
  have hb : b ≠ byte '\'' := fun hq => hu (hq ▸ List.mem_cons_self)
  have hlast : (b :: v).getLast? ≠ some (byte '\'') := fun hq => hu (List.mem_of_getLast? hq)
  generalize hw : b :: v = w at hlast ⊢
  have hdrop : (if (front ++ w ++ back).head? = some (byte '\'') then (front ++ w ++ back).tail
      else front ++ w ++ back) = w ++ back := by
    rcases hfront with rfl | rfl <;> simp [← hw, hb]
  simp only [trimQuotes, hdrop]
  rcases hback with rfl | rfl <;> simp [hlast]

theorem isSome_moment_default {t : Text} : (default.moment? t).isSome ↔ t.NamesDay := by
  rw [moment?, Layout.isSome_read?_default]
  constructor
  · intro h
    exact ⟨trimQuotes t, wraps_trimQuotes t, h⟩
  · rintro ⟨u, hwraps, hu⟩
    rwa [trimQuotes_of_wraps hwraps hu.ne_nil hu.quote_not_mem]

/-- The default mask makes a sniffer, which finds dates in the literals that name a day, numbers in
the other literals that are integers of 64 bits, and texts in the rest. -/
theorem default_column_exact (t : Text) :
    ofMask "%Y-%m-%d" = .ok default ∧
      (default.column t = .date ↔ t.NamesDay) ∧
      (default.column t = .number ↔ ¬ t.NamesDay ∧ t.NamesInt64) ∧
      (default.column t = .text ↔ ¬ t.NamesDay ∧ ¬ t.NamesInt64) := by
  refine ⟨ofMask_defaultMask, ?_⟩
  rw [← isSome_moment_default, ← Text.isSome_toInt64?]
  unfold column
  cases (default.moment? t).isSome <;> cases t.toInt64?.isSome <;> simp

/-- A leap day with one quote is a date, and neither a thirtieth of February nor a number between
quotes is anything but a text. -/
example : default.column "2000-02-29'" = .date ∧ default.column "2000-02-30" = .text ∧
    default.column "-9223372036854775808" = .number ∧ default.column "'55'" = .text := by
  decide +kernel

end Sniffer

end TagFilter
