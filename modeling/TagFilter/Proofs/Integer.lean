import Mathlib.Data.Nat.Digits.Defs
import TagFilter.Column
import TagFilter.Text.Integer

/-!
# Integers in texts

A text writes an integer by digits, perhaps with a sign in front (`Text.WritesInteger`).  Integers
are read in two ways.  `Text.toInt64?` tells whether a literal belongs to the number column, and
`Text.toInteger` reads what is stored there.  Both read the integers of 64 bits that texts write,
and nothing else (`Text.toInt64?_eq_some_iff`, `Text.toInteger_eq_ok_iff`).
-/

namespace TagFilter

namespace Text

/-! ## Numbers in digits -/

/-- A text writes a number in ASCII digits. -/
structure Writes (t : Text) (n : Nat) : Prop where
  digits : ∀ b ∈ t, isDigitByte b = true
  value : Nat.ofDigits 10 (t.reverse.map digitValue) = n

/-- A text writes an integer: digits, perhaps with a sign in front. -/
inductive WritesInteger : Text → Int → Prop
  | unsigned {digits : Text} {n : Nat} : digits ≠ [] → digits.Writes n → WritesInteger digits n
  | plus {digits : Text} {n : Nat} : digits ≠ [] → digits.Writes n →
      WritesInteger (byte '+' :: digits) n
  | minus {digits : Text} {n : Nat} : digits ≠ [] → digits.Writes n →
      WritesInteger (byte '-' :: digits) (-n)

/-- An integer has 64 bits. -/
def IsInt64 (n : Int) : Prop := -2 ^ 63 ≤ n ∧ n < 2 ^ 63

/-- The integer that digits with a sign stand for. -/
def signedValue (negative : Bool) (digits : Text) : Int :=
  if negative then -(digitsValue digits : Int) else digitsValue digits

theorem digitsValue_eq (t : Text) :
    digitsValue t = Nat.ofDigits 10 (t.reverse.map digitValue) := by
  rw [digitsValue, List.foldl_eq_foldr_reverse, Nat.ofDigits_eq_foldr, List.foldr_map]
  congr 1
  funext b n
  exact Nat.add_comm _ _

theorem writes_iff {t : Text} {n : Nat} :
    t.Writes n ↔ t.all isDigitByte = true ∧ digitsValue t = n := by
  rw [List.all_eq_true, digitsValue_eq]
  exact ⟨fun h => ⟨h.digits, h.value⟩, fun h => ⟨h.1, h.2⟩⟩

theorem writesInteger_iff {t : Text} {n : Int} :
    t.WritesInteger n ↔ (splitSign t).2 ≠ [] ∧ (splitSign t).2.all isDigitByte = true ∧
      n = signedValue (splitSign t).1 (splitSign t).2 := by
  constructor
  · intro h
    cases h with
    | unsigned hne hwrites =>
      obtain ⟨b, v, rfl⟩ := List.exists_cons_of_ne_nil hne
      have hb := hwrites.digits b List.mem_cons_self
      have hminus : b ≠ byte '-' := by rintro rfl; cases hb
      have hplus : b ≠ byte '+' := by rintro rfl; cases hb
      obtain ⟨hall, hvalue⟩ := writes_iff.1 hwrites
      simp only [splitSign, if_neg hminus, if_neg hplus]
      exact ⟨hne, hall, by simp [signedValue, hvalue]⟩
    | plus hne hwrites =>
      obtain ⟨hall, hvalue⟩ := writes_iff.1 hwrites
      exact ⟨hne, hall, by simp [splitSign, signedValue, byte, hvalue]⟩
    | minus hne hwrites =>
      obtain ⟨hall, hvalue⟩ := writes_iff.1 hwrites
      exact ⟨hne, hall, by simp [splitSign, signedValue, hvalue]⟩
  · rintro ⟨hne, hall, rfl⟩
    have hwrites : (splitSign t).2.Writes (digitsValue (splitSign t).2) := writes_iff.2 ⟨hall, rfl⟩
    cases t with
    | nil => exact absurd rfl hne
    | cons b t =>
      by_cases hminus : b = byte '-'
      · subst hminus
        exact .minus hne hwrites
      by_cases hplus : b = byte '+'
      · subst hplus
        exact .plus hne hwrites
      · simp only [splitSign, if_neg hminus, if_neg hplus] at hne hwrites ⊢
        exact .unsigned hne hwrites

/-! ## Telling an integer -/

theorem isInt64_iff {n : Int} : IsInt64 n ↔ -(int64Bound : Int) ≤ n ∧ n < int64Bound := by
  unfold IsInt64 int64Bound
  omega

theorem toInt64?_eq (t : Text) :
    t.toInt64? =
      if (splitSign t).2.isEmpty || !(splitSign t).2.all isDigitByte then none
      else if -(int64Bound : Int) ≤ signedValue (splitSign t).1 (splitSign t).2 ∧
          signedValue (splitSign t).1 (splitSign t).2 < int64Bound then
        some (signedValue (splitSign t).1 (splitSign t).2)
      else none := by
  cases t with
  | nil => rfl
  | cons b t =>
    by_cases hminus : b = byte '-'
    · simp [toInt64?, splitSign, signedValue, hminus]
    · by_cases hplus : b = byte '+'
      · simp [toInt64?, splitSign, signedValue, hplus, byte]
      · simp [toInt64?, splitSign, signedValue, hminus, hplus]

theorem toInt64?_eq_some_iff {t : Text} {n : Int} :
    t.toInt64? = some n ↔ t.WritesInteger n ∧ IsInt64 n := by
  rw [toInt64?_eq, writesInteger_iff, isInt64_iff]
  constructor
  · intro h
    split at h
    · cases h
    next hdigits =>
      split at h
      next hbounds =>
        obtain rfl := Option.some.inj h
        simp only [Bool.or_eq_true, Bool.not_eq_true', not_or, Bool.not_eq_false,
          List.isEmpty_iff] at hdigits
        exact ⟨⟨hdigits.1, hdigits.2, rfl⟩, hbounds⟩
      · cases h
  · rintro ⟨⟨hne, hall, rfl⟩, hbounds⟩
    rw [if_neg (by simp [hne, hall])]
    exact if_pos hbounds

/-! ## Reading an integer -/

theorem le_foldl_digits (n : Nat) (t : Text) :
    n ≤ t.foldl (fun n b => 10 * n + digitValue b) n := by
  induction t generalizing n with
  | nil => exact Nat.le_refl n
  | cons b t ih =>
    have hstep := ih (10 * n + digitValue b)
    rw [List.foldl_cons]
    omega

theorem digitValue_lt {b : UInt8} (h : isDigitByte b = true) : digitValue b < 10 := by
  simp only [isDigitByte, Bool.and_eq_true, decide_eq_true_eq] at h
  have hle : b.toNat ≤ 57 := UInt8.le_iff_toNat_le.1 h.2
  unfold digitValue
  omega

/-- A digit below ten is an ASCII digit; letters stand for larger ones. -/
theorem anyDigit?_cases {b : UInt8} {d : Nat} (h : anyDigit? b = some d) :
    10 ≤ d ∨ isDigitByte b = true ∧ d = digitValue b := by
  unfold anyDigit? at h
  split at h
  next hdigit => exact .inr ⟨hdigit, (Option.some.inj h).symm⟩
  split at h
  next hlower =>
    simp only [Bool.and_eq_true, decide_eq_true_eq] at hlower
    have hle : (byte 'a').toNat ≤ b.toNat := UInt8.le_iff_toNat_le.1 hlower.1
    have hfirst : (byte 'a').toNat = 97 := rfl
    have hd := Option.some.inj h
    omega
  split at h
  next hupper =>
    simp only [Bool.and_eq_true, decide_eq_true_eq] at hupper
    have hle : (byte 'A').toNat ≤ b.toNat := UInt8.le_iff_toNat_le.1 hupper.1
    have hfirst : (byte 'A').toNat = 65 := rfl
    have hd := Option.some.inj h
    omega
  · cases h

/-- Digits are read to their value if it stays within 64 bits: then so do the values on the way. -/
theorem readDigits_of_lt {t : Text} (ht : t.all isDigitByte = true) (n : Nat)
    (h : t.foldl (fun n b => 10 * n + digitValue b) n < 2 * int64Bound) :
    readDigits 10 n t = .ok (t.foldl (fun n b => 10 * n + digitValue b) n) := by
  induction t generalizing n with
  | nil => rfl
  | cons b t ih =>
    rw [List.all_cons, Bool.and_eq_true] at ht
    rw [List.foldl_cons] at h ⊢
    have hdigit : anyDigit? b = some (digitValue b) := by rw [anyDigit?, if_pos ht.1]
    have hten : ¬ 10 ≤ digitValue b := Nat.not_le.2 (digitValue_lt ht.1)
    have hbound : ¬ 2 * int64Bound ≤ 10 * n + digitValue b := by
      have := le_foldl_digits (10 * n + digitValue b) t
      omega
    simp only [readDigits, hdigit, if_neg hten, if_neg hbound]
    exact ih ht.2 _ h

theorem digits_of_readDigits {t : Text} {n m : Nat} (h : readDigits 10 n t = .ok m) :
    t.all isDigitByte = true ∧ m = t.foldl (fun n b => 10 * n + digitValue b) n := by
  induction t generalizing n with
  | nil =>
    cases h
    exact ⟨rfl, rfl⟩
  | cons b t ih =>
    rw [readDigits] at h
    cases hd : anyDigit? b with
    | none =>
      rw [hd] at h
      cases h
    | some d =>
      simp only [hd] at h
      split at h
      · cases h
      next hten =>
        split at h
        · cases h
        · obtain ⟨hb, rfl⟩ := (anyDigit?_cases hd).resolve_left hten
          obtain ⟨hall, hvalue⟩ := ih h
          exact ⟨by rw [List.all_cons, hb, hall, Bool.and_true], hvalue⟩

theorem signed_eq_ok_iff {negative : Bool} {digits : Text} {n : Int} :
    signed negative (digitsValue digits) = .ok n ↔
      n = signedValue negative digits ∧ IsInt64 n := by
  unfold signed signedValue
  rw [isInt64_iff]
  have hpos : 0 < int64Bound := by decide
  cases negative with
  | true =>
    simp only [if_true]
    split
    next hle =>
      rw [Except.ok.injEq]
      omega
    next hgt => exact ⟨fun h => (by cases h), fun h => by omega⟩
  | false =>
    simp only [Bool.false_eq_true, if_false]
    split
    next hlt =>
      rw [Except.ok.injEq]
      omega
    next hge => exact ⟨fun h => (by cases h), fun h => by omega⟩

theorem toInteger_eq (t : Text) :
    t.toInteger =
      if (splitSign t).2.isEmpty then .error .malformed
      else readDigits 10 0 (splitSign t).2 >>= signed (splitSign t).1 := by
  unfold toInteger
  cases hsplit : splitSign t with
  | mk negative digits =>
    cases hempty : digits.isEmpty <;> simp only [hempty] <;> rfl

theorem toInteger_eq_ok_iff {t : Text} {n : Int} :
    t.toInteger = .ok n ↔ t.WritesInteger n ∧ IsInt64 n := by
  rw [toInteger_eq, writesInteger_iff]
  constructor
  · intro h
    split at h
    · cases h
    next hne =>
      rw [List.isEmpty_iff] at hne
      cases hread : readDigits 10 0 (splitSign t).2 with
      | error p =>
        rw [hread] at h
        cases h
      | ok m =>
        rw [hread] at h
        obtain ⟨hall, rfl⟩ := digits_of_readDigits hread
        obtain ⟨hn, hbounds⟩ := signed_eq_ok_iff.1 h
        exact ⟨⟨hne, hall, hn⟩, hbounds⟩
  · rintro ⟨⟨hne, hall, hn⟩, hbounds⟩
    have hlt : digitsValue (splitSign t).2 < 2 * int64Bound := by
      have hpos : 0 < int64Bound := by decide
      rw [isInt64_iff, hn, signedValue] at hbounds
      split at hbounds <;> omega
    have hread : readDigits 10 0 (splitSign t).2 = .ok (digitsValue (splitSign t).2) :=
      readDigits_of_lt hall 0 hlt
    rw [if_neg (by simp [hne]), hread]
    exact signed_eq_ok_iff.2 ⟨hn, hbounds⟩

end Text

end TagFilter
