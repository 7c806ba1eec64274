import TagFilter.Proofs.Meaning
import TagFilter.Proofs.Print
import TagFilter.Proofs.Quoting
import TagFilter.Proofs.SeedRows

/-!
# Seeds and filters agree

A seed sorts a tag into a column by its literal: the value with quotes around it if the scalar was
quoted, and the bare value otherwise.  A filter sorts by the text of its token.  For a value that
can stand between quotes the two agree: quotes make no difference to a date and turn a number into a
text (`Sniffer.column_inQuotes`).  So a date or a text is found by the filter that compares its name
with the value in quotes, and a number by the one that compares its name with the bare value.

The filters are read token by token: `fallsInto_literal` and `fallsInto_digits` say that such values
are one token each.
-/

namespace TagFilter

open Grammar Parsing

/-- A text in single quotes. -/
def Text.inQuotes (t : Text) : Text := byte '\'' :: t ++ [byte '\'']

/-! ## Literals -/

namespace Token

theorem word_digits {t : Text} (ht : ∀ b ∈ t, Text.isDigitByte b = true) (p : Pending) :
    word p t = some (t, []) := by
  induction t generalizing p with
  | nil => rfl
  | cons b t ih =>
    rw [List.forall_mem_cons] at ht
    rw [word_take (move_digit ht.1 t), ih ht.2]
    rfl

end Token

theorem fallsInto_literal {t : Text} (hq : byte '\'' ∉ t)
    (hend : t.getLast? ≠ some Token.backslash) : FallsInto t.inQuotes [t.inQuotes] := by
  have htokens := Scan.tokens_literal (q := byte '\'') (.inr (.inl rfl)) hend
  rw [Token.literal_of_not_mem hq] at htokens
  exact ⟨_, htokens, rfl⟩

theorem fallsInto_digits {t : Text} (hne : t ≠ []) (ht : ∀ b ∈ t, Text.isDigitByte b = true) :
    FallsInto t [t] := by
  cases t with
  | nil => exact absurd rfl hne
  | cons b t =>
    have hb := ht b List.mem_cons_self
    have hopens : ¬ Token.Opens b := by
      rintro (rfl | rfl | rfl) <;> cases hb
    have hspace : Token.isSpace b = false := by
      cases h : Token.isSpace b with
      | false => rfl
      | true =>
        rw [(Token.not_doubling_of_separate (.inl h)).2] at hb
        cases hb
    have hread := Token.read_of_word hopens (Token.word_digits ht .nothing)
    exact ⟨_, Scan.tokens_of_read hspace hread, rfl⟩

/-! ## Meanings -/

theorem isDigitByte_cases {b : UInt8} (h : Text.isDigitByte b = true) :
    b = 48 ∨ b = 49 ∨ b = 50 ∨ b = 51 ∨ b = 52 ∨ b = 53 ∨ b = 54 ∨ b = 55 ∨ b = 56 ∨ b = 57 := by
  simp only [Text.isDigitByte, Bool.and_eq_true, decide_eq_true_eq] at h
  have hlow : 48 ≤ b.toNat := UInt8.le_iff_toNat_le.1 h.1
  have hhigh : b.toNat ≤ 57 := UInt8.le_iff_toNat_le.1 h.2
  simp only [← UInt8.toNat_inj]
  simp only [UInt8.reduceToNat]
  omega

theorem startsWithDigit_toLower {word : Text} (h : Token.startsWithDigit word = true) :
    Token.startsWithDigit word.toLower = true := by
  cases word with
  | nil => cases h
  | cons b rest =>
    rcases isDigitByte_cases h with
      rfl | rfl | rfl | rfl | rfl | rfl | rfl | rfl | rfl | rfl <;> rfl

theorem startsWithDigit_spellings :
    ∀ s ∈ Operator.spellings, Token.startsWithDigit (Text.ofString s.1) = false := by
  decide +kernel

/-- A word that starts with a digit has no meaning of its own. -/
theorem ofSpelling?_of_startsWithDigit {word : Text} (h : Token.startsWithDigit word = true) :
    Operator.ofSpelling? word = none :=
  ofSpelling?_eq_none startsWithDigit_spellings (startsWithDigit_toLower h)

theorem startsWithDigit_of_digits {t : Text} (hne : t ≠ [])
    (ht : ∀ b ∈ t, Text.isDigitByte b = true) : Token.startsWithDigit t = true := by
  cases t with
  | nil => exact absurd rfl hne
  | cons b t => exact ht b List.mem_cons_self

/-! ## Columns -/

namespace Sniffer

theorem trimQuotes_inQuotes (t : Text) : trimQuotes t.inQuotes = t := by
  simp [trimQuotes, Text.inQuotes]

theorem trimQuotes_of_not_mem {t : Text} (h : byte '\'' ∉ t) : trimQuotes t = t := by
  have hhead : t.head? ≠ some (byte '\'') := fun hq => h (List.mem_of_head? hq)
  have hlast : t.getLast? ≠ some (byte '\'') := fun hq => h (List.mem_of_getLast? hq)
  simp [trimQuotes, hhead, hlast]

theorem toInt64?_inQuotes (t : Text) : t.inQuotes.toInt64? = none := by
  simp [Text.toInt64?_eq, Text.splitSign, Text.inQuotes, byte, Text.isDigitByte]

theorem column_inQuotes (s : Sniffer) {t : Text} (h : byte '\'' ∉ t) :
    s.column t.inQuotes = if s.column t = .number then .text else s.column t := by
  have hmoment : s.moment? t.inQuotes = s.moment? t := by
    rw [moment?, moment?, trimQuotes_inQuotes, trimQuotes_of_not_mem h]
  unfold column
  rw [hmoment, toInt64?_inQuotes]
  cases (s.moment? t).isSome <;> cases t.toInt64?.isSome <;> rfl

end Sniffer

theorem SeedTag.literal_eq (t : SeedTag) :
    t.literal = if t.quoted then t.value.inQuotes else t.value := rfl

theorem SeedTag.column_literal (s : Sniffer) (t : SeedTag) :
    s.column t.literal =
      if t.quoted then s.column ("'" ++ t.value ++ "'") else s.column t.value := by
  unfold literal
  split <;> rfl

/-- A tag outside the number column is in the column of its value in quotes. -/
theorem SeedTag.column_inQuotes {s : Sniffer} {t : SeedTag} (hquote : byte '\'' ∉ t.value)
    (h : s.column t.literal ≠ .number) : s.column t.value.inQuotes = s.column t.literal := by
  rw [literal_eq] at h ⊢
  cases hquoted : t.quoted with
  | true => simp
  | false =>
    simp only [hquoted, Bool.false_eq_true, if_false] at h ⊢
    rw [s.column_inQuotes hquote, if_neg h]

/-- A tag in the number column has an integer as its value, without quotes. -/
theorem SeedTag.of_column_number {s : Sniffer} {t : SeedTag} (h : s.column t.literal = .number) :
    t.literal = t.value ∧ ∃ n, t.value.toInt64? = some n := by
  have hsome : t.literal.toInt64?.isSome := by
    unfold Sniffer.column at h
    grind
  have hliteral : t.literal = t.value := by
    rw [literal_eq] at hsome ⊢
    cases hquoted : t.quoted with
    | true =>
      rw [hquoted, if_pos rfl, Sniffer.toInt64?_inQuotes] at hsome
      cases hsome
    | false => rfl
  rw [hliteral] at hsome
  exact ⟨hliteral, Option.isSome_iff_exists.1 hsome⟩

/-- Every tag can be kept in the column of its literal. -/
theorem SeedTag.exists_keep (s : Sniffer) (t : SeedTag) :
    ∃ v : RowValues, v.Keep (s.classifier t.literal) t.value := by
  unfold Sniffer.classifier
  cases h : s.column t.literal with
  | text => exact ⟨_, .text rfl⟩
  | date => exact ⟨_, .date rfl⟩
  | number =>
    obtain ⟨-, n, hn⟩ := of_column_number h
    obtain ⟨hwrites, hbounds⟩ := Text.toInt64?_eq_some_iff.1 hn
    exact ⟨_, .number rfl hwrites hbounds⟩

/-- A tag with a name can be kept in any entry. -/
theorem SeedTag.exists_keptBy (s : Sniffer) {entry : Text} (hentry : entry ≠ []) {t : SeedTag}
    (ht : t.name ≠ []) : ∃ r, t.KeptBy s.classifier entry r := by
  obtain ⟨v, hv⟩ := t.exists_keep s
  exact ⟨⟨entry, t.name, v⟩, rfl, rfl, hentry, ht, hv⟩

theorem digits_of_toInt64? {t : Text} {n : Int} (h : t.toInt64? = some n)
    (hsign : ∀ b ∈ t.head?, b ≠ byte '+' ∧ b ≠ byte '-') :
    t ≠ [] ∧ ∀ b ∈ t, Text.isDigitByte b = true := by
  obtain ⟨hwrites, -⟩ := Text.toInt64?_eq_some_iff.1 h
  cases hwrites with
  | unsigned hne hdigits => exact ⟨hne, hdigits.digits⟩
  | plus => exact absurd rfl (hsign _ rfl).1
  | minus => exact absurd rfl (hsign _ rfl).2

/-! ## Filters -/

theorem FallsInto.ne_nil {t : Text} (h : FallsInto t [t]) : t ≠ [] := by
  rintro rfl
  obtain ⟨tokens, htokens, hwords⟩ := h
  rw [tokenize, Scan.tokens_of_done rfl] at htokens
  cases htokens
  cases hwords

/-- A comparison of two words without a meaning of their own is read as one. -/
theorem compile_comparison {name value : Text} (hname : FallsInto name [name])
    (hvalue : FallsInto value [value]) (hname' : Operator.ofSpelling? name = none)
    (hvalue' : Operator.ofSpelling? value = none) :
    compile (name ++ " = " ++ value) = .ok (.op .eq (.leaf name) (.leaf value)) := by
  have hspaced : Text.ofString " = " = " " ++ (Text.ofString "=" ++ " ") := rfl
  obtain ⟨tokens, htokens, hwords⟩ := (hname.append (fallsInto_symbol .eq)).append hvalue
  have hequals : Means (Tag.op .eq).spelled .eq := means_symbol rfl
  have hleft : Derives .sum [name] (.leaf name) :=
    (derives_leaf (.inl hname')).loosen (by decide) (by decide)
  have hright : Derives .sum [value] (.leaf value) :=
    (derives_leaf (.inl hvalue')).loosen (by decide) (by decide)
  have hderives := hleft.compare (.plain hequals) rfl hright
  refine compile_eq_ok_iff.2 ⟨tokens, .op .eq (.leaf name) (.leaf value), ?_, ?_, rfl⟩
  · rw [← htokens, hspaced]
    simp only [List.append_assoc]
    rfl
  · rw [hwords]
    exact hderives.loosen (by decide) (by decide)

theorem Sniffer.render_comparison (s : Sniffer) (select name literal : Text) :
    s.render select (.op .eq (.leaf name) (.leaf literal)) =
      select ++ " where name = '" ++ name ++ "' and " ++ (s.column literal).name ++ " = " ++
        literal := by
  have hsays : s.Says (.op .eq (.leaf name) (.leaf literal))
      (.test ⟨name, .compared (s.column literal) .eq literal⟩) := .compared (.inl rfl)
  have hspelled : Tag.spelled (.op .eq) = Text.ofString "=" := by decide
  have hspaced : Text.ofString " = " = " " ++ (Text.ofString "=" ++ " ") := rfl
  have hwhere : Text.ofString " where name = '" = " where " ++ Text.ofString "name = '" := rfl
  have hand : Text.ofString "' and " = "'" ++ Text.ofString " and " := rfl
  rw [render, hsays.predicate, hspaced, hwhere, hand]
  simp [Formula.written, Clause.print, Condition.print, ValueCondition.print, hspelled]

theorem append_equals_inQuotes (left value : Text) :
    left ++ " = '" ++ value ++ "'" = left ++ " = " ++ value.inQuotes := by
  have hspaced : Text.ofString " = '" = " = " ++ [byte '\''] := rfl
  have hquote : Text.ofString "'" = [byte '\''] := rfl
  simp [hspaced, hquote, Text.inQuotes]

/-- Whatever a seed keeps is found by a filter.  A tag with a name that is one word without a
meaning of its own, and with a value that can stand between quotes, is kept in the column of that
value, which is sorted with quotes around it if the scalar was quoted.  The filter that compares the
name with the value, in quotes unless it is a number, asks for that name and for the value in that
column. -/
theorem seeded_found_by_filter (s : Sniffer) (select : Text) (tag : SeedTag)
    (hname : FallsInto tag.name [tag.name]) (hplain : Operator.ofSpelling? tag.name = none)
    (hquote : byte '\'' ∉ tag.value) (hend : tag.value.getLast? ≠ some Token.backslash) :
    let column := if tag.quoted then s.column ("'" ++ tag.value ++ "'") else s.column tag.value
    (∀ entry rows, entry ≠ [] → ∃ r : Row,
      Store.insertTags s.classifier entry ⟨true, rows⟩ [tag] = .ok ⟨true, rows ++ [r]⟩ ∧
        NewTag.KeptBy ⟨entry, tag.name, column.name, tag.value⟩ r) ∧
      (column ≠ .number →
        ∃ t, compile (tag.name ++ " = '" ++ tag.value ++ "'") = .ok t ∧
          s.render select t = select ++ " where name = '" ++ tag.name ++ "' and " ++
            column.name ++ " = '" ++ tag.value ++ "'") ∧
      (column = .number → (∀ b ∈ tag.value.head?, b ≠ byte '+' ∧ b ≠ byte '-') →
        ∃ t, compile (tag.name ++ " = " ++ tag.value) = .ok t ∧
          s.render select t = select ++ " where name = '" ++ tag.name ++ "' and num_value = " ++
            tag.value) := by
  intro column
  have hliteral : column = s.column tag.literal := (tag.column_literal s).symm
  rw [hliteral]
  refine ⟨?_, ?_, ?_⟩
  · intro entry rows hentry
    obtain ⟨r, hr⟩ := SeedTag.exists_keptBy s hentry hname.ne_nil
    exact ⟨r, Store.insertTags_eq_ok_iff.2 ⟨[r], rfl, .cons hr .nil⟩, hr⟩
  · intro hcolumn
    have hcompile := compile_comparison hname (fallsInto_literal hquote hend) hplain
      (ofSpelling?_of_isQuoted rfl)
    have hrender := s.render_comparison select tag.name tag.value.inQuotes
    rw [SeedTag.column_inQuotes hquote hcolumn] at hrender
    rw [append_equals_inQuotes, append_equals_inQuotes]
    exact ⟨_, hcompile, hrender⟩
  · intro hcolumn hsign
    obtain ⟨hliteral, n, hn⟩ := SeedTag.of_column_number hcolumn
    obtain ⟨hne, hdigits⟩ := digits_of_toInt64? hn hsign
    have hcompile := compile_comparison hname (fallsInto_digits hne hdigits) hplain
      (ofSpelling?_of_startsWithDigit (startsWithDigit_of_digits hne hdigits))
    have hrender := s.render_comparison select tag.name tag.value
    have hand : Text.ofString "' and num_value = " =
        "' and " ++ (Text.ofString Column.number.name ++ " = ") := rfl
    rw [← hliteral, hcolumn] at hrender
    refine ⟨_, hcompile, ?_⟩
    rw [← hliteral, hrender, hand]
    simp only [List.append_assoc]

/-- A quoted date and a bare number, kept by a seed and found by their filters. -/
theorem seeded_found_by_filter_date_and_number :
    let s := Sniffer.default
    let born : SeedTag := ⟨"born", "2001-02-03", true⟩
    let age : SeedTag := ⟨"age", "042", false⟩
    s.column ("'" ++ born.value ++ "'") = .date ∧ s.column age.value = .number ∧
      (∃ t, compile "born = '2001-02-03'" = .ok t ∧
        s.render "q" t = "q where name = 'born' and date_value = '2001-02-03'") ∧
      ∃ t, compile "age = 042" = .ok t ∧
        s.render "q" t = "q where name = 'age' and num_value = 042" := by
  intro s born age
  have hborn : s.column ("'" ++ born.value ++ "'") = .date := by decide +kernel
  have hage : s.column age.value = .number := by decide +kernel
  have hdate := seeded_found_by_filter s "q" born ⟨[⟨"born", 4⟩], by decide +kernel, rfl⟩
    (by decide +kernel) (by decide +kernel) (by decide +kernel)
  have hnumber := seeded_found_by_filter s "q" age ⟨[⟨"age", 3⟩], by decide +kernel, rfl⟩
    (by decide +kernel) (by decide +kernel) (by decide +kernel)
  simp only [born, age, if_true, Bool.false_eq_true, if_false] at hborn hage hdate hnumber
  rw [hborn] at hdate
  exact ⟨hborn, hage, hdate.2.1 (by decide), hnumber.2.2 hage (by decide +kernel)⟩

end TagFilter
