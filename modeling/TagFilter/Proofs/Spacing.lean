import TagFilter.Proofs.Print
import TagFilter.Proofs.Quoting

/-!
# Tokens with blanks between them

A token is cut off where the text around it says so: at the byte after a dot, a star or a bar, or
where digits end.  In a text without backslashes and backticks the token keeps the bytes it was cut
from, and these bytes alone are cut the same way: a word ends where it did because nothing follows
(`Token.word_alone`), and a literal has its quotes.  So the tokens of such a text, written with
blanks between them, are the same tokens.
-/

namespace TagFilter

namespace Token

/-- A text has neither backslashes nor backticks. -/
def Plain (t : Text) : Prop := backslash ∉ t ∧ backtick ∉ t

theorem Plain.of_suffix {t u : Text} (h : Plain t) (hu : u <:+ t) : Plain u :=
  ⟨fun hb => h.1 (hu.subset hb), fun hb => h.2 (hu.subset hb)⟩

/-! ## Words -/

theorem move_symbol_alone {p : Pending} {b : UInt8} {t : Text} (h : move p b t = .symbol) :
    move p b [] = .symbol := by
  unfold move at h ⊢
  grind [startsWithDigit]

theorem move_twin_alone {p : Pending} {b : UInt8} {t : Text} (h : move p b t = .twin) :
    move p b [b] = .twin := by
  unfold move at h ⊢
  grind

theorem move_take_alone {p : Pending} {b : UInt8} {t u : Text} (h : move p b t = .take)
    (hu : startsWithDigit t = true → startsWithDigit u = true) : move p b u = .take := by
  unfold move at h ⊢
  grind

theorem startsWithDigit_word {p : Pending} {t text rest : Text}
    (h : word p t = some (text, rest)) (ht : startsWithDigit t = true) :
    startsWithDigit text = true := by
  cases t with
  | nil => cases ht
  | cons b t =>
    rw [word_take (move_digit ht t)] at h
    obtain ⟨tail, -, rfl⟩ := prepend_eq_some.1 h
    exact ht

/-- A word without escapes is read from its own bytes up to their end. -/
theorem word_alone {p : Pending} {t text rest : Text} (h : word p t = some (text, rest))
    (ht : backslash ∉ t) : word p text = some (text, []) := by
  fun_induction word p t generalizing text with
  | case1 | case2 =>
    cases h
    rfl
  | case3 p b t hmove =>
    cases h
    exact word_symbol (move_symbol_alone hmove)
  | case4 p b t hmove =>
    cases h
    exact word_twin (move_twin_alone hmove)
  | case5 p b t hmove ih =>
    obtain ⟨tail, htail, rfl⟩ := prepend_eq_some.1 h
    have hself := ih htail fun hb => ht (List.mem_cons_of_mem b hb)
    -- A dot in front of digits still has them behind it.
    rw [word_take (move_take_alone hmove (startsWithDigit_word htail)), hself]
    rfl
  | case6 p b hmove =>
    obtain rfl := move_eq_escape_iff.1 hmove
    exact absurd List.mem_cons_self ht
  | case7 p b c t hmove ih =>
    obtain rfl := move_eq_escape_iff.1 hmove
    exact absurd List.mem_cons_self ht

theorem exists_cons_of_word {b : UInt8} {t text rest : Text} (hb : isSpace b = false)
    (hbackslash : b ≠ backslash) (h : word .nothing (b :: t) = some (text, rest)) :
    ∃ tail, text = b :: tail := by
  cases hmove : move .nothing b t with
  | stop => exact absurd hmove (move_nothing_ne_stop hb)
  | symbol =>
    rw [word_symbol hmove] at h
    cases h
    exact ⟨[], rfl⟩
  | twin =>
    rw [word_twin hmove] at h
    cases h
    exact ⟨[b], rfl⟩
  | take =>
    rw [word_take hmove] at h
    obtain ⟨tail, -, rfl⟩ := prepend_eq_some.1 h
    exact ⟨tail, rfl⟩
  | escape => exact absurd (move_eq_escape_iff.1 hmove) hbackslash

/-! ## Tokens -/

theorem fallsInto_word {b : UInt8} {t text rest : Text} (hb : isSpace b = false)
    (hopens : ¬ Opens b) (ht : Plain (b :: t)) (h : word .nothing (b :: t) = some (text, rest)) :
    FallsInto text [text] := by
  have hbackslash : b ≠ backslash := fun hb => ht.1 (hb ▸ List.mem_cons_self)
  have hself := word_alone h ht.1
  obtain ⟨tail, rfl⟩ := exists_cons_of_word hb hbackslash h
  exact ⟨_, Scan.tokens_of_read hb (read_of_word hopens hself), rfl⟩

theorem fallsInto_quoted {q : UInt8} (hq : Opens q) (hne : q ≠ backtick) {t inner rest : Text}
    (ht : Plain t) (h : quoted q t = some (inner, rest)) :
    FallsInto (literalText q inner) [literalText q inner] := by
  obtain ⟨rfl, hlast⟩ := (quoted_eq_some_iff hq.ne_backslash).1 h
  have hquote : q ∉ inner := by
    intro hmem
    exact ht.1 (List.mem_append_left _ (backslash_mem_escapeQuotes hmem))
  have htokens := Scan.tokens_literal hq hlast
  rw [literal_of_not_mem hquote] at htokens
  rw [literalText, if_neg hne] at htokens ⊢
  exact ⟨_, htokens, rfl⟩

theorem fallsInto_read {b : UInt8} {t text rest : Text} (hb : isSpace b = false)
    (ht : Plain (b :: t)) (h : read b t = .ok (text, rest)) : FallsInto text [text] := by
  have hbacktick : b ≠ backtick := fun hb => ht.2 (hb ▸ List.mem_cons_self)
  rcases read_cases h with ⟨hopens, inner, hquoted, rfl⟩ | ⟨hopens, hword⟩
  · exact fallsInto_quoted hopens hbacktick (ht.of_suffix (List.suffix_cons b t)) hquoted
  · exact fallsInto_word hb hopens ht hword

end Token

/-! ## Scans -/

theorem Scan.next_plain {s after : Scan} (hs : Token.Plain s.rest) {t : Token}
    (h : s.next = .token t after) : FallsInto t.text [t.text] ∧ Token.Plain after.rest := by
  have hrest : after.rest <:+ s.rest := by
    obtain ⟨lead, raw, hrest, -⟩ := next_eq_token h
    rw [hrest, ← List.append_assoc]
    exact List.suffix_append _ _
  obtain ⟨b, rest, hskip, hb, hread, -⟩ := read_of_next h
  have hplain : Token.Plain (b :: rest) :=
    hs.of_suffix (hskip ▸ List.dropWhile_suffix Token.isSpace)
  exact ⟨Token.fallsInto_read hb hplain hread, hs.of_suffix hrest⟩

/-- Every token of a plain text is one token by itself. -/
theorem Scan.tokens_plain {s : Scan} (hs : Token.Plain s.rest) {ts : List Token}
    (h : s.tokens = .ok ts) : ∀ t ∈ ts, FallsInto t.text [t.text] := by
  fun_induction Scan.tokens s generalizing ts with
  | case1 =>
    cases h
    simp
  | case2 => cases h
  | case3 s t after hnext ts hts ih =>
    cases h
    obtain ⟨ht, hafter⟩ := next_plain hs hnext
    exact List.forall_mem_cons.2 ⟨ht, ih hafter hts⟩
  | case4 => cases h

/-- The tokens of a text without backslashes and backticks, written with blanks between them, are
the same tokens. -/
theorem tokenize_spaced {input : Text} {ts : List Token} (hts : tokenize input = .ok ts)
    (hbackslash : Token.backslash ∉ input) (hbacktick : Token.backtick ∉ input) :
    ∃ us, tokenize (Text.join " " (ts.map Token.text)) = .ok us ∧
      us.map Token.text = ts.map Token.text :=
  fallsInto_join (Scan.tokens_plain ⟨hbackslash, hbacktick⟩ hts)

/-- The tokens of `1.5.x.7***'it"s'` are cut off at dots, stars and a quote. -/
theorem tokenize_spaced_glued :
    let input : Text := "1.5.x.7***'it\"s'"
    let ts : List Token := [⟨"1.5", 3⟩, ⟨".", 4⟩, ⟨"x", 5⟩, ⟨".7", 7⟩, ⟨"**", 9⟩, ⟨"*", 10⟩,
      ⟨"'it\"s'", 16⟩]
    tokenize input = .ok ts ∧ Token.backslash ∉ input ∧ Token.backtick ∉ input ∧
      ∃ us, tokenize "1.5 . x .7 ** * 'it\"s'" = .ok us ∧
        us.map Token.text = ts.map Token.text := by
  intro input ts
  have hts : tokenize input = .ok ts := by decide +kernel
  have hbackslash : Token.backslash ∉ input := by decide
  have hbacktick : Token.backtick ∉ input := by decide
  exact ⟨hts, hbackslash, hbacktick, tokenize_spaced hts hbackslash hbacktick⟩

end TagFilter
