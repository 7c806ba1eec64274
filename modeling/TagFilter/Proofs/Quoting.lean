import TagFilter.Proofs.Slice

/-!
# Literals and what they hold

A text is written as a literal between quotes, with a backslash before every quote in it
(`Token.literal`).  A backslash of the text itself stands for itself, also before a quote, since
that quote comes with a backslash of its own.  Only at the end there is no way to write one: it
would take the closing quote for one inside.  So a literal that is read is the literal of exactly
one text, and that text does not end in a backslash (`Token.quoted_eq_some_iff`).
-/

namespace TagFilter

namespace Token

/-- A text with a backslash before every quote. -/
def escapeQuotes (q : UInt8) (s : Text) : Text := s.replaceByte q [backslash, q]

/-- A text between quotes. -/
def literal (q : UInt8) (s : Text) : Text := q :: escapeQuotes q s ++ [q]

theorem escapeQuotes_cons_self (q : UInt8) (s : Text) :
    escapeQuotes q (q :: s) = backslash :: q :: escapeQuotes q s := by
  simp [escapeQuotes, Text.replaceByte]

theorem escapeQuotes_cons_of_ne {b q : UInt8} (h : b ≠ q) (s : Text) :
    escapeQuotes q (b :: s) = b :: escapeQuotes q s := by
  simp [escapeQuotes, Text.replaceByte, h]

theorem escapeQuotes_append (q : UInt8) (s u : Text) :
    escapeQuotes q (s ++ u) = escapeQuotes q s ++ escapeQuotes q u := by
  simp [escapeQuotes, Text.replaceByte]

theorem backslash_mem_escapeQuotes {q : UInt8} {s : Text} (h : q ∈ s) :
    backslash ∈ escapeQuotes q s := by
  refine List.mem_flatMap.2 ⟨q, h, ?_⟩
  rw [if_pos rfl]
  exact List.mem_cons_self

theorem literal_of_not_mem {q : UInt8} {s : Text} (h : q ∉ s) : literal q s = q :: s ++ [q] := by
  have hplain : escapeQuotes q s = s := by
    induction s with
    | nil => rfl
    | cons b s ih =>
      rw [List.mem_cons, not_or] at h
      rw [escapeQuotes_cons_of_ne (Ne.symm h.1), ih h.2]
  rw [literal, hplain]

theorem getLast?_cons_ne {b c : UInt8} {t : Text} (ht : t.getLast? ≠ some c)
    (hb : t = [] → b ≠ c) : (b :: t).getLast? ≠ some c := by
  cases t with
  | nil => simpa using hb rfl
  | cons d t => rwa [List.getLast?_cons_cons]

theorem getLast?_escapeQuotes (q : UInt8) (s : Text) :
    (escapeQuotes q s).getLast? = s.getLast? := by
  rcases List.eq_nil_or_concat s with rfl | ⟨u, b, rfl⟩
  · rfl
  · rw [List.concat_eq_append, escapeQuotes_append, List.getLast?_concat]
    by_cases hb : b = q
    · rw [hb, escapeQuotes_cons_self]
      simp [escapeQuotes, Text.replaceByte]
    · rw [escapeQuotes_cons_of_ne hb]
      simp [escapeQuotes, Text.replaceByte]

/-! ## Reading literals -/

section

variable {q : UInt8} (hq : backslash ≠ q)

include hq

/-- What follows a backslash of the text is the quote only where the text ends. -/
theorem head?_escapeQuotes {s rest : Text} (h : (escapeQuotes q s ++ rest).head? = some q) :
    s = [] ∧ rest.head? = some q := by
  cases s with
  | nil => exact ⟨rfl, h⟩
  | cons b s =>
    exfalso
    by_cases hb : b = q
    · subst hb
      rw [escapeQuotes_cons_self] at h
      exact hq (Option.some.inj h)
    · rw [escapeQuotes_cons_of_ne hb] at h
      exact hb (Option.some.inj h)

/-- Reading goes through an escaped text byte by byte, unless a backslash at its end meets a
quote. -/
theorem quoted_escapeQuotes {s rest : Text}
    (h : s.getLast? = some backslash → rest.head? ≠ some q) :
    quoted q (escapeQuotes q s ++ rest) =
      (quoted q rest).map fun part => (s ++ part.1, part.2) := by
  induction s with
  | nil =>
    show quoted q rest = _
    cases quoted q rest <;> rfl
  | cons b s ih =>
    have htail : s.getLast? = some backslash → rest.head? ≠ some q := by
      intro hlast
      apply h
      rw [List.getLast?_cons, hlast]
      rfl
    by_cases hb : b = q
    · subst hb
      rw [escapeQuotes_cons_self, List.cons_append, List.cons_append, quoted_escaped hq, ih htail]
      cases quoted b rest <;> rfl
    · have hplain : ¬ (b = backslash ∧ (escapeQuotes q s ++ rest).head? = some q) := by
        rintro ⟨rfl, hhead⟩
        obtain ⟨rfl, hrest⟩ := head?_escapeQuotes hq hhead
        exact h rfl hrest
      rw [escapeQuotes_cons_of_ne hb, List.cons_append, quoted_plain hb hplain, ih htail]
      cases quoted q rest <;> rfl

theorem eq_escapeQuotes_of_quoted {t inner rest : Text} (h : quoted q t = some (inner, rest)) :
    t = escapeQuotes q inner ++ q :: rest ∧ inner.getLast? ≠ some backslash := by
  fun_induction quoted q t generalizing inner with
  | case1 => cases h
  | case2 =>
    cases h
    exact ⟨rfl, by simp⟩
  | case3 b _ c t hescape ih =>
    obtain ⟨tail, htail, rfl⟩ := prepend_eq_some.1 h
    obtain ⟨rfl, hlast⟩ := ih htail
    obtain ⟨rfl, hc⟩ := hescape
    obtain rfl : c = q := by simpa using hc
    refine ⟨?_, getLast?_cons_ne hlast fun _ => hq.symm⟩
    rw [escapeQuotes_cons_self]
    rfl
  | case4 => cases h
  | case5 b t hb hescape ih =>
    obtain ⟨tail, htail, rfl⟩ := prepend_eq_some.1 h
    obtain ⟨rfl, hlast⟩ := ih htail
    refine ⟨?_, getLast?_cons_ne hlast ?_⟩
    · rw [escapeQuotes_cons_of_ne hb]
      rfl
    · -- A backslash at the end of the text would take the closing quote.
      rintro rfl rfl
      exact hescape ⟨rfl, rfl⟩

/-- The literals that are read are those of texts that do not end in a backslash. -/
theorem quoted_eq_some_iff {t inner rest : Text} :
    quoted q t = some (inner, rest) ↔
      t = escapeQuotes q inner ++ q :: rest ∧ inner.getLast? ≠ some backslash := by
  refine ⟨eq_escapeQuotes_of_quoted hq, ?_⟩
  rintro ⟨rfl, hlast⟩
  rw [quoted_escapeQuotes hq fun h => absurd h hlast, quoted_close]
  simp

/-- A backslash at the end of a text takes the closing quote. -/
theorem quoted_unclosed {s : Text} (h : s.getLast? = some backslash) :
    quoted q (escapeQuotes q s ++ [q]) = none := by
  obtain ⟨u, rfl⟩ := List.getLast?_eq_some_iff.1 h
  have hsplit : escapeQuotes q (u ++ [backslash]) ++ [q] = escapeQuotes q u ++ [backslash, q] := by
    rw [escapeQuotes_append, escapeQuotes_cons_of_ne hq, List.append_assoc]
    rfl
  rw [hsplit, quoted_escapeQuotes hq fun _ => by simpa using hq, quoted_escaped hq]
  rfl

end

end Token

/-! ## Scanning literals -/

namespace Scan

open Token (Opens literal literalText backslash)

/-- A text that does not end in a backslash is read back from its literal. -/
theorem tokens_literal {q : UInt8} (hq : Opens q) {s : Text} (h : s.getLast? ≠ some backslash) :
    (start (literal q s)).tokens = .ok [⟨literalText q s, (literal q s).length⟩] := by
  have hquoted : Token.quoted q (Token.escapeQuotes q s ++ [q]) = some (s, []) :=
    (Token.quoted_eq_some_iff hq.ne_backslash).2 ⟨rfl, h⟩
  have hread : Token.read q (Token.escapeQuotes q s ++ [q]) = .ok (literalText q s, []) := by
    rw [Token.read_of_opens hq, hquoted]
  exact tokens_of_read hq.isSpace hread

/-- The literal of a text that ends in a backslash is not closed. -/
theorem tokens_unclosed {q : UInt8} (hq : Opens q) {s : Text} (h : s.getLast? = some backslash) :
    (start (literal q s)).tokens = .error ⟨(literal q s).length, .unclosedQuote q⟩ := by
  have hread : Token.read q (Token.escapeQuotes q s ++ [q]) = .error (.unclosedQuote q) := by
    rw [Token.read_of_opens hq, Token.quoted_unclosed hq.ne_backslash h]
  have hskip : Token.skipSpaces (literal q s) = q :: (Token.escapeQuotes q s ++ [q]) := by
    rw [literal, List.cons_append, Token.skipSpaces, List.dropWhile_cons, hq.isSpace,
      if_neg Bool.false_ne_true]
  have hnext : (start (literal q s)).next =
      .failed ⟨(literal q s).length, .unclosedQuote q⟩ ⟨(literal q s).length, []⟩ := by
    simp only [next, start, hskip, hread, Nat.zero_add]
  exact tokens_of_failed hnext

/-- A token that starts with a quote is the literal of a text that does not end in a backslash. -/
theorem next_eq_literal {s after : Scan} {t : Token} (h : s.next = .token t after) {q : UInt8}
    {rest : Text} (hq : Opens q) (hskip : Token.skipSpaces s.rest = q :: rest) :
    ∃ inner, q :: rest = literal q inner ++ after.rest ∧ inner.getLast? ≠ some backslash ∧
      t.text = literalText q inner := by
  obtain ⟨b, rest', hskip', -, hread, -⟩ := read_of_next h
  obtain ⟨rfl, rfl⟩ := List.cons.inj (hskip.symm.trans hskip')
  rcases Token.read_cases hread with ⟨-, inner, hquoted, htext⟩ | ⟨hnot, -⟩
  · obtain ⟨rfl, hlast⟩ := (Token.quoted_eq_some_iff hq.ne_backslash).1 hquoted
    exact ⟨inner, by simp [literal], hlast, htext⟩
  · exact absurd hq hnot

end Scan

/-- A text is read back from its literal unless it ends in a backslash, and then the literal is not
closed.  And every token that starts with a quote is the literal of a text that does not end in a
backslash, neither as it is written nor as it is read. -/
theorem literal_round_trip {q : UInt8} (hq : Token.Opens q) :
    (∀ s : Text, s.getLast? ≠ some Token.backslash →
      tokenize (Token.literal q s) =
        .ok [⟨Token.literalText q s, (Token.literal q s).length⟩]) ∧
    (∀ s : Text, s.getLast? = some Token.backslash →
      tokenize (Token.literal q s) =
        .error ⟨(Token.literal q s).length, .unclosedQuote q⟩) ∧
    ∀ (s after : Scan) (t : Token) (rest : Text), s.next = .token t after →
      Token.skipSpaces s.rest = q :: rest →
      ∃ inner : Text, q :: rest = Token.literal q inner ++ after.rest ∧
        t.text = Token.literalText q inner ∧ inner.getLast? ≠ some Token.backslash ∧
        (Token.escapeQuotes q inner).getLast? ≠ some Token.backslash := by
  refine ⟨fun s => Scan.tokens_literal hq, fun s => Scan.tokens_unclosed hq, ?_⟩
  intro s after t rest hnext hskip
  obtain ⟨inner, hrest, hlast, htext⟩ := Scan.next_eq_literal hnext hq hskip
  refine ⟨inner, hrest, htext, hlast, ?_⟩
  rwa [Token.getLast?_escapeQuotes]

/-- A backslash before an apostrophe is read back and one at the end is not; and the token of
`'it\'s'` is the literal of `it's`. -/
theorem literal_round_trip_apostrophe :
    let q := byte '\''
    Token.Opens q ∧ Token.literal q "\\'" = Text.ofString "'\\\\''" ∧
      tokenize "'\\\\''" = .ok [⟨"'\\''", 5⟩] ∧
      tokenize "'a\\'" = .error ⟨4, .unclosedQuote q⟩ ∧
      ∃ inner : Text, Text.ofString "'it\\'s' x" = Token.literal q inner ++ " x" ∧
        Text.ofString "'it's'" = Token.literalText q inner ∧
        inner.getLast? ≠ some Token.backslash := by
  intro q
  have hq : Token.Opens q := .inr (.inl rfl)
  have hnext : (⟨0, "'it\\'s' x"⟩ : Scan).next = .token ⟨"'it's'", 7⟩ ⟨7, " x"⟩ := rfl
  obtain ⟨inner, hrest, htext, hlast, -⟩ := (literal_round_trip hq).2.2 _ _ _ _ hnext rfl
  exact ⟨hq, rfl, (literal_round_trip hq).1 "\\'" (by decide),
    (literal_round_trip hq).2.1 "a\\" (by decide), inner, hrest, htext, hlast⟩

end TagFilter
