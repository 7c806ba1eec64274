import TagFilter.Proofs.Slice

/-!
# Texts side by side

No token runs into a text that is empty or starts with a blank or a delimiter (`Token.Separate`).
So a scan over two texts, the second of them such a one, is the scan over the first followed by the
scan over the second, whose offsets count from the end of the first (`Scan.tokens_append`).

What a reader finds in a text stays what it finds when more text follows: `quoted_append` for
literals, whatever follows, and `word_append` for words, where the text that follows must be
separate.
-/

namespace TagFilter

namespace Token

/-- No token runs into a text: it is empty or starts with a blank or a delimiter. -/
def Separate (t : Text) : Prop := ∀ b, t.head? = some b → isSpace b = true ∨ isDelimiter b = true

theorem quoted_append {q : UInt8} {t inner rest : Text} (h : quoted q t = some (inner, rest))
    (u : Text) : quoted q (t ++ u) = some (inner, rest ++ u) := by
  fun_induction quoted q t generalizing inner with
  | case1 => cases h
  | case2 =>
    cases h
    exact quoted_close q (rest ++ u)
  | case3 b _ c t hescape ih =>
    obtain ⟨tail, htail, rfl⟩ := prepend_eq_some.1 h
    obtain ⟨rfl, hc⟩ := hescape
    obtain rfl : c = q := by simpa using hc
    rw [List.cons_append, List.cons_append, quoted_escaped ‹_›, ih htail]
    rfl
  | case4 => cases h
  | case5 b t hb hescape ih =>
    obtain ⟨tail, htail, rfl⟩ := prepend_eq_some.1 h
    -- A literal that is closed later has a byte after this one, which more text does not change.
    have hhead : (t ++ u).head? = t.head? := by
      cases t with
      | nil => cases htail
      | cons => rfl
    rw [List.cons_append, quoted_plain hb (by rw [hhead]; exact hescape), ih htail]
    rfl

theorem not_doubling_of_separate {b : UInt8} (h : isSpace b = true ∨ isDelimiter b = true) :
    isDoubling b = false ∧ Text.isDigitByte b = false := by
  simp only [isSpace, isDelimiter, Bool.or_eq_true, beq_iff_eq, or_assoc] at h
  rcases h with h | h | h | h | h | h | h | h | h | h | h | h | h | h | h | h <;> subst h <;>
    exact ⟨rfl, rfl⟩

theorem move_digit {p : Pending} {b : UInt8} (hb : Text.isDigitByte b = true) (t : Text) :
    move p b t = .take := by
  have hseparate : ¬ (isSpace b = true ∨ isDelimiter b = true) := by
    intro h
    rw [(not_doubling_of_separate h).2] at hb
    cases hb
  have hne : ∀ c, Text.isDigitByte c = false → b ≠ c := by
    rintro c hc rfl
    rw [hc] at hb
    cases hb
  have hstar := hne (byte '*') rfl
  have hbar := hne (byte '|') rfl
  have hbackslash := hne backslash rfl
  have hdot := hne dot rfl
  unfold move
  grind [isDoubling]

theorem move_append (p : Pending) (b : UInt8) (t : Text) {u : Text} (hu : Separate u) :
    move p b (t ++ u) = move p b t := by
  cases t with
  | cons c t => rfl
  | nil =>
    cases u with
    | nil => rfl
    | cons c u =>
      -- The byte that follows is neither a second star or bar nor a digit.
      obtain ⟨hdoubling, hdigit⟩ := not_doubling_of_separate (hu c rfl)
      unfold move
      grind [startsWithDigit]

theorem move_separate {p : Pending} (hp : p ≠ .nothing) {b : UInt8} (t : Text)
    (hb : isSpace b = true ∨ isDelimiter b = true) : move p b t = .stop := by
  unfold move
  grind

theorem word_append {p : Pending} {t text rest u : Text} (h : word p t = some (text, rest))
    (hp : p = .nothing → t ≠ []) (hu : Separate u) : word p (t ++ u) = some (text, rest ++ u) := by
  fun_induction word p t generalizing text with
  | case1 p =>
    cases h
    cases u with
    | nil => rfl
    | cons c u => exact word_stop (move_separate (fun hn => hp hn rfl) u (hu c rfl))
  | case2 p b t hmove =>
    cases h
    exact word_stop ((move_append p b t hu).trans hmove)
  | case3 p b _ hmove =>
    cases h
    exact word_symbol ((move_append p b rest hu).trans hmove)
  | case4 p b t hmove =>
    cases h
    obtain ⟨v, rfl⟩ : ∃ v, t = b :: v := List.head?_eq_some_iff.1 (head?_of_move_twin hmove)
    exact word_twin ((move_append p b (b :: v) hu).trans hmove)
  | case5 p b t hmove ih =>
    obtain ⟨tail, htail, rfl⟩ := prepend_eq_some.1 h
    have hword := ih htail fun hn => absurd hn (push_ne_nothing p b)
    rw [List.cons_append, word_take ((move_append p b t hu).trans hmove), hword]
    rfl
  | case6 => cases h
  | case7 p b c t hmove ih =>
    obtain ⟨tail, htail, rfl⟩ := prepend_eq_some.1 h
    obtain rfl := move_eq_escape_iff.1 hmove
    have hword := ih htail fun hn => absurd hn (push_ne_nothing p c)
    rw [List.cons_append, List.cons_append, word_escape, hword]
    rfl

theorem read_append {b : UInt8} {t text rest u : Text} (h : read b t = .ok (text, rest))
    (hu : Separate u) : read b (t ++ u) = .ok (text, rest ++ u) := by
  rcases read_cases h with ⟨hopens, inner, hquoted, rfl⟩ | ⟨hopens, hword⟩
  · rw [read_of_opens hopens, quoted_append hquoted u]
  · exact read_of_word hopens (word_append hword (fun _ => List.cons_ne_nil b t) hu)

/-- A token that stops further on. -/
def shift (n : Nat) (t : Token) : Token := { t with stop := t.stop + n }

end Token

/-- An error that is met further on. -/
def LexError.shift (n : Nat) (e : LexError) : LexError := { e with pos := e.pos + n }

namespace Scan

/-! ## Offsets -/

/-- A scan of the same rest, further on. -/
def shift (n : Nat) (s : Scan) : Scan := { s with pos := s.pos + n }

/-- What a scan finds, further on. -/
def shiftResult (n : Nat) (r : Except LexError (List Token)) : Except LexError (List Token) :=
  (r.map (List.map (Token.shift n))).mapError (LexError.shift n)

theorem next_shift (n : Nat) (s : Scan) :
    (s.shift n).next =
      match s.next with
      | .done => .done
      | .failed e after => .failed (e.shift n) (after.shift n)
      | .token t after => .token (t.shift n) (after.shift n) := by
  obtain ⟨pos, rest⟩ := s
  simp only [next, shift]
  cases Token.skipSpaces rest with
  | nil => rfl
  | cons b t =>
    cases hread : Token.read b t with
    | error cause => simp only [hread, LexError.shift, Nat.add_right_comm]
    | ok part => simp only [hread, Token.shift, Nat.add_right_comm]

theorem tokens_shift (n : Nat) (s : Scan) : (s.shift n).tokens = shiftResult n s.tokens := by
  have hnext := next_shift n s
  fun_induction Scan.tokens s with
  | case1 s h =>
    rw [h] at hnext
    exact tokens_of_done hnext
  | case2 s e after h =>
    rw [h] at hnext
    exact tokens_of_failed hnext
  | case3 s t after h ts hts ih =>
    rw [h] at hnext
    rw [tokens_of_token hnext, ih (next_shift n after), hts]
    rfl
  | case4 s t after h e he ih =>
    rw [h] at hnext
    rw [tokens_of_token hnext, ih (next_shift n after), he]
    rfl

/-- A scan that starts at an offset finds what the whole text falls into, further on. -/
theorem tokens_mk (pos : Nat) (t : Text) :
    (⟨pos, t⟩ : Scan).tokens = shiftResult pos (tokenize t) := by
  have h := tokens_shift pos (start t)
  rwa [shift, start, Nat.zero_add] at h

/-! ## One text after the other -/

theorem next_blank {lead : Text} (hlead : Token.Blank lead) (pos : Nat) (t : Text) :
    (⟨pos, lead ++ t⟩ : Scan).next = (⟨pos + lead.length, t⟩ : Scan).next := by
  have hskip : Token.skipSpaces (lead ++ t) = Token.skipSpaces t :=
    List.dropWhile_append_of_pos hlead
  unfold next
  simp only [hskip]
  cases h : Token.skipSpaces t with
  | nil => rfl
  | cons b rest =>
    cases hread : Token.read b rest with
    | error cause => simp only [hread, List.length_append, Nat.add_assoc]
    | ok part =>
      obtain ⟨text, left⟩ := part
      have hleft := Token.read_length (isSpace_of_skipSpaces h) hread
      have hrest := skipSpaces_length t
      rw [h, List.length_cons] at hrest
      have hpos : pos + ((lead ++ t).length - left.length) =
          pos + lead.length + (t.length - left.length) := by
        rw [List.length_append]
        omega
      simp only [hread, hpos]

theorem tokens_blank {lead : Text} (hlead : Token.Blank lead) (pos : Nat) (t : Text) :
    (⟨pos, lead ++ t⟩ : Scan).tokens = (⟨pos + lead.length, t⟩ : Scan).tokens := by
  have hnext := next_blank hlead pos t
  cases h : (⟨pos + lead.length, t⟩ : Scan).next with
  | done => rw [tokens_of_done h, tokens_of_done (hnext.trans h)]
  | failed e after => rw [tokens_of_failed h, tokens_of_failed (hnext.trans h)]
  | token t after => rw [tokens_of_token h, tokens_of_token (hnext.trans h)]

/-- A step of a scan is the same when separate text follows. -/
theorem next_append {s after : Scan} {t : Token} (h : s.next = .token t after) {u : Text}
    (hu : Token.Separate u) :
    (⟨s.pos, s.rest ++ u⟩ : Scan).next = .token t ⟨after.pos, after.rest ++ u⟩ := by
  obtain ⟨b, rest, hskip, -, hread, hstop, hpos⟩ := read_of_next h
  have hskip' : Token.skipSpaces (s.rest ++ u) = b :: rest ++ u := by
    rw [Token.skipSpaces, List.dropWhile_append, ← Token.skipSpaces, hskip]
    rfl
  have hlength : s.pos + ((s.rest ++ u).length - (after.rest ++ u).length) = after.pos := by
    rw [hpos, List.length_append, List.length_append]
    omega
  simp only [next, hskip', List.cons_append, Token.read_append hread hu, hlength, ← hstop]

/-- A scan goes on into separate text as if it started there. -/
theorem tokens_append {s : Scan} {ts : List Token} (h : s.tokens = .ok ts) {u : Text}
    (hu : Token.Separate u) :
    (⟨s.pos, s.rest ++ u⟩ : Scan).tokens =
      (⟨s.pos + s.rest.length, u⟩ : Scan).tokens.map (ts ++ ·) := by
  fun_induction Scan.tokens s generalizing ts with
  | case1 s hnext =>
    cases h
    rw [tokens_blank (blank_of_next_done hnext)]
    cases (⟨s.pos + s.rest.length, u⟩ : Scan).tokens <;> rfl
  | case2 => cases h
  | case3 s t after hnext ts hts ih =>
    cases h
    obtain ⟨lead, raw, hrest, -, -, rfl, hpos⟩ := next_eq_token hnext
    have hend : after.pos + after.rest.length = s.pos + s.rest.length := by
      rw [hpos, hrest, List.length_append, List.length_append]
      omega
    rw [tokens_of_token (next_append hnext hu), ih hts, hend]
    cases (⟨s.pos + s.rest.length, u⟩ : Scan).tokens <;> rfl
  | case4 => cases h

end Scan

theorem tokenize_blank {lead : Text} (hlead : Token.Blank lead) (t : Text) :
    tokenize (lead ++ t) = Scan.shiftResult lead.length (tokenize t) := by
  rw [← Scan.tokens_mk, ← Nat.zero_add lead.length]
  exact Scan.tokens_blank hlead 0 t

theorem tokenize_separate {a b : Text} {ts : List Token} (ha : tokenize a = .ok ts)
    (hb : Token.Separate b) :
    tokenize (a ++ b) = (Scan.shiftResult a.length (tokenize b)).map (ts ++ ·) := by
  rw [← Scan.tokens_mk, ← Nat.zero_add a.length]
  exact Scan.tokens_append ha hb

/-- Two texts side by side, the second separate, fall into the tokens of the first and then those of
the second, counted from the end of the first; and what is wrong with the second is wrong with
both. -/
theorem tokenize_append {a b : Text} {ts : List Token} (ha : tokenize a = .ok ts)
    (hb : Token.Separate b) :
    (∀ us, tokenize b = .ok us →
      tokenize (a ++ b) = .ok (ts ++ us.map (Token.shift a.length))) ∧
    ∀ e, tokenize b = .error e →
      tokenize (a ++ b) = .error ⟨e.pos + a.length, e.cause⟩ := by
  constructor
  · intro us hus
    rw [tokenize_separate ha hb, hus]
    rfl
  · intro e he
    rw [tokenize_separate ha hb, he]
    rfl

/-- After `a 1.` come the sign and number of `-.5`, and the quote of `+'` is still not closed. -/
theorem tokenize_append_number :
    let a : Text := "a 1."
    let ts : List Token := [⟨"a", 1⟩, ⟨"1.", 4⟩]
    tokenize a = .ok ts ∧
      tokenize (a ++ "-.5") = .ok (ts ++ [⟨"-", 5⟩, ⟨".5", 7⟩]) ∧
      tokenize (a ++ "+'") = .error ⟨6, .unclosedQuote (byte '\'')⟩ := by
  intro a ts
  have ha : tokenize a = .ok ts := by decide +kernel
  have hsign : Token.Separate "-.5" := by rintro b ⟨⟩; exact .inr rfl
  have hplus : Token.Separate "+'" := by rintro b ⟨⟩; exact .inr rfl
  have hnumber : tokenize "-.5" = .ok [⟨"-", 1⟩, ⟨".5", 3⟩] := by decide +kernel
  have hquote : tokenize "+'" = .error ⟨2, .unclosedQuote (byte '\'')⟩ := by decide +kernel
  exact ⟨ha, (tokenize_append ha hsign).1 _ hnumber, (tokenize_append ha hplus).2 _ hquote⟩

end TagFilter
