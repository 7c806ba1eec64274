import TagFilter.Proofs.Slice

/-!
# Reading by offsets

`Scan.next` drops what it has read, keeps of a word only which of three kinds it is, and puts every
error at the end of the text.  A lexer keeps the whole text and an offset, which moves on byte by
byte, and the word as far as it was read.  Where it stops at an error is the offset that it has
reached.

The two agree (`Lexer.next_cases`): a call of a lexer brings what a scan of the rest of its text
brings, and leaves the lexer where the scan is.  The reason is the same for literals and words
(`Lexer.quoted_agrees`, `Lexer.word_agrees`): an error arises only where no byte is left.
-/

namespace TagFilter

/-- A text with the offset of the byte to be read next. -/
structure Lexer where
  input : Text
  pos : Nat
  deriving DecidableEq, Repr

namespace Lexer

open Token

/-! ## Calls -/

/-- Whether what was read of a word is digits only, but for a sign in front. -/
def isInteger (read : Text) : Bool :=
  match read with
  | [] => true
  | b :: rest =>
    if b = byte '+' ∨ b = byte '-' then rest.all Text.isDigitByte else read.all Text.isDigitByte

section

variable (input : Text)

/-- Reads a literal from an offset on to its closing quote, after the part that was read.  A backtick
is not kept. -/
def quoted (quote : UInt8) (read : Text) (pos : Nat) : Except LexError (Text × Nat) :=
  match h : input[pos]? with
  | none => .error ⟨pos, .unclosedQuote quote⟩
  | some b =>
    if b = quote then .ok (if quote = backtick then read else read ++ [b], pos + 1)
    else if b = backslash then
      match input[pos + 1]? with
      | none => .error ⟨pos + 1, .unclosedQuote quote⟩
      | some c =>
        if c = quote then quoted quote (read ++ [c]) (pos + 2)
        else quoted quote (read ++ [b]) (pos + 1)
    else quoted quote (read ++ [b]) (pos + 1)
termination_by input.length - pos
decreasing_by
  all_goals
    have hpos := (List.getElem?_eq_some_iff.1 h).1
    omega

/-- Reads a word or symbol from an offset on, after the part that was read. -/
def word (read : Text) (pos : Nat) : Except LexError (Text × Nat) :=
  match h : input[pos]? with
  | none => .ok (read, pos)
  | some b =>
    if isSpace b then .ok (read, pos)
    else if isDelimiter b then if read = [] then .ok ([b], pos + 1) else .ok (read, pos)
    else if isDoubling b then
      if read = [] then
        if input[pos + 1]? = some b then .ok ([b, b], pos + 2) else .ok ([b], pos + 1)
      else .ok (read, pos)
    else if b = backslash then
      match input[pos + 1]? with
      | none => .error ⟨pos + 1, .nothingEscaped⟩
      | some c => word (read ++ [c]) (pos + 2)
    else if b = dot then
      if read = [] then
        if (input[pos + 1]?).any Text.isDigitByte then word [b] (pos + 1) else .ok ([b], pos + 1)
      else if isInteger read then word (read ++ [b]) (pos + 1)
      else .ok (read, pos)
    else word (read ++ [b]) (pos + 1)
termination_by input.length - pos
decreasing_by
  all_goals
    have hpos := (List.getElem?_eq_some_iff.1 h).1
    omega

/-- The offset of the first byte from an offset on that separates nothing. -/
def skip (pos : Nat) : Nat :=
  match h : input[pos]? with
  | none => pos
  | some b => if isSpace b then skip (pos + 1) else pos
termination_by input.length - pos
decreasing_by
  have hpos := (List.getElem?_eq_some_iff.1 h).1
  omega

/-- Reads what starts with a byte at an offset. -/
def read (b : UInt8) (pos : Nat) : Except LexError (Text × Nat) :=
  if Opens b then quoted input b (if b = backtick then [] else [b]) (pos + 1)
  else word input [] pos

end

/-- Asks a lexer for its next token: a token, the end or an error, and the lexer afterwards. -/
def next (l : Lexer) : Except LexError (Option Token) × Lexer :=
  let pos := skip l.input l.pos
  match l.input[pos]? with
  | none => (.ok none, ⟨l.input, pos⟩)
  | some b =>
    match read l.input b pos with
    | .ok (text, stop) => (.ok (some ⟨text, stop⟩), ⟨l.input, stop⟩)
    | .error e => (.error e, ⟨l.input, e.pos⟩)

/-- What is left to read. -/
def rest (l : Lexer) : Scan := ⟨l.pos, l.input.drop l.pos⟩

/-! ## Bytes at an offset -/

variable {input : Text}

theorem drop_of_getElem? {pos : Nat} {b : UInt8} (h : input[pos]? = some b) :
    input.drop pos = b :: input.drop (pos + 1) := by
  obtain ⟨hpos, rfl⟩ := List.getElem?_eq_some_iff.1 h
  exact List.drop_eq_getElem_cons hpos

theorem drop_of_getElem?_none {pos : Nat} (h : input[pos]? = none) : input.drop pos = [] :=
  List.drop_eq_nil_of_le (List.getElem?_eq_none_iff.1 h)

theorem succ_le_of_getElem? {pos : Nat} {b : UInt8} (h : input[pos]? = some b) :
    pos + 1 ≤ input.length := (List.getElem?_eq_some_iff.1 h).1

theorem eq_length_of_getElem? {pos : Nat} (hpos : pos ≤ input.length) (h : input[pos]? = none) :
    pos = input.length := Nat.le_antisymm hpos (List.getElem?_eq_none_iff.1 h)

/-! ## Literals and words -/

/-- A reading from an offset on, onto a part that was read before, agrees with what a reader of texts
finds there: a text after which it stops, or nothing, and then all of the input is read. -/
def Agrees (input read close : Text) (cause : LexCause) (found : Option (Text × Text)) :
    Except LexError (Text × Nat) → Prop
  | .ok (text, stop) => ∃ inner, found = some (inner, input.drop stop) ∧
      text = read ++ inner ++ close ∧ stop ≤ input.length
  | .error e => found = none ∧ e = ⟨input.length, cause⟩

theorem Agrees.prepend {read close : Text} {b : UInt8} {cause : LexCause}
    {found : Option (Text × Text)} {result : Except LexError (Text × Nat)}
    (h : Agrees input (read ++ [b]) close cause found result) :
    Agrees input read close cause (Token.prepend b found) result := by
  cases result with
  | error e =>
    obtain ⟨rfl, he⟩ := h
    exact ⟨rfl, he⟩
  | ok part =>
    obtain ⟨inner, rfl, htext, hstop⟩ := h
    refine ⟨b :: inner, rfl, ?_, hstop⟩
    rw [htext, List.append_assoc read]
    rfl

theorem skip_agrees {pos : Nat} (hpos : pos ≤ input.length) :
    skipSpaces (input.drop pos) = input.drop (skip input pos) ∧ pos ≤ skip input pos ∧
      skip input pos ≤ input.length := by
  fun_induction skip input pos with
  | case1 pos h =>
    rw [drop_of_getElem?_none h]
    exact ⟨rfl, Nat.le_refl _, hpos⟩
  | case2 pos b h hb ih =>
    obtain ⟨hskip, hle, hlength⟩ := ih (succ_le_of_getElem? h)
    rw [drop_of_getElem? h, skipSpaces, List.dropWhile_cons_of_pos hb]
    exact ⟨hskip, by omega, hlength⟩
  | case3 pos b h hb =>
    rw [drop_of_getElem? h, skipSpaces, List.dropWhile_cons_of_neg hb]
    exact ⟨rfl, Nat.le_refl _, hpos⟩

theorem quoted_agrees {quote : UInt8} (hquote : backslash ≠ quote) (read : Text) {pos : Nat}
    (hpos : pos ≤ input.length) :
    Agrees input read (if quote = backtick then [] else [quote]) (.unclosedQuote quote)
      (Token.quoted quote (input.drop pos)) (quoted input quote read pos) := by
  fun_induction quoted input quote read pos with
  | case1 read pos h =>
    rw [drop_of_getElem?_none h, eq_length_of_getElem? hpos h]
    exact ⟨rfl, rfl⟩
  | case2 read pos h =>
    rw [drop_of_getElem? h, quoted_close]
    refine ⟨[], rfl, ?_, succ_le_of_getElem? h⟩
    split <;> simp
  | case3 read pos hnext h =>
    have hend := eq_length_of_getElem? (succ_le_of_getElem? h) hnext
    rw [drop_of_getElem? h, drop_of_getElem?_none hnext, hend,
      quoted_plain hquote (by simp)]
    exact ⟨rfl, rfl⟩
  | case4 read pos h _ hnext ih =>
    rw [drop_of_getElem? h, drop_of_getElem? hnext, quoted_escaped hquote]
    exact (ih (succ_le_of_getElem? hnext)).prepend
  | case5 read pos c hnext hc h _ ih =>
    rw [drop_of_getElem? h, quoted_plain hquote (by simpa [List.head?_drop, hnext] using hc)]
    exact (ih (succ_le_of_getElem? h)).prepend
  | case6 read pos b h hb hplain ih =>
    rw [drop_of_getElem? h, quoted_plain hb fun hescape => hplain hescape.1]
    exact (ih (succ_le_of_getElem? h)).prepend

/-- What a word holds of which this much was read. -/
def pending (read : Text) : Pending :=
  if read = [] then .nothing else if isInteger read then .number else .other

theorem pending_of_ne_nil {read : Text} (h : read ≠ []) :
    pending read = if isInteger read then .number else .other := if_neg h

theorem isInteger_concat {read : Text} (h : read ≠ []) (b : UInt8) :
    isInteger (read ++ [b]) = (isInteger read && Text.isDigitByte b) := by
  cases read with
  | nil => exact absurd rfl h
  | cons a read =>
    by_cases hsign : a = byte '+' ∨ a = byte '-'
    · simp [isInteger, hsign]
    · simp [isInteger, hsign, Bool.and_assoc]

theorem isInteger_singleton (b : UInt8) :
    isInteger [b] = (Text.isDigitByte b || b == byte '+' || b == byte '-') := by
  by_cases hsign : b = byte '+' ∨ b = byte '-'
  · rcases hsign with rfl | rfl <;> decide
  · obtain ⟨hplus, hminus⟩ := not_or.1 hsign
    rw [beq_false_of_ne hplus, beq_false_of_ne hminus]
    simp [isInteger, hplus, hminus]

theorem pending_concat (read : Text) (b : UInt8) :
    pending (read ++ [b]) = (pending read).push b := by
  by_cases hread : read = []
  · rw [hread, List.nil_append, pending_of_ne_nil (List.cons_ne_nil b []), isInteger_singleton]
    rfl
  · rw [pending_of_ne_nil (List.append_ne_nil_of_right_ne_nil read (List.cons_ne_nil b [])),
      pending_of_ne_nil hread, isInteger_concat hread]
    cases isInteger read <;> rfl

theorem pending_ne_nothing {read : Text} (h : read ≠ []) : pending read ≠ .nothing := by
  rw [pending_of_ne_nil h]
  split <;> decide

theorem startsWithDigit_drop (pos : Nat) :
    startsWithDigit (input.drop pos) = (input[pos]?).any Text.isDigitByte := by
  cases h : input[pos]? with
  | none => rw [drop_of_getElem?_none h]; rfl
  | some b => rw [drop_of_getElem? h]; rfl

theorem move_dot (p : Pending) (t : Text) :
    move p dot t =
      match p with
      | .nothing => if startsWithDigit t then .take else .symbol
      | .number => .take
      | .other => .stop := rfl

section

variable {read : Text} {pos : Nat} {b : UInt8} (h : input[pos]? = some b)

include h

theorem word_agrees_stop (hmove : move (pending read) b (input.drop (pos + 1)) = .stop) :
    Agrees input read [] .nothingEscaped (Token.word (pending read) (input.drop pos))
      (.ok (read, pos)) := by
  have hle := succ_le_of_getElem? h
  rw [drop_of_getElem? h, word_stop hmove, ← drop_of_getElem? h]
  exact ⟨[], rfl, by simp, by omega⟩

theorem word_agrees_symbol (hmove : move (pending []) b (input.drop (pos + 1)) = .symbol) :
    Agrees input [] [] .nothingEscaped (Token.word (pending []) (input.drop pos))
      (.ok ([b], pos + 1)) := by
  rw [drop_of_getElem? h, word_symbol hmove]
  exact ⟨[b], rfl, rfl, succ_le_of_getElem? h⟩

theorem word_agrees_take {result : Except LexError (Text × Nat)}
    (hmove : move (pending read) b (input.drop (pos + 1)) = .take)
    (hrest : Agrees input (read ++ [b]) [] .nothingEscaped
      (Token.word (pending (read ++ [b])) (input.drop (pos + 1))) result) :
    Agrees input read [] .nothingEscaped (Token.word (pending read) (input.drop pos)) result := by
  rw [drop_of_getElem? h, word_take hmove, ← pending_concat]
  exact hrest.prepend

end

theorem word_agrees (read : Text) {pos : Nat} (hpos : pos ≤ input.length) :
    Agrees input read [] .nothingEscaped (Token.word (pending read) (input.drop pos))
      (word input read pos) := by
  fun_induction word input read pos with
  | case1 read pos h =>
    refine ⟨[], ?_, by simp, hpos⟩
    rw [drop_of_getElem?_none h]
    rfl
  | case2 read pos b h hspace => exact word_agrees_stop h (by simp [move, hspace])
  | case3 pos b h hspace hdelimiter =>
    have hmove : move (pending []) b (input.drop (pos + 1)) = .symbol := by
      simp [move, hspace, hdelimiter, pending]
    exact word_agrees_symbol h hmove
  | case4 read pos b h hspace hdelimiter hread =>
    exact word_agrees_stop h (by simp [move, hspace, hdelimiter, pending_ne_nothing hread])
  | case5 pos b h hspace hdelimiter hdoubling hnext =>
    have hmove : move (pending []) b (input.drop (pos + 1)) = .twin := by
      simp [move, hspace, hdelimiter, hdoubling, pending, List.head?_drop, hnext]
    rw [drop_of_getElem? h, word_twin hmove, List.tail_drop]
    exact ⟨[b, b], rfl, rfl, succ_le_of_getElem? hnext⟩
  | case6 pos b h hspace hdelimiter hdoubling hnext =>
    have hmove : move (pending []) b (input.drop (pos + 1)) = .symbol := by
      simp [move, hspace, hdelimiter, hdoubling, pending, List.head?_drop, hnext]
    exact word_agrees_symbol h hmove
  | case7 read pos b h hspace hdelimiter hdoubling hread =>
    exact word_agrees_stop h
      (by simp [move, hspace, hdelimiter, hdoubling, pending_ne_nothing hread])
  | case8 read pos hnext h =>
    have hend := eq_length_of_getElem? (succ_le_of_getElem? h) hnext
    rw [drop_of_getElem? h, drop_of_getElem?_none hnext, hend]
    exact ⟨rfl, rfl⟩
  | case9 read pos c hnext h _ _ _ ih =>
    rw [drop_of_getElem? h, drop_of_getElem? hnext, word_escape, ← pending_concat]
    exact (ih (succ_le_of_getElem? hnext)).prepend
  | case10 pos hdigit h _ _ _ _ ih =>
    have hmove : move (pending []) dot (input.drop (pos + 1)) = .take := by
      rw [← startsWithDigit_drop] at hdigit
      simp [move_dot, pending, hdigit]
    exact word_agrees_take h hmove (ih (succ_le_of_getElem? h))
  | case11 pos hdigit h =>
    have hmove : move (pending []) dot (input.drop (pos + 1)) = .symbol := by
      rw [← startsWithDigit_drop] at hdigit
      simp [move_dot, pending, hdigit]
    exact word_agrees_symbol h hmove
  | case12 read pos hread hinteger h _ _ _ _ ih =>
    have hmove : move (pending read) dot (input.drop (pos + 1)) = .take := by
      rw [pending_of_ne_nil hread, hinteger]
      rfl
    exact word_agrees_take h hmove (ih (succ_le_of_getElem? h))
  | case13 read pos hread hinteger h =>
    refine word_agrees_stop h ?_
    rw [pending_of_ne_nil hread, if_neg hinteger]
    rfl
  | case14 read pos b h hspace hdelimiter hdoubling hbackslash hdot ih =>
    have hmove : move (pending read) b (input.drop (pos + 1)) = .take := by
      simp [move, hspace, hdelimiter, hdoubling, hbackslash, hdot]
    exact word_agrees_take h hmove (ih (succ_le_of_getElem? h))

/-- What a call reads is what a scan reads, and an error is at the end of the input. -/
theorem read_agrees {b : UInt8} {pos : Nat} (h : input[pos]? = some b) :
    (∃ text stop, read input b pos = .ok (text, stop) ∧ stop ≤ input.length ∧
      Token.read b (input.drop (pos + 1)) = .ok (text, input.drop stop)) ∨
    ∃ cause, read input b pos = .error ⟨input.length, cause⟩ ∧
      Token.read b (input.drop (pos + 1)) = .error cause := by
  have hle := succ_le_of_getElem? h
  by_cases hopens : Opens b
  · have hagrees := quoted_agrees hopens.ne_backslash (if b = backtick then [] else [b]) hle
    rw [read, if_pos hopens, read_of_opens hopens]
    cases hresult : quoted input b (if b = backtick then [] else [b]) (pos + 1) with
    | error e =>
      rw [hresult] at hagrees
      obtain ⟨hnone, rfl⟩ := hagrees
      rw [hnone]
      exact .inr ⟨_, rfl, rfl⟩
    | ok part =>
      obtain ⟨text, stop⟩ := part
      rw [hresult] at hagrees
      obtain ⟨inner, hinner, rfl, hstop⟩ := hagrees
      refine .inl ⟨_, stop, rfl, hstop, ?_⟩
      rw [hinner]
      by_cases hbacktick : b = backtick <;> simp [literalText, hbacktick]
  · have hagrees := word_agrees [] (Nat.le_of_succ_le hle)
    rw [read, if_neg hopens]
    rw [drop_of_getElem? h] at hagrees
    cases hresult : word input [] pos with
    | error e =>
      rw [hresult] at hagrees
      obtain ⟨hnone, rfl⟩ := hagrees
      refine .inr ⟨.nothingEscaped, rfl, ?_⟩
      simp only [Opens, not_or] at hopens
      simp only [pending, if_true] at hnone
      simp [Token.read, hopens, hnone]
    | ok part =>
      obtain ⟨text, stop⟩ := part
      rw [hresult] at hagrees
      obtain ⟨inner, hinner, rfl, hstop⟩ := hagrees
      refine .inl ⟨_, stop, rfl, hstop, ?_⟩
      rw [read_of_word hopens hinner, List.nil_append, List.append_nil]

/-- The lexer with all of its text read. -/
def atEnd (l : Lexer) : Lexer := ⟨l.input, l.input.length⟩

theorem pos_add_length_rest {l : Lexer} (hpos : l.pos ≤ l.input.length) :
    l.rest.pos + l.rest.rest.length = l.input.length := by
  simp only [rest, List.length_drop]
  omega

theorem rest_atEnd (l : Lexer) : l.atEnd.rest = ⟨l.input.length, []⟩ := by
  simp [rest, atEnd]

/-- A call brings a token and moves on to where it stops, or it brings the end or an error and leaves
nothing to read.  The rest of the text as a scan gives the same. -/
theorem next_cases {l : Lexer} (hpos : l.pos ≤ l.input.length) :
    (∃ t : Token, l.next = (.ok (some t), ⟨l.input, t.stop⟩) ∧ l.pos < t.stop ∧
      t.stop ≤ l.input.length ∧ l.rest.next = .token t ⟨t.stop, l.input.drop t.stop⟩) ∨
    l.next = (.ok none, l.atEnd) ∧ l.rest.next = .done ∨
    ∃ cause, l.next = (.error ⟨l.input.length, cause⟩, l.atEnd) ∧
      l.rest.next = .failed ⟨l.input.length, cause⟩ ⟨l.input.length, []⟩ := by
  obtain ⟨hskip, hle, hlength⟩ := skip_agrees hpos
  replace hskip : skipSpaces l.rest.rest = _ := hskip
  unfold next Scan.next
  generalize skip l.input l.pos = pos at hskip hle hlength
  simp only
  cases h : l.input[pos]? with
  | none =>
    rw [drop_of_getElem?_none h] at hskip
    rw [hskip, eq_length_of_getElem? hlength h]
    exact .inr (.inl ⟨rfl, rfl⟩)
  | some b =>
    rw [drop_of_getElem? h] at hskip
    simp only [hskip]
    rcases read_agrees h with ⟨text, stop, hread, hstop, hscan⟩ | ⟨cause, hread, hscan⟩
    · have hshorter := Token.read_length (Scan.isSpace_of_skipSpaces hskip) hscan
      rw [List.length_drop, List.length_drop] at hshorter
      have hlt := succ_le_of_getElem? h
      have hmoves : l.pos < stop := by omega
      have hall : l.rest.pos + (l.rest.rest.length - (l.input.drop stop).length) = stop := by
        simp only [rest, List.length_drop]
        omega
      simp only [hread, hscan, hall]
      exact .inl ⟨⟨text, stop⟩, rfl, hmoves, hstop, rfl⟩
    · simp only [hread, hscan, pos_add_length_rest hpos]
      exact .inr (.inr ⟨cause, rfl, rfl⟩)

end Lexer

end TagFilter
