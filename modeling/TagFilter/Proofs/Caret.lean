import TagFilter.Proofs.Quoting
import TagFilter.Proofs.TagName
import TagFilter.Report.Caret

/-!
# Where carets point

A syntax error blames a token by its index, and the caret is put below the first byte of that token,
found by skipping the blanks after the token before it.  A scan shows that nothing else lies there
(`Scan.exists_raw_at`), so the place is right, and the line above the caret keeps its bytes in place
because only single bytes of a text in UTF-8 are replaced (`Caret.flatten_eq_map`).

At the end of the tokens the caret is put behind the last byte that is no blank.  That is the end of
the last token unless the token ends in a blank itself, which it does exactly when a word ends in a
backslash and a blank (`Token.EndEscaped`); then the caret is one byte short.
-/

namespace TagFilter

namespace Token

/-- Where the last of some tokens stops, or `pos` if there are none. -/
def lastStop (pos : Nat) (ts : List Token) : Nat := (ts.getLast?.map stop).getD pos

theorem lastStop_cons (pos : Nat) (t : Token) (ts : List Token) :
    lastStop pos (t :: ts) = lastStop t.stop ts := by
  unfold lastStop
  rw [List.getLast?_cons]
  cases ts.getLast? <;> rfl

theorem lastStop_take {ts : List Token} {i : Nat} (hi : i < ts.length) :
    lastStop 0 (ts.take i) = if i = 0 then 0 else ((ts.map stop)[i - 1]?).getD 0 := by
  by_cases h : i = 0
  · rw [if_pos h, h]
    rfl
  · have hget : ts[i - 1]? = some ts[i - 1] := List.getElem?_eq_getElem (by omega)
    rw [if_neg h, lastStop, List.getLast?_take, if_neg h, List.getElem?_map, hget]
    rfl

/-! ## The end of a token -/

/-- A blank at the end of a text has a backslash before it. -/
def EndEscaped (t : Text) : Prop :=
  ∀ u b, t = u ++ [b] → isSpace b = true → u.getLast? = some backslash

theorem endEscaped_nil : EndEscaped [] := by
  intro u b h
  simp at h

theorem endEscaped_concat {u : Text} {b : UInt8} (hb : isSpace b = false) :
    EndEscaped (u ++ [b]) := by
  intro v c h hc
  obtain ⟨-, h⟩ := List.append_inj' h rfl
  cases h
  rw [hb] at hc
  cases hc

theorem endEscaped_escaped (b : UInt8) : EndEscaped [backslash, b] := by
  intro u c h _
  have hsplit : [backslash] ++ [b] = u ++ [c] := h
  obtain ⟨rfl, -⟩ := List.append_inj' hsplit rfl
  rfl

theorem EndEscaped.append {t : Text} (h : EndEscaped t) (hne : t ≠ []) (u : Text) :
    EndEscaped (u ++ t) := by
  intro v b hv hb
  obtain ⟨w, c, rfl⟩ := (List.eq_nil_or_concat t).resolve_left hne
  rw [List.concat_eq_append, ← List.append_assoc] at hv
  obtain ⟨rfl, hc⟩ := List.append_inj' hv rfl
  cases hc
  rw [List.getLast?_append, h w b (by simp) hb]
  rfl

theorem not_isSpace_of_move {p : Pending} {b : UInt8} {t : Text} (h : move p b t ≠ .stop) :
    isSpace b = false := by
  cases hb : isSpace b with
  | false => rfl
  | true => simp [move, hb] at h

theorem word_endEscaped {p : Pending} {t text rest : Text} (h : word p t = some (text, rest)) :
    ∃ raw, t = raw ++ rest ∧ EndEscaped raw := by
  fun_induction word p t generalizing text with
  | case1 | case2 =>
    cases h
    exact ⟨[], rfl, endEscaped_nil⟩
  | case3 p b t hmove =>
    cases h
    have hb : isSpace b = false := not_isSpace_of_move (by rw [hmove]; decide)
    exact ⟨[b], rfl, endEscaped_concat (u := []) hb⟩
  | case4 p b t hmove =>
    cases h
    have hb : isSpace b = false := not_isSpace_of_move (by rw [hmove]; decide)
    obtain ⟨u, rfl⟩ : ∃ u, t = b :: u := List.head?_eq_some_iff.1 (head?_of_move_twin hmove)
    exact ⟨[b, b], rfl, endEscaped_concat (u := [b]) hb⟩
  | case5 p b t hmove ih =>
    obtain ⟨tail, htail, rfl⟩ := prepend_eq_some.1 h
    obtain ⟨raw, rfl, hraw⟩ := ih htail
    have hb : isSpace b = false := not_isSpace_of_move (by rw [hmove]; decide)
    refine ⟨b :: raw, rfl, ?_⟩
    by_cases hnil : raw = []
    · rw [hnil]
      exact endEscaped_concat (u := []) hb
    · exact hraw.append hnil [b]
  | case6 => cases h
  | case7 p b c t hmove ih =>
    obtain ⟨tail, htail, rfl⟩ := prepend_eq_some.1 h
    obtain ⟨raw, rfl, hraw⟩ := ih htail
    obtain rfl := move_eq_escape_iff.1 hmove
    refine ⟨backslash :: c :: raw, rfl, ?_⟩
    by_cases hnil : raw = []
    · -- The word ends in the escaped byte, whatever it is.
      rw [hnil]
      exact endEscaped_escaped c
    · exact hraw.append hnil [backslash, c]

theorem read_endEscaped {b : UInt8} {t text rest : Text} (hb : isSpace b = false)
    (h : read b t = .ok (text, rest)) :
    ∃ raw, raw ≠ [] ∧ b :: t = raw ++ rest ∧ EndEscaped raw := by
  rcases read_cases h with ⟨-, inner, hquoted, -⟩ | ⟨-, hword⟩
  · obtain ⟨inside, rfl, -⟩ := quoted_eq_some hquoted
    exact ⟨b :: inside ++ [b], by simp, by simp, endEscaped_concat hb⟩
  · obtain ⟨raw, hraw, hescaped⟩ := word_endEscaped hword
    refine ⟨raw, ?_, hraw, hescaped⟩
    rintro rfl
    have hlength := word_nothing_length hb hword
    rw [← List.nil_append rest, ← hraw, List.length_cons] at hlength
    omega

end Token

/-! ## Where tokens lie -/

namespace Scan

open Token (lastStop EndEscaped Blank IsRaw)

/-- Each token lies in its raw form, behind the token before it and some blanks. -/
theorem exists_raw_at {s : Scan} {ts : List Token} (h : s.tokens = .ok ts) {i : Nat} {t : Token}
    (ht : ts[i]? = some t) :
    ∃ front gap raw back, s.rest = front ++ (gap ++ (raw ++ back)) ∧
      s.pos + front.length = lastStop s.pos (ts.take i) ∧ Blank gap ∧ IsRaw raw ∧
      t = ⟨Token.decode raw, s.pos + front.length + gap.length + raw.length⟩ := by
  fun_induction Scan.tokens s generalizing ts i with
  | case1 =>
    cases h
    cases ht
  | case2 => cases h
  | case3 s token after hnext ts hts ih =>
    cases h
    obtain ⟨lead, raw, hrest, hlead, hraw, rfl, hpos⟩ := next_eq_token hnext
    cases i with
    | zero =>
      cases ht
      exact ⟨[], lead, raw, after.rest, hrest, rfl, hlead, hraw, by simp [hpos]⟩
    | succ i =>
      obtain ⟨front, gap, raw', back, hafter, hfront, hgap, hraw', rfl⟩ := ih hts ht
      refine ⟨lead ++ (raw ++ front), gap, raw', back, ?_, ?_, hgap, hraw', ?_⟩
      · rw [hrest, hafter]
        simp
      · rw [List.take_succ_cons, Token.lastStop_cons, ← hfront, hpos]
        simp only [List.length_append]
        omega
      · rw [hpos]
        simp only [List.length_append, Token.mk.injEq, true_and]
        omega
  | case4 => cases h

theorem next_endEscaped {s after : Scan} {t : Token} (h : s.next = .token t after) :
    ∃ front, s.rest = front ++ after.rest ∧ EndEscaped front ∧ t.stop = s.pos + front.length ∧
      after.pos = t.stop := by
  obtain ⟨b, rest, hskip, hb, hread, hstop, hpos⟩ := read_of_next h
  obtain ⟨lead, -, hrest⟩ := skipSpaces_eq s.rest
  obtain ⟨raw, hne, hraw, hescaped⟩ := Token.read_endEscaped hb hread
  rw [hskip, hraw, ← List.append_assoc] at hrest
  refine ⟨lead ++ raw, hrest, hescaped.append hne lead, ?_, hstop.symm⟩
  rw [hstop, hpos, hrest, List.length_append]
  omega

/-- Up to the end of the last token a blank at the end is escaped, and behind it are blanks only. -/
theorem exists_end {s : Scan} {ts : List Token} (h : s.tokens = .ok ts) :
    ∃ front gap, s.rest = front ++ gap ∧ Blank gap ∧ EndEscaped front ∧
      s.pos + front.length = lastStop s.pos ts := by
  fun_induction Scan.tokens s generalizing ts with
  | case1 s hnext =>
    cases h
    exact ⟨[], s.rest, rfl, blank_of_next_done hnext, Token.endEscaped_nil, rfl⟩
  | case2 => cases h
  | case3 s token after hnext ts hts ih =>
    cases h
    obtain ⟨front, gap, hafter, hgap, hfront, hstop⟩ := ih hts
    obtain ⟨first, hrest, hfirst, hstop', hpos⟩ := next_endEscaped hnext
    refine ⟨first ++ front, gap, ?_, hgap, ?_, ?_⟩
    · rw [hrest, hafter, List.append_assoc]
    · -- The end of the scan so far is the end of its last token, which may be this one.
      by_cases hnil : front = []
      · rwa [hnil, List.append_nil]
      · exact hfront.append hnil first
    · rw [hpos] at hstop
      rw [Token.lastStop_cons, ← hstop, hstop', List.length_append, Nat.add_assoc]
  | case4 => cases h

end Scan

theorem exists_tokens_of_compile_error {input : Text} {e : SyntaxError}
    (h : compile input = .error (.syntactic e)) : ∃ ts, tokenize input = .ok ts := by
  cases htokens : tokenize input with
  | error e => simp [compile, htokens] at h
  | ok ts => exact ⟨ts, rfl⟩

/-! ## The line above the caret -/

namespace Caret

/-- The numbers of the characters that do not stand on one line: tab, newline, form feed, return. -/
def breaks : List Nat := [9, 10, 12, 13]

/-- A byte of the line above the caret. -/
def flatByte (b : UInt8) : UInt8 := if b.toNat ∈ breaks then byte ' ' else b

theorem isSpace_of_mem_breaks {b : UInt8} (h : b.toNat ∈ breaks) : Token.isSpace b = true := by
  have hb : b = 9 ∨ b = 10 ∨ b = 12 ∨ b = 13 := by
    simpa [breaks, ← UInt8.toNat_inj] using h
  rcases hb with rfl | rfl | rfl | rfl <;> rfl

theorem flatByte_of_not_isSpace {b : UInt8} (h : Token.isSpace b = false) : flatByte b = b := by
  unfold flatByte
  rw [if_neg]
  intro hb
  rw [isSpace_of_mem_breaks hb] at h
  cases h

theorem flatByte_ne_newline (b : UInt8) : flatByte b ≠ byte '\n' := by
  unfold flatByte
  split_ifs with h
  · decide
  · rintro rfl
    exact h (by decide)

theorem mem_breaks_iff {c : Char} :
    c.toNat ∈ breaks ↔ c = '\n' ∨ c = '\r' ∨ c = '\t' ∨ c.toNat = 12 := by
  rw [← Char.toNat_inj, ← Char.toNat_inj, ← Char.toNat_inj]
  simp only [breaks, Char.reduceToNat, List.mem_cons, List.not_mem_nil, or_false]
  omega

theorem encodeChar_flat (c : Char) :
    String.utf8EncodeChar (if c.toNat ∈ breaks then ' ' else c) =
      (String.utf8EncodeChar c).map flatByte := by
  by_cases hascii : c.toNat < 0x80
  · have hbyte : (UInt8.ofNat c.toNat).toNat = c.toNat := Text.toNat_ofNat_of_lt (by omega)
    rw [Text.encodeChar_ascii hascii, List.map_singleton, flatByte, hbyte]
    split_ifs
    · rfl
    · exact Text.encodeChar_ascii hascii
  · -- All bytes of a longer sequence are beyond the ones that are replaced.
    have hchar : c.toNat ∉ breaks := by
      simp only [breaks, List.mem_cons, List.not_mem_nil, or_false]
      omega
    have hkept : ∀ b ∈ String.utf8EncodeChar c, flatByte b = b := by
      intro b hb
      have hhigh := Text.toNat_of_mem_encodeChar (Nat.le_of_not_lt hascii) hb
      unfold flatByte
      rw [if_neg]
      simp only [breaks, List.mem_cons, List.not_mem_nil, or_false]
      omega
    rw [if_neg hchar, List.map_congr_left hkept, List.map_id']

/-- The line above the caret is the input, byte by byte. -/
theorem flatten_eq_map {input : Text} (h : input.IsUtf8) : flatten input = input.map flatByte := by
  obtain ⟨cs, rfl⟩ := h
  simp only [flatten, Text.decode_encode, ← mem_breaks_iff]
  induction cs with
  | nil => rfl
  | cons c cs ih =>
    rw [List.map_cons, Text.encode_cons, Text.encode_cons, List.map_append, ih, encodeChar_flat]

/-! ## The caret -/

/-- Where the caret stands in its line. -/
def column (input : Text) (e : CompileError) : Nat := (caretLine input e).idxOf (byte '^')

theorem column_eq_offset (input : Text) (e : CompileError) : column input e = offset input e := by
  have hblank : byte '^' ∉ List.replicate (offset input e) (byte ' ') := by
    intro h
    exact absurd (List.eq_of_mem_replicate h) (by decide)
  have hcaret : (Text.ofString "^ " ++ reason e).idxOf (byte '^') = 0 := rfl
  rw [column, caretLine, List.append_assoc, List.idxOf_append, if_neg hblank, hcaret,
    List.length_replicate, Nat.zero_add]

/-- A text ends in a blank with a backslash before it. -/
def EndsInBlank (t : Text) : Prop :=
  ∃ b, Token.isSpace b = true ∧ [Token.backslash, b] <:+ t

variable {input : Text} {ts : List Token}

/-- The caret below a token stands behind the blanks after the token before it. -/
theorem tokenOffset_eq (h : tokenize input = .ok ts) {i : Nat} (hi : i < ts.length)
    {front gap rest : Text} (hinput : input = front ++ (gap ++ rest))
    (hfront : front.length = Token.lastStop 0 (ts.take i)) (hgap : Token.Blank gap)
    (hrest : ∃ b, rest.head? = some b ∧ Token.isSpace b = false) :
    tokenOffset input i = front.length + gap.length := by
  obtain ⟨b, hb, hspace⟩ := hrest
  have htake : rest.takeWhile Token.isSpace = [] := by
    cases rest with
    | nil => rfl
    | cons c rest =>
      cases hb
      rw [List.takeWhile_cons, hspace, if_neg Bool.false_ne_true]
  have hstops : i < (ts.map Token.stop).length := by rwa [List.length_map]
  have hstart : (if i = 0 then 0 else ((ts.map Token.stop)[i - 1]?).getD 0) = front.length := by
    rw [hfront, Token.lastStop_take hi]
  simp only [tokenOffset, h, Except.toOption, Option.map_some, if_pos hstops, hstart]
  rw [hinput, List.drop_left, List.takeWhile_append_of_pos hgap, htake, List.append_nil]

theorem tokenOffset_length (h : tokenize input = .ok ts) :
    tokenOffset input ts.length = (input.reverse.dropWhile Token.isSpace).length := by
  simp [tokenOffset, h, Except.toOption]

/-- Trimming a text that ends in an escaped blank takes one byte too many. -/
theorem length_trimmed {front gap : Text} (hgap : Token.Blank gap)
    (hfront : Token.EndEscaped front) :
    let trimmed := (front ++ gap).reverse.dropWhile Token.isSpace
    EndsInBlank front ∧ trimmed.length + 1 = front.length ∨
      ¬ EndsInBlank front ∧ trimmed.length = front.length := by
  intro trimmed
  have hreverse : Token.Blank gap.reverse := fun b hb => hgap b (List.mem_reverse.1 hb)
  have htrimmed : trimmed = front.reverse.dropWhile Token.isSpace := by
    show ((front ++ gap).reverse.dropWhile Token.isSpace) = _
    rw [List.reverse_append, List.dropWhile_append_of_pos hreverse]
  rcases List.eq_nil_or_concat front with rfl | ⟨u, b, rfl⟩
  · refine .inr ⟨?_, by rw [htrimmed]; rfl⟩
    rintro ⟨b, -, hsuffix⟩
    cases List.suffix_nil.1 hsuffix
  rw [List.concat_eq_append] at hfront htrimmed ⊢
  rw [List.reverse_append, List.reverse_singleton, List.singleton_append] at htrimmed
  by_cases hb : Token.isSpace b = true
  · obtain ⟨v, rfl⟩ := List.getLast?_eq_some_iff.1 (hfront u b rfl hb)
    refine .inl ⟨⟨b, hb, v, by simp⟩, ?_⟩
    have hstop : Token.isSpace Token.backslash = false := rfl
    simp [htrimmed, hb, hstop]
  · refine .inr ⟨?_, by simp [htrimmed, hb]⟩
    rintro ⟨c, hc, v, hv⟩
    obtain rfl : c = b := by simpa using congrArg List.getLast? hv
    exact hb hc

/-- A token stands at a column of an input: its raw form starts there, and only blanks are between
the token before it and the column. -/
structure StandsAt (input : Text) (ts : List Token) (i : Nat) (t : Token) (column : Nat) :
    Prop where
  token : ts[i]? = some t
  raw : ∃ raw, raw <+: input.drop column ∧ Token.IsRaw raw ∧
    t = ⟨Token.decode raw, column + raw.length⟩
  after : Token.lastStop 0 (ts.take i) ≤ column
  blank : Token.Blank ((input.take column).drop (Token.lastStop 0 (ts.take i)))

theorem standsAt_tokenOffset (h : tokenize input = .ok ts) {i : Nat} {t : Token}
    (ht : ts[i]? = some t) : StandsAt input ts i t (tokenOffset input i) := by
  obtain ⟨front, gap, raw, back, hinput, hfront, hgap, hraw, hstop⟩ := Scan.exists_raw_at h ht
  simp only [Scan.start, Nat.zero_add] at hinput hfront hstop
  have hi : i < ts.length := (List.getElem?_eq_some_iff.1 ht).1
  have hhead : ∃ b, (raw ++ back).head? = some b ∧ Token.isSpace b = false := by
    obtain ⟨b, hb, hspace⟩ := hraw.starts
    exact ⟨b, by rw [List.head?_append, hb]; rfl, hspace⟩
  rw [tokenOffset_eq h hi hinput hfront hgap hhead]
  refine ⟨ht, ⟨raw, ?_, hraw, hstop⟩, by omega, ?_⟩
  · rw [hinput, ← List.append_assoc, ← List.length_append, List.drop_left]
    exact List.prefix_append raw back
  · rw [hinput, ← List.append_assoc, ← List.length_append, List.take_left, ← hfront,
      List.drop_left]
    exact hgap

theorem StandsAt.lt_stop {i column : Nat} {t : Token} (h : StandsAt input ts i t column) :
    column < t.stop := by
  obtain ⟨raw, -, hraw, rfl⟩ := h.raw
  have hpos := hraw.length_pos
  show column < column + raw.length
  omega

theorem StandsAt.exists_byte {i column : Nat} {t : Token} (h : StandsAt input ts i t column) :
    ∃ b, input[column]? = some b ∧ Token.isSpace b = false := by
  obtain ⟨raw, ⟨back, hback⟩, hraw, -⟩ := h.raw
  obtain ⟨b, hb, hspace⟩ := hraw.starts
  refine ⟨b, ?_, hspace⟩
  rw [← List.head?_drop, ← hback, List.head?_append, hb]
  rfl

theorem tokenOffset_end (h : tokenize input = .ok ts) :
    EndsInBlank (input.take (Token.lastStop 0 ts)) ∧
        tokenOffset input ts.length + 1 = Token.lastStop 0 ts ∨
      ¬ EndsInBlank (input.take (Token.lastStop 0 ts)) ∧
        tokenOffset input ts.length = Token.lastStop 0 ts := by
  obtain ⟨front, gap, hinput, hgap, hfront, hstop⟩ := Scan.exists_end h
  simp only [Scan.start, Nat.zero_add] at hinput hstop
  rw [tokenOffset_length h, ← hstop, hinput, List.take_left]
  exact length_trimmed hgap hfront

end Caret

/-- The caret of a syntax error that blames a token stands at that token, on a byte that is no
blank, and the line above holds the same byte there. -/
theorem caret_at_token {input : Text} {e : SyntaxError}
    (he : compile input = .error (.syntactic e)) :
    ∃ ts, tokenize input = .ok ts ∧ ∀ t, ts[e.index]? = some t →
      ∃ column b, Caret.column input (.syntactic e) = column ∧
        Caret.StandsAt input ts e.index t column ∧ column < t.stop ∧
        input[column]? = some b ∧ Token.isSpace b = false ∧
        (input.IsUtf8 → (Caret.flatten input).length = input.length ∧
          byte '\n' ∉ Caret.flatten input ∧ (Caret.flatten input)[column]? = some b) := by
  obtain ⟨ts, hts⟩ := exists_tokens_of_compile_error he
  refine ⟨ts, hts, fun t ht => ?_⟩
  have hstands := Caret.standsAt_tokenOffset hts ht
  obtain ⟨b, hb, hspace⟩ := hstands.exists_byte
  refine ⟨_, b, Caret.column_eq_offset _ _, hstands, hstands.lt_stop, hb, hspace, fun hutf8 => ?_⟩
  rw [Caret.flatten_eq_map hutf8]
  refine ⟨List.length_map .., ?_, ?_⟩
  · intro hmem
    obtain ⟨c, -, hc⟩ := List.mem_map.1 hmem
    exact Caret.flatByte_ne_newline c hc
  · rw [List.getElem?_map]
    exact (congrArg (Option.map Caret.flatByte) hb).trans
      (congrArg some (Caret.flatByte_of_not_isSpace hspace))

/-- In `é\ b =` and, on a second line, `'it\'s'`, a tab and `'x'`, the caret is below `'x'`. -/
theorem caret_at_token_after_escapes :
    let input : Text := "é\\ b =\n'it\\'s'\t'x'"
    let e : SyntaxError := ⟨3, some "'x'", .badOperator⟩
    compile input = .error (.syntactic e) ∧
      ∃ ts, tokenize input = .ok ts ∧ Caret.StandsAt input ts 3 ⟨"'x'", 19⟩ 16 ∧
        (Caret.flatten input)[16]? = some (byte '\'') := by
  intro input e
  have he : compile input = .error (.syntactic e) := by decide +kernel
  have hts : tokenize input = .ok [⟨"é b", 5⟩, ⟨"=", 7⟩, ⟨"'it's'", 15⟩, ⟨"'x'", 19⟩] := by
    decide +kernel
  have hcolumn : Caret.column input (.syntactic e) = 16 := by decide +kernel
  obtain ⟨ts, hts', h⟩ := caret_at_token he
  cases hts.symm.trans hts'
  obtain ⟨column, b, rfl, hstands, -, hb, -, hline⟩ := h ⟨"'x'", 19⟩ rfl
  rw [hcolumn] at hstands hb hline
  cases hb
  exact ⟨he, _, hts, hstands, (hline (Text.isUtf8_ofString _)).2.2⟩

/-- The caret of a syntax error at the end of the tokens stands behind the last token unless that
ends in an escaped blank; then it stands below this blank, within the token. -/
theorem caret_at_end_iff {input : Text} {e : SyntaxError}
    (he : compile input = .error (.syntactic e)) :
    ∃ ts, tokenize input = .ok ts ∧ (e.index = ts.length →
      ∃ column stop, Caret.column input (.syntactic e) = column ∧ Token.lastStop 0 ts = stop ∧
        (column = stop ↔ ¬ Caret.EndsInBlank (input.take stop)) ∧
        (Caret.EndsInBlank (input.take stop) → column + 1 = stop)) := by
  obtain ⟨ts, hts⟩ := exists_tokens_of_compile_error he
  refine ⟨ts, hts, fun hindex => ⟨_, _, Caret.column_eq_offset _ _, rfl, ?_⟩⟩
  have hoffset : Caret.offset input (.syntactic e) = Caret.tokenOffset input ts.length := by
    rw [← hindex]
    rfl
  rw [hoffset]
  rcases Caret.tokenOffset_end hts with ⟨hblank, hcolumn⟩ | ⟨hblank, hcolumn⟩
  · refine ⟨⟨fun h => ?_, fun h => absurd hblank h⟩, fun _ => hcolumn⟩
    omega
  · exact ⟨⟨fun _ => hblank, fun _ => hcolumn⟩, fun h => absurd h hblank⟩

/-- In `(a\ ` the closing bracket is missed at offset 4, and the caret stands at offset 3. -/
theorem caret_at_end_iff_escaped_blank :
    let input : Text := "(a\\ "
    let e : SyntaxError := ⟨2, none, .missingClosing ")"⟩
    compile input = .error (.syntactic e) ∧
      ∃ ts, tokenize input = .ok ts ∧ e.index = ts.length ∧ Token.lastStop 0 ts = 4 ∧
        Caret.column input (.syntactic e) + 1 = 4 := by
  intro input e
  have he : compile input = .error (.syntactic e) := by decide +kernel
  have hts : tokenize input = .ok [⟨"(", 1⟩, ⟨"a ", 4⟩] := by decide +kernel
  obtain ⟨ts, hts', h⟩ := caret_at_end_iff he
  cases hts.symm.trans hts'
  obtain ⟨column, stop, rfl, rfl, -, hcolumn⟩ := h rfl
  exact ⟨he, _, hts, rfl, rfl, hcolumn ⟨byte ' ', rfl, "(a", rfl⟩⟩

end TagFilter
