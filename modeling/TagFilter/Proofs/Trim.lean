import Mathlib.Data.List.DropRight
import TagFilter.Proofs.KeptBytes
import TagFilter.Proofs.Print

/-!
# Lines and their trimmed forms

Trimming takes blanks off both ends of a line (`Text.exists_trim`), and all that are there: where it
was done at one end, it leaves nothing to be done again (`Text.trim_trimEnd`).  It is harmless if the line is
framed: what is taken off separates tokens, and none of it is escaped (`Text.Framed`).  Then the line
and its trimmed form fall into the same words, so they compile alike (`Text.Framed.compile_iff`).

On a line without lopsided tokens it is harmless in no other way, unless the line does not compile.
A blank that is no separator has a kept byte, and the tree would have to hold that byte more often
than the trimmed form does (`Text.framed_of_compile`).
-/

namespace TagFilter

open Grammar

namespace Text

/-! ## What trimming takes off -/

theorem isBlank_replacement : isBlank replacement = false := by decide +kernel

/-- Blank pieces of a text are its blanks in UTF-8. -/
theorem flatten_blank {t : Text} {ps : List (Char × Text)} (hps : ∀ p ∈ ps, p ∈ t.pieces)
    (hblank : ∀ p ∈ ps, isBlank p.1 = true) :
    (ps.map Prod.snd).flatten = encode (ps.map Prod.fst) := by
  rw [encode, List.flatMap_map, List.flatMap_def]
  refine congrArg List.flatten (List.map_congr_left fun p hp => ?_)
  rcases encodeChar_of_mem_pieces (hps p hp) with hpiece | hstray
  · exact hpiece
  · have := hblank p hp
    rw [hstray, isBlank_replacement] at this
    cases this

theorem exists_trimStart (t : Text) :
    ∃ front, t = encode front ++ t.trimStart ∧ ∀ c ∈ front, isBlank c = true := by
  let front := t.pieces.takeWhile fun p => isBlank p.1
  have hblank : ∀ p ∈ front, isBlank p.1 = true := List.all_eq_true.1 List.all_takeWhile
  have hsplit : front ++ t.pieces.dropWhile (fun p => isBlank p.1) = t.pieces :=
    List.takeWhile_append_dropWhile
  refine ⟨front.map Prod.fst, ?_, List.forall_mem_map.2 hblank⟩
  rw [← flatten_blank (List.takeWhile_subset _) hblank, trimStart, ← List.flatten_append,
    ← List.map_append, hsplit, pieces_flatten]

theorem exists_trimEnd (t : Text) :
    ∃ back, t = t.trimEnd ++ encode back ∧ ∀ c ∈ back, isBlank c = true := by
  let back := (t.pieces.reverse.takeWhile fun p => isBlank p.1).reverse
  have hblank : ∀ p ∈ back, isBlank p.1 = true := by
    intro p hp
    exact List.all_eq_true.1 List.all_takeWhile p (List.mem_reverse.1 hp)
  have hmem : ∀ p ∈ back, p ∈ t.pieces := by
    intro p hp
    exact List.mem_reverse.1 (List.takeWhile_subset _ (List.mem_reverse.1 hp))
  have hsplit : (t.pieces.reverse.dropWhile fun p => isBlank p.1).reverse ++ back = t.pieces := by
    rw [← List.reverse_append, List.takeWhile_append_dropWhile, List.reverse_reverse]
  refine ⟨back.map Prod.fst, ?_, List.forall_mem_map.2 hblank⟩
  rw [← flatten_blank hmem hblank, trimEnd, ← List.flatten_append, ← List.map_append, hsplit,
    pieces_flatten]

/-- What trimming takes off is blanks. -/
theorem exists_trim (t : Text) :
    ∃ front back, t = encode front ++ t.trim ++ encode back ∧
      (∀ c ∈ front, isBlank c = true) ∧ ∀ c ∈ back, isBlank c = true := by
  obtain ⟨front, hstart, hfront⟩ := t.exists_trimStart
  obtain ⟨back, hend, hback⟩ := t.trimStart.exists_trimEnd
  refine ⟨front, back, ?_, hfront, hback⟩
  rw [List.append_assoc, trim, ← hend, ← hstart]

/-! ## Trimming more than once -/

/-- Whether a piece is white space. -/
def blankPiece (p : Char × Text) : Bool := isBlank p.1

theorem trimEnd_eq (t : Text) : t.trimEnd = ((t.pieces.rdropWhile blankPiece).map Prod.snd).flatten :=
  rfl

theorem pieces_trimStart (t : Text) : t.trimStart.pieces = t.pieces.dropWhile blankPiece := by
  have hsplit : t.pieces.takeWhile blankPiece ++ t.pieces.dropWhile blankPiece = t.pieces :=
    List.takeWhile_append_dropWhile
  exact (pieces_split hsplit.symm).2

theorem pieces_trimEnd (t : Text) : t.trimEnd.pieces = t.pieces.rdropWhile blankPiece :=
  (pieces_split List.rdropWhile_append_rtakeWhile.symm).1

theorem trim_eq (t : Text) :
    t.trim = (((t.pieces.dropWhile blankPiece).rdropWhile blankPiece).map Prod.snd).flatten := by
  rw [trim, trimEnd_eq, pieces_trimStart]

theorem rdropWhile_append_blank {back : List (Char × Text)}
    (hback : ∀ p ∈ back, blankPiece p = true) (ps : List (Char × Text)) :
    (ps ++ back).rdropWhile blankPiece = ps.rdropWhile blankPiece := by
  rw [List.rdropWhile, List.reverse_append, List.dropWhile_append_of_pos]
  · rfl
  · exact fun p hp => hback p (List.mem_reverse.1 hp)

/-- Nothing is left to take off at an end where it was done. -/
theorem trim_trimEnd (t : Text) : t.trimEnd.trim = t.trim := by
  have hback : ∀ p ∈ t.pieces.rtakeWhile blankPiece, blankPiece p = true :=
    fun p hp => List.mem_rtakeWhile_imp hp
  have hsplit : t.pieces = t.trimEnd.pieces ++ t.pieces.rtakeWhile blankPiece := by
    rw [pieces_trimEnd, List.rdropWhile_append_rtakeWhile]
  generalize t.pieces.rtakeWhile blankPiece = back at hback hsplit
  rw [trim_eq t.trimEnd, trim_eq t, hsplit]
  have hdrop : back.dropWhile blankPiece = [] := List.dropWhile_eq_nil_iff.2 hback
  rw [List.dropWhile_append]
  split
  next h => rw [hdrop, List.isEmpty_iff.1 h]
  · rw [rdropWhile_append_blank hback]

theorem trimEnd_encode_append (cs : List Char) {t : Text} (h : t.trimEnd ≠ []) :
    (encode cs ++ t).trimEnd = encode cs ++ t.trimEnd := by
  have hne : (t.pieces.reverse.dropWhile blankPiece).isEmpty = false := by
    rw [Bool.eq_false_iff]
    intro hempty
    refine h ?_
    rw [trimEnd_eq, List.rdropWhile, List.isEmpty_iff.1 hempty]
    rfl
  rw [trimEnd_eq, trimEnd_eq, pieces_encode_append, List.rdropWhile, List.reverse_append,
    List.dropWhile_append, hne, if_neg Bool.false_ne_true, List.reverse_append,
    List.reverse_reverse, List.map_append, List.flatten_append, List.map_map]
  rfl

theorem trimStart_encode_cons {c : Char} (hc : isBlank c = false) (cs : List Char) (t : Text) :
    (encode (c :: cs) ++ t).trimStart = encode (c :: cs) ++ t := by
  have hne : ¬ blankPiece (c, String.utf8EncodeChar c) = true := ne_true_of_eq_false hc
  have hdrop : (encode (c :: cs) ++ t).pieces.dropWhile blankPiece =
      (encode (c :: cs) ++ t).pieces := by
    rw [pieces_encode_append, List.map_cons, List.cons_append, List.dropWhile_cons_of_neg hne]
  rw [← pieces_flatten (trimStart _), pieces_trimStart, hdrop, pieces_flatten]

/-- After a text that starts with no blank, white space is only taken off at the end. -/
theorem trim_encode_cons_append {c : Char} (hc : isBlank c = false) (cs : List Char) {t : Text}
    (h : t.trim ≠ []) : (encode (c :: cs) ++ t).trim = encode (c :: cs) ++ t.trimEnd := by
  rw [trim, trimStart_encode_cons hc, trimEnd_encode_append]
  intro hnil
  rw [← trim_trimEnd, hnil] at h
  exact h rfl

/-! ## Lines -/

/-- The last byte of a text is a backslash that makes the next byte literal. -/
def EndsInEscape (t : Text) : Prop := ∃ pos, tokenize t = .error ⟨pos, .nothingEscaped⟩

/-- What trimming takes off a line separates tokens, and none of it is escaped. -/
def Framed (line : Text) : Prop :=
  ∃ front back, line = front ++ line.trim ++ back ∧ Token.Blank front ∧ Token.Blank back ∧
    (back ≠ [] → ¬ line.trim.EndsInEscape)

end Text

/-! ## Framed lines -/

theorem compile_eq_ok_iff_fallsInto {text : Text} {t : Tree} :
    compile text = .ok t ↔ ∃ ws u, FallsInto text ws ∧ Derives .disjunction ws u ∧
      Parsing.wrapLeaf u = t := by
  rw [compile_eq_ok_iff]
  constructor
  · rintro ⟨tokens, u, htokens, hderives, hwrap⟩
    exact ⟨_, u, ⟨tokens, htokens, rfl⟩, hderives, hwrap⟩
  · rintro ⟨_, u, ⟨tokens, htokens, rfl⟩, hderives, hwrap⟩
    exact ⟨tokens, u, htokens, hderives, hwrap⟩

namespace Token

theorem Blank.separate {t : Text} (h : Blank t) : Separate t :=
  fun b hb => .inl (h b (List.mem_of_mem_head? hb))

theorem quoted_of_not_mem {q : UInt8} {t : Text} (h : q ∉ t) : quoted q t = none := by
  induction t with
  | nil => rfl
  | cons b t ih =>
    rw [List.mem_cons, not_or] at h
    have hhead : ¬ (b = backslash ∧ t.head? = some q) := fun hb => h.2 (List.mem_of_mem_head? hb.2)
    rw [quoted_plain (Ne.symm h.1) hhead, ih h.2]
    rfl

/-- A literal that is not closed stays so if text without its quote follows. -/
theorem quoted_append_of_not_mem {q : UInt8} (hq : Opens q) {t u : Text}
    (h : quoted q t = none) (hu : q ∉ u) : quoted q (t ++ u) = none := by
  fun_induction quoted q t with
  | case1 => exact quoted_of_not_mem hu
  | case2 => cases h
  | case3 b _ c t hescape ih =>
    obtain ⟨rfl, hc⟩ := hescape
    obtain rfl : c = q := by simpa using hc
    rw [prepend, Option.map_eq_none_iff] at h
    rw [List.cons_append, List.cons_append, quoted_escaped hq.ne_backslash, ih h]
    rfl
  | case4 b _ hescape => cases hescape.2
  | case5 b t hb hescape ih =>
    rw [prepend, Option.map_eq_none_iff] at h
    have hhead : ¬ (b = backslash ∧ (t ++ u).head? = some q) := by
      rintro ⟨hbackslash, hhead⟩
      cases t with
      | nil => exact hu (List.mem_of_mem_head? hhead)
      | cons => exact hescape ⟨hbackslash, hhead⟩
    rw [List.cons_append, quoted_plain hb hhead, ih h]
    rfl

theorem Blank.not_mem_of_opens {t : Text} (h : Blank t) {q : UInt8} (hq : Opens q) : q ∉ t := by
  intro hmem
  have hspace := h q hmem
  rw [hq.isSpace] at hspace
  cases hspace

theorem read_append_unclosed {b q : UInt8} {t : Text} (h : read b t = .error (.unclosedQuote q))
    {back : Text} (hback : Blank back) : read b (t ++ back) = .error (.unclosedQuote q) := by
  by_cases hopens : Opens b
  · rw [read_of_opens hopens] at h ⊢
    cases hquoted : quoted b t with
    | some part =>
      rw [hquoted] at h
      cases h
    | none =>
      rw [hquoted] at h
      rw [quoted_append_of_not_mem hopens hquoted (hback.not_mem_of_opens hopens)]
      exact h
  · simp only [Opens, not_or] at hopens
    rw [read, if_neg (by simp [hopens]), if_neg hopens.2.2] at h
    cases hword : word .nothing (b :: t) <;> rw [hword] at h <;> cases h

end Token

namespace Scan

theorem next_append_unclosed {s after : Scan} {pos : Nat} {q : UInt8}
    (h : s.next = .failed ⟨pos, .unclosedQuote q⟩ after) {back : Text} (hback : Token.Blank back) :
    ∃ e after', (⟨s.pos, s.rest ++ back⟩ : Scan).next = .failed e after' := by
  unfold next at h
  cases hskip : Token.skipSpaces s.rest with
  | nil =>
    rw [hskip] at h
    cases h
  | cons b rest =>
    rw [hskip] at h
    have hskip' : Token.skipSpaces (s.rest ++ back) = b :: (rest ++ back) := by
      rw [Token.skipSpaces, List.dropWhile_append, ← Token.skipSpaces, hskip]
      rfl
    cases hread : Token.read b rest with
    | ok part =>
      simp only [hread] at h
      cases h
    | error cause =>
      simp only [hread] at h
      cases h
      simp only [next, hskip', Token.read_append_unclosed hread hback]
      exact ⟨_, _, rfl⟩

/-- A quote that is not closed is not closed by separators. -/
theorem tokens_append_unclosed {s : Scan} {pos : Nat} {q : UInt8}
    (h : s.tokens = .error ⟨pos, .unclosedQuote q⟩) {back : Text} (hback : Token.Blank back) :
    ∃ e, (⟨s.pos, s.rest ++ back⟩ : Scan).tokens = .error e := by
  fun_induction Scan.tokens s with
  | case1 => cases h
  | case2 s e after hnext =>
    cases h
    obtain ⟨e, after', hnext'⟩ := next_append_unclosed hnext hback
    exact ⟨e, tokens_of_failed hnext'⟩
  | case3 => cases h
  | case4 s t after hnext e he ih =>
    cases h
    obtain ⟨e, htokens⟩ := ih he
    rw [tokens_of_token (next_append hnext hback.separate), htokens]
    exact ⟨e, rfl⟩

end Scan

theorem tokenize_of_blank {t : Text} (h : Token.Blank t) : tokenize t = .ok [] := by
  have hblank := tokenize_blank h []
  obtain ⟨tokens, hnil, hwords⟩ := fallsInto_nil
  obtain rfl := List.map_eq_nil_iff.1 hwords
  rw [List.append_nil, hnil] at hblank
  exact hblank

section

variable {front back : Text} (hfront : Token.Blank front) (hback : Token.Blank back)

include hfront in
theorem fallsInto_blank_append {t : Text} {ws : List Text} :
    FallsInto (front ++ t) ws ↔ FallsInto t ws := by
  unfold FallsInto
  rw [tokenize_blank hfront]
  cases tokenize t with
  | error e => simp [Scan.shiftResult, Except.map, Except.mapError]
  | ok ts =>
    have hshift : (ts.map (Token.shift front.length)).map Token.text = ts.map Token.text := by
      rw [List.map_map]
      rfl
    simp [Scan.shiftResult, Except.map, Except.mapError, hshift]

include hback in
theorem fallsInto_append_blank {t : Text} {ws : List Text}
    (hescape : back ≠ [] → ¬ t.EndsInEscape) : FallsInto (t ++ back) ws ↔ FallsInto t ws := by
  unfold FallsInto
  cases ht : tokenize t with
  | ok ts =>
    have htokens : tokenize (t ++ back) = .ok ts := by
      rw [tokenize_separate ht hback.separate, tokenize_of_blank hback]
      simp [Scan.shiftResult, Except.map, Except.mapError]
    rw [htokens]
  | error e =>
    obtain ⟨e', he'⟩ : ∃ e', tokenize (t ++ back) = .error e' := by
      obtain ⟨pos, cause⟩ := e
      cases cause with
      | unclosedQuote q => exact Scan.tokens_append_unclosed ht hback
      | nothingEscaped =>
        by_cases hnil : back = []
        · rw [hnil, List.append_nil]
          exact ⟨_, ht⟩
        · exact absurd ⟨pos, ht⟩ (hescape hnil)
    simp [he']

end

namespace Text

theorem Framed.fallsInto_iff {line : Text} (h : line.Framed) (ws : List Text) :
    FallsInto line ws ↔ FallsInto line.trim ws := by
  obtain ⟨front, back, hline, hfront, hback, hescape⟩ := h
  conv => lhs; rw [hline]
  rw [List.append_assoc, fallsInto_blank_append hfront, fallsInto_append_blank hback hescape]

/-- A framed line and its trimmed form compile alike. -/
theorem Framed.compile_iff {line : Text} (h : line.Framed) (t : Tree) :
    compile line.trim = .ok t ↔ compile line = .ok t := by
  rw [compile_eq_ok_iff_fallsInto, compile_eq_ok_iff_fallsInto]
  simp only [h.fallsInto_iff]

/-! ## Other lines -/

theorem blank_encode_of_not_mem {cs : List Char} (hcs : ∀ c ∈ cs, isBlank c = true)
    (hnone : ∀ b ∈ keptBytes, b ∉ encode cs) : Token.Blank (encode cs) := by
  intro b hb
  obtain ⟨c, hc, hbc⟩ := List.mem_flatMap.1 hb
  rcases separates_or_keeps (hcs c hc) with hblank | ⟨k, hk, hkc⟩
  · exact hblank b hbc
  · exact absurd (List.mem_flatMap.2 ⟨c, hc, hkc⟩) (hnone k hk)

/-- A line without lopsided tokens is framed if it has the tree of its trimmed form: a blank that is
no separator would be in a leaf of the one and not of the other. -/
theorem framed_of_compile {line : Text} {t : Tree} (hline : compile line = .ok t)
    (htrim : compile line.trim = .ok t)
    (hlopsided : ∀ ts, tokenize line = .ok ts → ∀ token ∈ ts, ¬ Lopsided token.text) :
    line.Framed := by
  obtain ⟨ts, -, hts, -⟩ := compile_eq_ok_iff.1 hline
  obtain ⟨us, -, hus, -⟩ := compile_eq_ok_iff.1 htrim
  obtain ⟨front, back, hsplit, hfront, hback⟩ := line.exists_trim
  have hcount : ∀ b ∈ keptBytes, b ∉ encode front ∧ b ∉ encode back := by
    intro b hb
    have hkept := (count_leafText hb hline hts).2 (hlopsided ts hts)
    have hheld := (count_leafText hb htrim hus).1
    have hbytes : line.count b =
        (encode front).count b + line.trim.count b + (encode back).count b := by
      conv => lhs; rw [hsplit]
      rw [List.count_append, List.count_append]
    rw [← List.count_eq_zero, ← List.count_eq_zero]
    omega
  refine ⟨encode front, encode back, hsplit,
    blank_encode_of_not_mem hfront fun b hb => (hcount b hb).1,
    blank_encode_of_not_mem hback fun b hb => (hcount b hb).2, ?_⟩
  rintro - ⟨pos, hpos⟩
  rw [hus] at hpos
  cases hpos

end Text

end TagFilter
