import TagFilter.Proofs.Unquote
import TagFilter.Proofs.Utf8
import TagFilter.Text.Blank

/-!
# Bytes that an expression keeps

Some bytes are in no operator, however it is spelled: no letter that has one of them in its UTF-8
form is a form of an ASCII letter.  Such a byte (`keptBytes`) is never lost on the way from a text to
its tree.  A scan drops separators, backslashes and backticks only, the reader drops operators, and a
name drops its quotes.  So the leaves of the tree hold it as often as the text does
(`count_leafText`), unless a name was lopsided.

Every blank that is no separator has such a byte (`separates_or_keeps`).
-/

namespace TagFilter

open Grammar Parsing

/-- Bytes that are in no operator: the vertical tab, and second bytes of characters. -/
def keptBytes : List UInt8 := [0x0B, 0x80, 0x81, 0x85, 0x9A, 0xA0]

namespace Text

/-! ## Letter case -/

theorem lowerRuns_ascii : ∀ run ∈ lowerRuns, run.last < 0x80 ∨
    (run.first = run.last ∧ (run.first = 0x130 ∨ run.first = 0x212A)) ∨
    0x80 ≤ run.first + run.shift ∧
      (run.last + run.shift < 0xD800 ∨
        0xE000 ≤ run.first + run.shift ∧ run.last + run.shift < 0x110000) := by
  decide +kernel

/-- Only the dotted capital I and the Kelvin sign have an ASCII letter as their lower-case form. -/
theorem lowerChar_ascii {c : Char} (h : (lowerChar c).toNat < 0x80) :
    c.toNat < 0x80 ∨ c.toNat = 0x130 ∨ c.toNat = 0x212A := by
  unfold lowerChar applyCase at h
  split at h
  next run hrun =>
    have hmem := List.mem_of_find?_eq_some hrun
    have hcovers := List.find?_some hrun
    simp only [CaseRun.covers, Bool.and_eq_true, decide_eq_true_eq] at hcovers
    rcases lowerRuns_ascii run hmem with hlast | ⟨hsame, hfirst⟩ | ⟨hlow, hvalid⟩
    · omega
    · omega
    · have hvalue := toNat_ofNat_char (n := (c.toNat + run.shift).toNat) (by omega)
      change (Char.ofNat _).val.toNat < _ at h
      omega
  · exact .inl h

/-- A character that is in no spelling of an operator. -/
def isOdd (c : Char) : Bool := decide (0x80 ≤ c.toNat) || c == Char.ofNat 0x0B

theorem isOdd_spellings :
    ∀ s ∈ Operator.spellings, (ofString s.1).decode.any isOdd = false := by
  decide +kernel

theorem isOdd_lowerChar {c : Char} {b : UInt8} (hb : b ∈ keptBytes)
    (hc : b ∈ String.utf8EncodeChar c) : isOdd (lowerChar c) = true := by
  by_cases hlow : (lowerChar c).toNat < 0x80
  · rcases lowerChar_ascii hlow with hascii | hother
    · rw [encodeChar_ascii hascii, List.mem_singleton] at hc
      have hbyte : b.toNat = c.toNat := by rw [hc, toNat_ofNat_of_lt (by omega)]
      have htab : ∀ b ∈ keptBytes, b.toNat < 0x80 → b.toNat = 0x0B := by decide +kernel
      have hchar : c = Char.ofNat 0x0B := by
        rw [← htab b hb (by omega), hbyte, Char.ofNat_toNat]
      rw [hchar]
      decide +kernel
    · have hchar : c = Char.ofNat 0x130 ∨ c = Char.ofNat 0x212A := by
        rcases hother with h | h
        · exact .inl (by rw [← h, Char.ofNat_toNat])
        · exact .inr (by rw [← h, Char.ofNat_toNat])
      have hnone : ∀ b ∈ keptBytes, b ∉ String.utf8EncodeChar (Char.ofNat 0x130) ∧
          b ∉ String.utf8EncodeChar (Char.ofNat 0x212A) := by decide +kernel
      rcases hchar with rfl | rfl
      · exact absurd hc (hnone b hb).1
      · exact absurd hc (hnone b hb).2
  · simp only [isOdd, Bool.or_eq_true, decide_eq_true_eq]
    omega

/-! ## Blanks -/

/-- The code points of blanks. -/
def blankCodes : List Nat :=
  [0x09, 0x0A, 0x0B, 0x0C, 0x0D, 0x20, 0x85, 0xA0, 0x1680, 0x2000, 0x2001, 0x2002, 0x2003, 0x2004,
   0x2005, 0x2006, 0x2007, 0x2008, 0x2009, 0x200A, 0x2028, 0x2029, 0x202F, 0x205F, 0x3000]

theorem mem_blankCodes {c : Char} (h : isBlank c = true) : c.toNat ∈ blankCodes := by
  simp only [isBlank, Bool.or_eq_true, Bool.and_eq_true, decide_eq_true_eq, beq_iff_eq] at h
  simp only [blankCodes, List.mem_cons, List.not_mem_nil, or_false]
  omega

/-- A blank is a separator or has a kept byte. -/
theorem separates_or_keeps {c : Char} (h : isBlank c = true) :
    Token.Blank (String.utf8EncodeChar c) ∨ ∃ b ∈ keptBytes, b ∈ String.utf8EncodeChar c := by
  have hcodes : ∀ n ∈ blankCodes,
      (∀ b ∈ String.utf8EncodeChar (Char.ofNat n), Token.isSpace b = true) ∨
        ∃ b ∈ keptBytes, b ∈ String.utf8EncodeChar (Char.ofNat n) := by decide +kernel
  have hchar := hcodes c.toNat (mem_blankCodes h)
  rw [Char.ofNat_toNat] at hchar
  exact hchar

end Text

/-- No operator has a kept byte. -/
theorem not_mem_of_means {w : Text} {o : Operator} (h : Means w o) {b : UInt8}
    (hb : b ∈ keptBytes) : b ∉ w := by
  intro hmem
  have hodd : w.toLower.decode.any Text.isOdd = true := by
    rw [Text.toLower, Text.decode_encode, List.any_map, Text.decode, List.any_map, List.any_eq_true]
    rw [← w.pieces_flatten, List.mem_flatten] at hmem
    obtain ⟨bytes, hbytes, hmem⟩ := hmem
    obtain ⟨p, hp, rfl⟩ := List.mem_map.1 hbytes
    refine ⟨p, hp, ?_⟩
    rcases Text.encodeChar_of_mem_pieces hp with hpiece | hstray
    · rw [hpiece] at hmem
      exact Text.isOdd_lowerChar hb hmem
    · show Text.isOdd (Text.lowerChar p.1) = true
      rw [hstray]
      decide +kernel
  have hnone := @ofSpelling?_eq_none (fun t => t.decode.any Text.isOdd) w Text.isOdd_spellings hodd
  cases h.symm.trans hnone

theorem keptBytes_plain {b : UInt8} (hb : b ∈ keptBytes) :
    Token.isSpace b = false ∧ b ≠ Token.backslash ∧ b ≠ Token.backtick ∧ ¬ IsQuote b := by
  have hplain : ∀ b ∈ keptBytes, Token.isSpace b = false ∧ b ≠ Token.backslash ∧
      b ≠ Token.backtick ∧ b ≠ byte '"' ∧ b ≠ byte '\'' := by decide +kernel
  obtain ⟨hspace, hbackslash, hbacktick, hdouble, hsingle⟩ := hplain b hb
  exact ⟨hspace, hbackslash, hbacktick, not_or.2 ⟨hdouble, hsingle⟩⟩

/-! ## Tokens -/

namespace Token

variable {b : UInt8}

theorem count_unescape (hb : b ≠ backslash) (escapable : UInt8 → Bool) (t : Text) :
    (unescape escapable t).count b = t.count b := by
  fun_induction unescape escapable t with
  | case1 | case2 => rfl
  | case3 a c rest hescape ih =>
    rw [List.count_cons, List.count_cons, List.count_cons, ih, hescape.1]
    simp [Ne.symm hb]
  | case4 a c rest _ ih => rw [List.count_cons, List.count_cons, ih]

theorem count_decode (hbackslash : b ≠ backslash) (hbacktick : b ≠ backtick) {raw : Text}
    (h : IsRaw raw) : (decode raw).count b = raw.count b := by
  obtain ⟨c, hc, -⟩ := h.starts
  obtain ⟨rest, rfl⟩ := List.head?_eq_some_iff.1 hc
  by_cases hopens : Opens c
  · obtain ⟨inside, hraw⟩ := h.closes c rfl hopens
    rw [hraw, decode_literal hopens]
    by_cases hc : c = backtick
    · rw [literalText, if_pos hc, count_unescape hbackslash, hc]
      simp [Ne.symm hbacktick]
    · rw [literalText, if_neg hc]
      simp [List.count_cons, count_unescape hbackslash]
  · rw [decode_word hopens, count_unescape hbackslash]

theorem Blank.count_eq_zero {t : Text} (h : Blank t) (hb : isSpace b = false) : t.count b = 0 := by
  rw [List.count_eq_zero]
  intro hmem
  rw [h b hmem] at hb
  cases hb

end Token

/-- The words of the tokens hold a kept byte as often as the text does. -/
theorem count_words {b : UInt8} (hb : b ∈ keptBytes) {text : Text} {ts : List Token}
    (h : tokenize text = .ok ts) : (ts.map Token.text).flatten.count b = text.count b := by
  obtain ⟨hspace, hbackslash, hbacktick, -⟩ := keptBytes_plain hb
  obtain ⟨lead, slices, hlead, htext, rfl⟩ := Scan.tokens_eq_slices h
  replace htext : text = lead ++ slices.flatMap Slice.bytes := htext
  rw [htext, List.count_append, hlead.count_eq_zero hspace, Nat.zero_add, Slice.map_text_tokens]
  rw [List.count_flatten, List.count_flatMap, List.map_map]
  refine congrArg List.sum (List.map_congr_left fun s _ => ?_)
  show (Token.decode s.raw).count b = (s.raw ++ s.gap).count b
  rw [Token.count_decode hbackslash hbacktick s.isRaw, List.count_append,
    s.blank.count_eq_zero hspace, Nat.add_zero]

/-! ## Leaves -/

/-- The texts of the leaves of a tree, one after the other. -/
def Tree.leafText (t : Tree) : Text := ((t.fringe .operand).map Prod.snd).flatten

section Leaves

variable {b : UInt8} (hb : b ∈ keptBytes)

include hb

theorem count_operandWords (ws : List Text) :
    (operandWords ws).flatten.count b = ws.flatten.count b := by
  induction ws with
  | nil => rfl
  | cons w ws ih =>
    rw [List.flatten_cons, List.count_append, ← ih]
    by_cases hoperand : isOperandWord w = true
    · rw [operandWords_operand hoperand, List.flatten_cons, List.count_append]
    · obtain ⟨o, hmeans, hnull⟩ : ∃ o, Means w o ∧ o ≠ .null := by
        cases hmeaning : Operator.ofSpelling? w with
        | none => simp [isOperandWord, hmeaning] at hoperand
        | some o =>
          refine ⟨o, hmeaning, ?_⟩
          rintro rfl
          simp [isOperandWord, hmeaning] at hoperand
      rw [operandWords_operator hmeans hnull, List.count_eq_zero_of_not_mem
        (not_mem_of_means hmeans hb), Nat.zero_add]

omit hb in
theorem count_unquote_le (word : Text) : (unquote word).count b ≤ word.count b := by
  rcases unquote_cases word with ⟨q, inner, c, -, rfl, hunquote⟩ | ⟨-, hunquote⟩
  · rw [hunquote, List.cons_append, List.count_cons, List.count_append]
    omega
  · exact Nat.le_of_eq (by rw [hunquote])

theorem count_unquote {word : Text} (h : ¬ Lopsided word) :
    (unquote word).count b = word.count b := by
  obtain ⟨-, -, -, hquote⟩ := keptBytes_plain hb
  rcases (dropsOnlyQuotes_unquote_iff word).2 h with hsame | ⟨q, hq, hword⟩
  · rw [← hsame]
  · have hne : ∀ b', b' = q → b' ≠ b := by
      rintro b' rfl rfl
      exact hquote hq
    conv => rhs; rw [hword]
    simp [hne q rfl]

theorem count_readFrom {leaf : LeafRole × Text} {word : Text} (h : ReadFrom leaf word) :
    leaf.2.count b ≤ word.count b ∧ (¬ Lopsided word → leaf.2.count b = word.count b) := by
  obtain ⟨role, text⟩ := leaf
  cases role with
  | operand =>
    obtain rfl : text = word := h
    exact ⟨Nat.le_refl _, fun _ => rfl⟩
  | null =>
    obtain ⟨rfl, hmeans⟩ := h
    have hnull : b ∉ Text.ofString "null" := not_mem_of_means (o := .null) rfl hb
    have hword := not_mem_of_means hmeans hb
    rw [List.count_eq_zero_of_not_mem hword]
    exact ⟨Nat.le_of_eq (List.count_eq_zero_of_not_mem hnull),
      fun _ => List.count_eq_zero_of_not_mem hnull⟩
  | name =>
    obtain ⟨rfl, -⟩ := h
    exact ⟨count_unquote_le word, count_unquote hb⟩

theorem count_readFrom_all {leaves : List (LeafRole × Text)} {words : List Text}
    (h : List.Forall₂ ReadFrom leaves words) :
    (leaves.map Prod.snd).flatten.count b ≤ words.flatten.count b ∧
      ((∀ word ∈ words, ¬ Lopsided word) →
        (leaves.map Prod.snd).flatten.count b = words.flatten.count b) := by
  induction h with
  | nil => exact ⟨Nat.le_refl _, fun _ => rfl⟩
  | cons hfirst _ ih =>
    obtain ⟨hle, heq⟩ := count_readFrom hb hfirst
    simp only [List.map_cons, List.flatten_cons, List.count_append]
    refine ⟨Nat.add_le_add hle ih.1, fun hwords => ?_⟩
    rw [List.forall_mem_cons] at hwords
    rw [heq hwords.1, ih.2 hwords.2]

/-- The leaves of an expression hold a kept byte at most as often as its text, and exactly as often
if no token is lopsided. -/
theorem count_leafText {text : Text} {t : Tree} (h : compile text = .ok t) {ts : List Token}
    (hts : tokenize text = .ok ts) :
    t.leafText.count b ≤ text.count b ∧
      ((∀ token ∈ ts, ¬ Lopsided token.text) → t.leafText.count b = text.count b) := by
  obtain ⟨ts', u, hts', hderives, rfl⟩ := compile_eq_ok_iff.1 h
  obtain rfl := Except.ok.inj (hts'.symm.trans hts)
  obtain ⟨hle, heq⟩ := count_readFrom_all hb hderives.wrapLeaf_stemsFrom
  rw [count_operandWords hb, count_words hb hts] at hle heq
  refine ⟨hle, fun hwords => heq fun word hword => ?_⟩
  obtain ⟨token, htoken, rfl⟩ := List.mem_map.1 (List.mem_of_mem_filter hword)
  exact hwords token htoken

end Leaves

end TagFilter
