import Mathlib.Control.Monad.Basic
import TagFilter.Token

/-!
# Scans lose nothing

A text that falls into tokens is made of blanks and raw tokens and nothing else: some blanks in
front, then slices, each a raw token with the blanks after it (`Slice`).  Which token a raw one
stands for is a function of its bytes alone (`Token.decode`): a raw token in quotes keeps them, one
in backticks loses them, both without the backslash before such a byte inside, and any other loses
every backslash and keeps the byte after it.

`Scan.next_eq_token` says this of one step of a scan and `Scan.tokens_eq_slices` of a whole scan.
-/

namespace TagFilter

namespace Token

/-- All bytes of a text separate tokens. -/
def Blank (t : Text) : Prop := ∀ b ∈ t, isSpace b = true

instance (t : Text) : Decidable (Blank t) := inferInstanceAs (Decidable (∀ b ∈ t, _))

/-- The bytes that open a literal: the two quotes, which it keeps, and the backtick. -/
def Opens (b : UInt8) : Prop := b = byte '"' ∨ b = byte '\'' ∨ b = backtick

instance (b : UInt8) : Decidable (Opens b) := inferInstanceAs (Decidable (_ ∨ _ ∨ _))

theorem Opens.ne_backslash {q : UInt8} (h : Opens q) : backslash ≠ q := by
  rcases h with rfl | rfl | rfl <;> decide

theorem Opens.isSpace {q : UInt8} (h : Opens q) : isSpace q = false := by
  rcases h with rfl | rfl | rfl <;> rfl

/-- The text of the token that a literal is: backticks are dropped. -/
def literalText (q : UInt8) (s : Text) : Text := if q = backtick then s else q :: s ++ [q]

/-! ## Raw tokens -/

/-- A text without the backslashes before bytes of a class. -/
def unescape (escapable : UInt8 → Bool) : Text → Text
  | [] => []
  | [b] => [b]
  | b :: c :: rest =>
    if b = backslash ∧ escapable c then c :: unescape escapable rest
    else b :: unescape escapable (c :: rest)

/-- The text that a raw token stands for. -/
def decode : Text → Text
  | [] => []
  | b :: rest =>
    if b = byte '"' ∨ b = byte '\'' then b :: unescape (· == b) rest.dropLast ++ [b]
    else if b = backtick then unescape (· == b) rest.dropLast
    else unescape (fun _ => true) (b :: rest)

/-- A raw token starts with no blank, and a literal ends with the byte that opens it. -/
structure IsRaw (raw : Text) : Prop where
  starts : ∃ b, raw.head? = some b ∧ isSpace b = false
  closes : ∀ b, raw.head? = some b → Opens b → ∃ inside, raw = b :: inside ++ [b]

theorem IsRaw.length_pos {raw : Text} (h : IsRaw raw) : 0 < raw.length := by
  obtain ⟨b, hb, -⟩ := h.starts
  cases raw with
  | nil => cases hb
  | cons => simp

theorem unescape_escaped {escapable : UInt8 → Bool} {c : UInt8} (hc : escapable c = true)
    (t : Text) : unescape escapable (backslash :: c :: t) = c :: unescape escapable t := by
  rw [unescape, if_pos ⟨rfl, hc⟩]

theorem unescape_plain {escapable : UInt8 → Bool} {b : UInt8} {t : Text}
    (h : b = backslash → ∀ c, t.head? = some c → escapable c = false) :
    unescape escapable (b :: t) = b :: unescape escapable t := by
  cases t with
  | nil => rfl
  | cons c t =>
    rw [unescape, if_neg]
    rintro ⟨hb, hc⟩
    rw [h hb c rfl] at hc
    cases hc

theorem quoted_eq_some {q : UInt8} {t inner rest : Text} (h : quoted q t = some (inner, rest)) :
    ∃ inside, t = inside ++ q :: rest ∧ inner = unescape (· == q) inside := by
  fun_induction quoted q t generalizing inner with
  | case1 => cases h
  | case2 =>
    cases h
    exact ⟨[], rfl, rfl⟩
  | case3 b _ c t hescape ih =>
    obtain ⟨tail, htail, rfl⟩ := prepend_eq_some.1 h
    obtain ⟨inside, rfl, rfl⟩ := ih htail
    obtain ⟨rfl, hc⟩ := hescape
    obtain rfl : c = q := by simpa using hc
    exact ⟨backslash :: c :: inside, rfl, (unescape_escaped (by simp) inside).symm⟩
  | case4 => cases h
  | case5 b t hb hescape ih =>
    obtain ⟨tail, htail, rfl⟩ := prepend_eq_some.1 h
    obtain ⟨inside, rfl, rfl⟩ := ih htail
    refine ⟨b :: inside, rfl, (unescape_plain fun hbackslash c hc => ?_).symm⟩
    -- The byte after a backslash that stands for itself is not the quote.
    have hhead : (inside ++ q :: rest).head? = some c := by rw [List.head?_append, hc]; rfl
    rw [hhead] at hescape
    simpa [hbackslash] using hescape

theorem head?_of_move_twin {p : Pending} {b : UInt8} {t : Text} (h : move p b t = .twin) :
    t.head? = some b := by
  unfold move at h
  grind

theorem unescape_of_move {p : Pending} {b : UInt8} {t : Text} (h : move p b t ≠ .escape)
    (u : Text) : unescape (fun _ => true) (b :: u) = b :: unescape (fun _ => true) u :=
  unescape_plain fun hb => absurd (move_eq_escape_iff.2 hb) h

theorem word_eq_some {p : Pending} {t text rest : Text} (h : word p t = some (text, rest)) :
    ∃ raw, t = raw ++ rest ∧ text = unescape (fun _ => true) raw := by
  fun_induction word p t generalizing text with
  | case1 | case2 =>
    cases h
    exact ⟨[], rfl, rfl⟩
  | case3 p b t _ =>
    cases h
    exact ⟨[b], rfl, rfl⟩
  | case4 p b t hmove =>
    cases h
    obtain ⟨u, rfl⟩ : ∃ u, t = b :: u := List.head?_eq_some_iff.1 (head?_of_move_twin hmove)
    exact ⟨[b, b], rfl, (unescape_of_move (by rw [hmove]; decide) [b]).symm⟩
  | case5 p b t hmove ih =>
    obtain ⟨tail, htail, rfl⟩ := prepend_eq_some.1 h
    obtain ⟨raw, rfl, rfl⟩ := ih htail
    exact ⟨b :: raw, rfl, (unescape_of_move (by rw [hmove]; decide) raw).symm⟩
  | case6 => cases h
  | case7 p b c t hmove ih =>
    obtain ⟨tail, htail, rfl⟩ := prepend_eq_some.1 h
    obtain ⟨raw, rfl, rfl⟩ := ih htail
    obtain rfl := move_eq_escape_iff.1 hmove
    exact ⟨backslash :: c :: raw, rfl, (unescape_escaped rfl raw).symm⟩

theorem decode_literal {b : UInt8} (hb : Opens b) (inside : Text) :
    decode (b :: inside ++ [b]) = literalText b (unescape (· == b) inside) := by
  rcases hb with rfl | rfl | rfl <;> simp [decode, literalText, backtick, byte]

theorem decode_word {b : UInt8} (hb : ¬ Opens b) (t : Text) :
    decode (b :: t) = unescape (fun _ => true) (b :: t) := by
  simp only [Opens, not_or] at hb
  simp [decode, hb]

theorem isRaw_literal {b : UInt8} (hb : Opens b) (inside : Text) :
    IsRaw (b :: inside ++ [b]) := by
  refine ⟨⟨b, rfl, hb.isSpace⟩, fun c hc _ => ?_⟩
  cases hc
  exact ⟨inside, rfl⟩

theorem read_of_word {b : UInt8} (hb : ¬ Opens b) {t text rest : Text}
    (h : word .nothing (b :: t) = some (text, rest)) : read b t = .ok (text, rest) := by
  simp only [Opens, not_or] at hb
  simp [read, hb, h]

theorem read_of_opens {q : UInt8} (hq : Opens q) (t : Text) :
    read q t =
      match quoted q t with
      | some (inner, rest) => .ok (literalText q inner, rest)
      | none => .error (.unclosedQuote q) := by
  unfold read literalText
  rcases hq with rfl | rfl | rfl <;> rfl

/-- What is read is a literal or a word. -/
theorem read_cases {b : UInt8} {t text rest : Text} (h : read b t = .ok (text, rest)) :
    (Opens b ∧ ∃ inner, quoted b t = some (inner, rest) ∧ text = literalText b inner) ∨
      ¬ Opens b ∧ word .nothing (b :: t) = some (text, rest) := by
  by_cases hb : Opens b
  · rw [read_of_opens hb] at h
    cases hquoted : quoted b t with
    | none => simp [hquoted] at h
    | some part =>
      rw [hquoted] at h
      cases h
      exact .inl ⟨hb, _, rfl, rfl⟩
  · cases hword : word .nothing (b :: t) with
    | none =>
      simp only [Opens, not_or] at hb
      simp [read, hb, hword] at h
    | some part =>
      rw [read_of_word hb hword] at h
      cases h
      exact .inr ⟨hb, rfl⟩

/-- What is read at a byte is a raw token, decoded. -/
theorem read_eq_ok {b : UInt8} {t text rest : Text} (hb : isSpace b = false)
    (h : read b t = .ok (text, rest)) :
    ∃ raw, b :: t = raw ++ rest ∧ IsRaw raw ∧ text = decode raw := by
  rcases read_cases h with ⟨hopens, inner, hquoted, rfl⟩ | ⟨hopens, hword⟩
  · obtain ⟨inside, rfl, rfl⟩ := quoted_eq_some hquoted
    exact ⟨b :: inside ++ [b], by simp, isRaw_literal hopens inside,
      (decode_literal hopens inside).symm⟩
  · obtain ⟨raw, hraw, rfl⟩ := word_eq_some hword
    have hlength := word_nothing_length hb hword
    -- The first byte starts a word, so it is never left for the next token.
    cases raw with
    | nil =>
      have := congrArg List.length hraw
      simp only [List.length_cons, List.nil_append] at this
      omega
    | cons c raw =>
      obtain ⟨rfl, rfl⟩ := List.cons.inj hraw
      refine ⟨b :: raw, rfl, ⟨⟨b, rfl, hb⟩, ?_⟩, (decode_word hopens raw).symm⟩
      rintro c hc hopen
      cases hc
      exact absurd hopen hopens

end Token

/-! ## Scans -/

namespace Scan

theorem skipSpaces_eq (t : Text) : ∃ lead, Token.Blank lead ∧ t = lead ++ Token.skipSpaces t :=
  ⟨t.takeWhile Token.isSpace, List.all_eq_true.1 List.all_takeWhile,
    List.takeWhile_append_dropWhile.symm⟩

theorem blank_of_next_done {s : Scan} (h : s.next = .done) : Token.Blank s.rest := by
  unfold next at h
  split at h
  next hskip =>
    obtain ⟨lead, hlead, hrest⟩ := skipSpaces_eq s.rest
    rw [hskip, List.append_nil] at hrest
    rw [hrest]
    exact hlead
  · split at h <;> cases h

/-- A step of a scan takes blanks and then a raw token. -/
theorem next_eq_token {s after : Scan} {t : Token} (h : s.next = .token t after) :
    ∃ lead raw, s.rest = lead ++ (raw ++ after.rest) ∧ Token.Blank lead ∧ Token.IsRaw raw ∧
      t = ⟨Token.decode raw, after.pos⟩ ∧ after.pos = s.pos + lead.length + raw.length := by
  obtain ⟨b, rest, hskip, hb, hread, hstop, hpos⟩ := read_of_next h
  obtain ⟨lead, hlead, hrest⟩ := skipSpaces_eq s.rest
  obtain ⟨raw, hraw, hisRaw, htext⟩ := Token.read_eq_ok hb hread
  rw [hskip, hraw] at hrest
  refine ⟨lead, raw, hrest, hlead, hisRaw, ?_, ?_⟩
  · rw [← htext, ← hstop]
  · rw [hpos, hrest, List.length_append, List.length_append]
    omega

/-- A raw token that takes the whole text is the only token. -/
theorem tokens_of_read {b : UInt8} {t text : Text} (hb : Token.isSpace b = false)
    (h : Token.read b t = .ok (text, [])) :
    (start (b :: t)).tokens = .ok [⟨text, t.length + 1⟩] := by
  have hskip : Token.skipSpaces (b :: t) = b :: t := by
    rw [Token.skipSpaces, List.dropWhile_cons, hb, if_neg Bool.false_ne_true]
  have hnext : (start (b :: t)).next = .token ⟨text, t.length + 1⟩ ⟨t.length + 1, []⟩ := by
    simp [next, start, hskip, h]
  rw [tokens_of_token hnext, tokens_of_done rfl]
  rfl

end Scan

/-! ## Slices -/

/-- A raw token and the blanks after it. -/
structure Slice where
  raw : Text
  gap : Text
  isRaw : Token.IsRaw raw
  blank : Token.Blank gap

namespace Slice

/-- The bytes of a slice. -/
def bytes (s : Slice) : Text := s.raw ++ s.gap

/-- The tokens of slices one after the other, the first of which starts at an offset.  A token stops
where its raw form does. -/
def tokens : Nat → List Slice → List Token
  | _, [] => []
  | pos, s :: slices =>
    ⟨Token.decode s.raw, pos + s.raw.length⟩ :: tokens (pos + s.bytes.length) slices

theorem stop_of_mem_tokens {pos : Nat} {slices : List Slice} {t : Token}
    (h : t ∈ tokens pos slices) :
    pos < t.stop ∧ t.stop ≤ pos + (slices.flatMap bytes).length := by
  induction slices generalizing pos with
  | nil => cases h
  | cons s slices ih =>
    have hraw := s.isRaw.length_pos
    rw [List.flatMap_cons, List.length_append, bytes, List.length_append]
    rcases List.mem_cons.1 h with rfl | h
    · show pos < pos + s.raw.length ∧ pos + s.raw.length ≤ _
      omega
    · have := ih h
      rw [bytes, List.length_append] at this
      omega

theorem pairwise_tokens (pos : Nat) (slices : List Slice) :
    (tokens pos slices).Pairwise (·.stop < ·.stop) := by
  induction slices generalizing pos with
  | nil => exact .nil
  | cons s slices ih =>
    refine .cons (fun t ht => ?_) (ih _)
    have := (stop_of_mem_tokens ht).1
    rw [bytes, List.length_append] at this
    show pos + s.raw.length < t.stop
    omega

end Slice

/-- What a scan has left is blanks and then slices, and their tokens are the ones it gives. -/
theorem Scan.tokens_eq_slices {s : Scan} {ts : List Token} (h : s.tokens = .ok ts) :
    ∃ lead slices, Token.Blank lead ∧ s.rest = lead ++ slices.flatMap Slice.bytes ∧
      ts = Slice.tokens (s.pos + lead.length) slices := by
  fun_induction Scan.tokens s generalizing ts with
  | case1 s hnext =>
    cases h
    exact ⟨s.rest, [], blank_of_next_done hnext, by simp, rfl⟩
  | case2 => cases h
  | case3 s token after hnext ts hts ih =>
    cases h
    obtain ⟨lead, raw, hrest, hlead, hraw, rfl, hpos⟩ := next_eq_token hnext
    -- The blanks before the next token become the gap of this one.
    obtain ⟨gap, slices, hgap, hafter, rfl⟩ := ih hts
    refine ⟨lead, ⟨raw, gap, hraw, hgap⟩ :: slices, hlead, ?_, ?_⟩
    · rw [hrest, hafter]
      simp [Slice.bytes]
    · simp [Slice.tokens, Slice.bytes, hpos, Nat.add_assoc]
  | case4 => cases h

/-- A text that falls into tokens is blanks and then slices, whose raw tokens decode to the tokens.
So the tokens stop one after the other and within the text. -/
theorem tokenize_eq_slices {text : Text} {ts : List Token} (h : tokenize text = .ok ts) :
    ∃ (lead : Text) (slices : List Slice),
      Token.Blank lead ∧ text = lead ++ slices.flatMap Slice.bytes ∧
      ts = Slice.tokens lead.length slices ∧
      ts.Pairwise (·.stop < ·.stop) ∧ ∀ t ∈ ts, t.stop ≤ text.length := by
  obtain ⟨lead, slices, hlead, htext, rfl⟩ := Scan.tokens_eq_slices h
  replace htext : text = lead ++ slices.flatMap Slice.bytes := htext
  simp only [Scan.start, Nat.zero_add]
  refine ⟨lead, slices, hlead, htext, rfl, Slice.pairwise_tokens _ _, fun t ht => ?_⟩
  rw [htext, List.length_append]
  exact (Slice.stop_of_mem_tokens ht).2

/-- In `a\ b.'it\'s' ` followed by an empty literal in backticks there are four tokens. -/
theorem tokenize_eq_slices_mixed :
    let text : Text := "\ta\\ b.'it\\'s' ``"
    let ts : List Token := [⟨"a b", 5⟩, ⟨".", 6⟩, ⟨"'it's'", 13⟩, ⟨"", 16⟩]
    tokenize text = .ok ts ∧ ∃ (lead : Text) (slices : List Slice),
      Token.Blank lead ∧ text = lead ++ slices.flatMap Slice.bytes ∧
      ts = Slice.tokens lead.length slices ∧
      ts.Pairwise (·.stop < ·.stop) ∧ ∀ t ∈ ts, t.stop ≤ text.length := by
  intro text ts
  have h : tokenize text = .ok ts := by decide +kernel
  exact ⟨h, tokenize_eq_slices h⟩

end TagFilter
