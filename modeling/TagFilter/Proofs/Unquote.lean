import TagFilter.Proofs.Fringe
import TagFilter.Proofs.Slice

/-!
# What names lose

The members of a path and the name it starts from lose their quotes.  Only the first byte of a word
tells whether it has quotes, so a word that starts with a quote and ends with another byte loses
that byte with the quote (`Lopsided`).  A literal in quotes is no such word: a lopsided one starts
with an escaped quote or comes from backticks.
-/

namespace TagFilter

open Grammar Parsing

/-! ## Words -/

/-- One of the quotes that a literal keeps. -/
def IsQuote (q : UInt8) : Prop := q = byte '"' ∨ q = byte '\''

/-- A value is a word, or what stands in the word between two quotes of one kind. -/
def DropsOnlyQuotes (word value : Text) : Prop :=
  word = value ∨ ∃ q, IsQuote q ∧ word = q :: value ++ [q]

/-- A word starts with a quote and ends with another byte. -/
def Lopsided (word : Text) : Prop :=
  ∃ q inner c, IsQuote q ∧ c ≠ q ∧ word = q :: inner ++ [c]

theorem isQuoted_iff {word : Text} :
    isQuoted word = true ↔ ∃ q rest, IsQuote q ∧ word = q :: rest := by
  cases word with
  | nil => simp [isQuoted]
  | cons b rest => simp [isQuoted, IsQuote]

theorem unquote_between {q : UInt8} (hq : IsQuote q) (inner : Text) (c : UInt8) :
    unquote (q :: inner ++ [c]) = inner := by
  have hquoted : isQuoted (q :: inner ++ [c]) = true := isQuoted_iff.2 ⟨q, inner ++ [c], hq, rfl⟩
  rw [unquote, hquoted]
  simp

/-- A word that starts with a quote and goes on loses both ends; any other stays as it is. -/
theorem unquote_cases (word : Text) :
    (∃ q inner c, IsQuote q ∧ word = q :: inner ++ [c] ∧ unquote word = inner) ∨
      ¬ Lopsided word ∧ unquote word = word := by
  by_cases h : isQuoted word = true ∧ 2 ≤ word.length
  · obtain ⟨q, rest, hq, rfl⟩ := isQuoted_iff.1 h.1
    rcases List.eq_nil_or_concat rest with rfl | ⟨inner, c, rfl⟩
    · simp at h
    · rw [List.concat_eq_append]
      exact .inl ⟨q, inner, c, hq, rfl, unquote_between hq inner c⟩
  · refine .inr ⟨?_, if_neg (by simpa using h)⟩
    rintro ⟨q, inner, c, hq, -, rfl⟩
    exact h ⟨isQuoted_iff.2 ⟨q, inner ++ [c], hq, rfl⟩, by simp⟩

theorem between_inj {q q' c c' : UInt8} {inner inner' : Text}
    (h : q :: inner ++ [c] = q' :: inner' ++ [c']) : q = q' ∧ inner = inner' ∧ c = c' := by
  obtain ⟨rfl, hrest⟩ := List.cons.inj h
  obtain ⟨rfl, hlast⟩ := List.append_inj' hrest rfl
  exact ⟨rfl, rfl, (List.cons.inj hlast).1⟩

/-- Unquoting a word drops only quotes unless the word is lopsided. -/
theorem dropsOnlyQuotes_unquote_iff (word : Text) :
    DropsOnlyQuotes word (unquote word) ↔ ¬ Lopsided word := by
  rcases unquote_cases word with ⟨q, inner, c, hq, rfl, hunquote⟩ | ⟨hlopsided, hunquote⟩
  · rw [hunquote]
    constructor
    · rintro (hsame | ⟨q', -, hdropped⟩) ⟨q'', inner'', c'', -, hne, hword⟩
      · have hlength := congrArg List.length hsame
        simp only [List.cons_append, List.length_cons, List.length_append, List.length_nil]
          at hlength
        omega
      · obtain ⟨rfl, -, rfl⟩ := between_inj hdropped
        obtain ⟨rfl, -, rfl⟩ := between_inj hword
        exact hne rfl
    · intro hlopsided
      by_cases hc : c = q
      · exact .inr ⟨q, hq, by rw [hc]⟩
      · exact absurd ⟨q, inner, c, hq, hc, rfl⟩ hlopsided
  · rw [hunquote]
    exact ⟨fun _ => hlopsided, fun _ => .inl rfl⟩

/-! ## Raw tokens -/

namespace Token

theorem opens_of_isQuote {q : UInt8} (h : IsQuote q) : Opens q := h.imp_right .inl

/-- A lopsided token is written with a backslash or a backtick in front. -/
theorem IsRaw.of_lopsided {raw : Text} (h : IsRaw raw) (hlopsided : Lopsided (decode raw)) :
    raw.head? = some backslash ∨ raw.head? = some backtick := by
  obtain ⟨q, inner, c, hq, hne, hdecode⟩ := hlopsided
  obtain ⟨b, hb, -⟩ := h.starts
  obtain ⟨rest, rfl⟩ := List.head?_eq_some_iff.1 hb
  by_cases hopens : Opens b
  · obtain ⟨inside, hraw⟩ := h.closes b rfl hopens
    by_cases hbacktick : b = backtick
    · exact .inr (congrArg some hbacktick)
    · rw [hraw, decode_literal hopens, literalText, if_neg hbacktick] at hdecode
      obtain ⟨rfl, -, rfl⟩ := between_inj hdecode
      exact absurd rfl hne
  · rw [decode_word hopens] at hdecode
    by_cases hbackslash : b = backslash
    · exact .inl (congrArg some hbackslash)
    · rw [unescape_plain fun hb' => absurd hb' hbackslash] at hdecode
      obtain ⟨rfl, -⟩ := List.cons.inj hdecode
      exact absurd (opens_of_isQuote hq) hopens

end Token

theorem Slice.map_text_tokens (pos : Nat) (slices : List Slice) :
    (Slice.tokens pos slices).map (·.text) = slices.map fun s => Token.decode s.raw := by
  induction slices generalizing pos with
  | nil => rfl
  | cons s slices ih =>
    rw [Slice.tokens, List.map_cons, List.map_cons, ih]

/-! ## Names -/

/-- A name was read from a word.  Only quotes are lost unless the word is lopsided, and then its last
byte is lost with the quote. -/
structure NameFrom (name word : Text) : Prop where
  eq_unquote : name = unquote word
  quotes : DropsOnlyQuotes word name ↔ ¬ Lopsided word
  lost : Lopsided word → ∃ q c, IsQuote q ∧ c ≠ q ∧ word = q :: name ++ [c]

theorem nameFrom_unquote (word : Text) : NameFrom (unquote word) word where
  eq_unquote := rfl
  quotes := dropsOnlyQuotes_unquote_iff word
  lost := by
    rintro ⟨q, inner, c, hq, hc, rfl⟩
    exact ⟨q, c, hq, hc, by rw [unquote_between hq]⟩

theorem nameFrom_of_readFrom {leaf : LeafRole × Text} {word : Text} (h : ReadFrom leaf word)
    (hname : leaf.1 = .name) : NameFrom leaf.2 word := by
  obtain ⟨role, text⟩ := leaf
  obtain rfl : role = .name := hname
  obtain ⟨rfl, -⟩ := h
  exact nameFrom_unquote word

/-- Every member of an expression and every name that a path starts from is read from one operand
among the tokens.  It is the text of that token, or that text without the same quote at both ends,
unless the text starts with a quote and ends with another byte, which is lost.  Such a token is
written with a backslash or a backtick in front. -/
theorem names_drop_only_quotes_iff (text : Text) (t : Tree) (h : compile text = .ok t) :
    ∃ tokens, tokenize text = .ok tokens ∧
      List.Forall₂ (fun leaf word => leaf.1 = .name → NameFrom leaf.2 word) (t.fringe .operand)
        (operandWords (tokens.map (·.text))) ∧
      (∃ (lead : Text) (slices : List Slice), Token.Blank lead ∧
        text = lead ++ slices.flatMap Slice.bytes ∧ tokens = Slice.tokens lead.length slices ∧
        ∀ s ∈ slices, Lopsided (Token.decode s.raw) →
          s.raw.head? = some Token.backslash ∨ s.raw.head? = some Token.backtick) ∧
      (Token.backslash ∉ text → Token.backtick ∉ text → ∀ token ∈ tokens, ¬ Lopsided token.text) := by
  obtain ⟨tokens, u, htokens, hderives, rfl⟩ := compile_eq_ok_iff.1 h
  obtain ⟨lead, slices, hlead, htext, hslices⟩ := Scan.tokens_eq_slices htokens
  simp only [Scan.start, Nat.zero_add] at htext hslices
  have hraw : ∀ s ∈ slices, Lopsided (Token.decode s.raw) →
      s.raw.head? = some Token.backslash ∨ s.raw.head? = some Token.backtick :=
    fun s _ hlopsided => s.isRaw.of_lopsided hlopsided
  refine ⟨tokens, htokens, ?_, ⟨lead, slices, hlead, htext, hslices, hraw⟩, ?_⟩
  · exact hderives.wrapLeaf_stemsFrom.imp fun leaf word => nameFrom_of_readFrom
  · intro hbackslash hbacktick token htoken hlopsided
    have hword : token.text ∈ slices.map fun s => Token.decode s.raw := by
      rw [← Slice.map_text_tokens, ← hslices]
      exact List.mem_map_of_mem htoken
    obtain ⟨s, hs, hdecode⟩ := List.mem_map.1 hword
    rw [← hdecode] at hlopsided
    have hmem : ∀ b, s.raw.head? = some b → b ∈ text := by
      intro b hb
      have hraw : b ∈ s.raw := List.mem_of_mem_head? hb
      rw [htext, List.mem_append, List.mem_flatMap]
      exact .inr ⟨s, hs, List.mem_append_left _ hraw⟩
    rcases hraw s hs hlopsided with hb | hb
    · exact hbackslash (hmem _ hb)
    · exact hbacktick (hmem _ hb)

/-- In `\"abc.d` the name `"abc` loses its last letter. -/
theorem names_drop_only_quotes_iff_escaped_quote :
    let text : Text := "\\\"abc.d"
    let t : Tree := .op .member (.leaf "ab") (.leaf "d")
    let leaves : List (LeafRole × Text) := [(.name, "ab"), (.name, "d")]
    let words : List Text := ["\"abc", "d"]
    compile text = .ok t ∧ t.fringe .operand = leaves ∧ Lopsided "\"abc" ∧
      ¬ DropsOnlyQuotes "\"abc" "ab" ∧
      List.Forall₂ (fun leaf word => leaf.1 = .name → NameFrom leaf.2 word) leaves words := by
  intro text t leaves words
  have h : compile text = .ok t := compile_of_toOption (by decide +kernel)
  have htokens : tokenize text = .ok [⟨"\"abc", 5⟩, ⟨".", 6⟩, ⟨"d", 7⟩] := by decide +kernel
  have hwords : operandWords ["\"abc", ".", "d"] = words := by decide +kernel
  have hlopsided : Lopsided "\"abc" :=
    ⟨byte '"', "ab", byte 'c', .inl rfl, by decide, by decide +kernel⟩
  obtain ⟨tokens, htokens', hnames, -⟩ := names_drop_only_quotes_iff text t h
  obtain rfl := Except.ok.inj (htokens'.symm.trans htokens)
  have hleaves : List.Forall₂ (fun leaf word => leaf.1 = .name → NameFrom leaf.2 word) leaves
      (operandWords ["\"abc", ".", "d"]) := hnames
  rw [hwords] at hleaves
  have hname : NameFrom "ab" "\"abc" := (List.forall₂_cons.1 hleaves).1 rfl
  exact ⟨h, rfl, hlopsided, fun hquotes => hname.quotes.1 hquotes hlopsided, hleaves⟩

end TagFilter
