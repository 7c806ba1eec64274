import TagFilter.Proofs.TagName
import TagFilter.Tree.Dump

/-!
# Leaves in XML

The text of a leaf is read back from its XML form in two rounds (`Xml.readLeaf?_leafChars`):
references are resolved first, and then the backslashes go that stand before the quotes inside.  A
backslash of the leaf itself is not marked in any way, so the second round has to look ahead: the
quote that a leaf starts with always has a new backslash in front when it stands inside, and never
when it stands at the end.
-/

namespace TagFilter

namespace Xml

/-! ## References -/

/-- The name of the reference for a character that has one. -/
def reference? (c : Char) : Option (List Char) :=
  if c = '<' then some ['l', 't']
  else if c = '>' then some ['g', 't']
  else if c = '&' then some ['a', 'm', 'p']
  else if c.toNat ≤ 0x20 ∨ 0x80 ≤ c.toNat ∧ c.toNat ≤ 0xA0 then some ('#' :: c.toNat.repr.toList)
  else none

/-- A character, or the reference for it. -/
def refer (c : Char) : List Char :=
  match reference? c with
  | some name => '&' :: (name ++ [';'])
  | none => [c]

/-- The character that a reference is for. -/
def resolve? : List Char → Option Char
  | ['l', 't'] => some '<'
  | ['g', 't'] => some '>'
  | ['a', 'm', 'p'] => some '&'
  | '#' :: digits => some (Char.ofNat (naturalOf digits))
  | _ => none

/-- Resolves the references in a text.  The first argument is the name of the reference that is
being read, as far as it is known. -/
def unrefer : Option (List Char) → List Char → Option (List Char)
  | none, [] => some []
  | some _, [] => none
  | none, c :: cs => if c = '&' then unrefer (some []) cs else (unrefer none cs).map (c :: ·)
  | some name, c :: cs =>
    if c = ';' then (resolve? name).bind fun d => (unrefer none cs).map (d :: ·)
    else unrefer (some (name ++ [c])) cs

variable {c : Char} {name : List Char}

theorem reference?_cases (h : reference? c = some name) :
    (c = '<' ∧ name = ['l', 't']) ∨ (c = '>' ∧ name = ['g', 't']) ∨
      (c = '&' ∧ name = ['a', 'm', 'p']) ∨ name = '#' :: c.toNat.repr.toList := by
  unfold reference? at h
  grind

theorem resolve?_reference? (h : reference? c = some name) : resolve? name = some c := by
  obtain ⟨rfl, rfl⟩ | ⟨rfl, rfl⟩ | ⟨rfl, rfl⟩ | rfl := reference?_cases h
  · rfl
  · rfl
  · rfl
  · rw [resolve?, naturalOf_repr, Char.ofNat_toNat]

/-- The name of a reference has neither the mark that ends it nor a line end. -/
theorem reference?_plain (h : reference? c = some name) : ';' ∉ name ∧ '\n' ∉ name := by
  obtain ⟨-, rfl⟩ | ⟨-, rfl⟩ | ⟨-, rfl⟩ | rfl := reference?_cases h
  · decide
  · decide
  · decide
  · have hdigits : ∀ d ∈ '#' :: c.toNat.repr.toList, d = '#' ∨ d.isDigit = true := by
      intro d hd
      exact (List.mem_cons.1 hd).imp_right isDigit_of_mem_repr
    exact ⟨fun h => absurd (hdigits _ h) (by decide), fun h => absurd (hdigits _ h) (by decide)⟩

theorem newline_not_mem_refer (c : Char) : '\n' ∉ refer c := by
  unfold refer
  split
  next name h =>
    simp only [List.mem_cons, List.mem_append, List.not_mem_nil, or_false, not_or]
    exact ⟨by decide, (reference?_plain h).2, by decide⟩
  next h =>
    rw [List.mem_singleton]
    rintro rfl
    exact absurd h (by decide)

theorem unrefer_name (hname : ';' ∉ name) (known cs : List Char) :
    unrefer (some known) (name ++ ';' :: cs) =
      (resolve? (known ++ name)).bind fun d => (unrefer none cs).map (d :: ·) := by
  induction name generalizing known with
  | nil => rw [List.nil_append, unrefer, if_pos rfl, List.append_nil]
  | cons e name ih =>
    rw [List.mem_cons, not_or] at hname
    rw [List.cons_append, unrefer, if_neg (Ne.symm hname.1), ih hname.2, List.append_assoc]
    rfl

theorem unrefer_refer (c : Char) (cs : List Char) :
    unrefer none (refer c ++ cs) = (unrefer none cs).map (c :: ·) := by
  unfold refer
  split
  next name h =>
    rw [List.cons_append, unrefer, if_pos rfl, List.append_assoc, List.singleton_append,
      unrefer_name (reference?_plain h).1, List.nil_append, resolve?_reference? h, Option.bind_some]
  next h =>
    have hc : c ≠ '&' := by
      rintro rfl
      exact absurd h (by decide)
    rw [List.singleton_append, unrefer, if_neg hc]

theorem unrefer_flatMap (cs : List Char) : unrefer none (cs.flatMap refer) = some cs := by
  induction cs with
  | nil => rfl
  | cons c cs ih => rw [List.flatMap_cons, unrefer_refer, ih, Option.map_some]

/-! ## Backslashes before quotes -/

/-- A character is the quote that a text starts with. -/
def Repeats (first c : Char) : Prop := (c = '\'' ∨ c = '"') ∧ c = first

instance (first c : Char) : Decidable (Repeats first c) := inferInstanceAs (Decidable (_ ∧ _))

theorem Repeats.ne_backslash {first : Char} (h : Repeats first c) : c ≠ '\\' := by
  rintro rfl
  exact absurd h.1 (by decide)

/-- What follows the first character of a text, with backslashes before the quotes inside. -/
def guardTail (first : Char) : List Char → List Char
  | [] => []
  | [c] => [c]
  | c :: d :: cs =>
    if Repeats first c then '\\' :: c :: guardTail first (d :: cs)
    else c :: guardTail first (d :: cs)

/-- A text with a backslash before each quote inside it that is the one it starts with. -/
def guarded : List Char → List Char
  | [] => []
  | c :: cs => c :: guardTail c cs

/-- Drops each backslash before a quote that is not the last character. -/
def unguardTail (first : Char) : List Char → List Char
  | c :: d :: e :: cs =>
    if c = '\\' ∧ Repeats first d then unguardTail first (d :: e :: cs)
    else c :: unguardTail first (d :: e :: cs)
  | cs => cs

/-- A text without the backslashes before the quotes inside it that are the one it starts with. -/
def unguarded : List Char → List Char
  | [] => []
  | c :: cs => c :: unguardTail c cs

theorem guardTail_ne_nil (first d : Char) (cs : List Char) :
    ∃ e es, guardTail first (d :: cs) = e :: es ∧ (Repeats first e → es = []) := by
  cases cs with
  | nil => exact ⟨d, [], rfl, fun _ => rfl⟩
  | cons c cs =>
    unfold guardTail
    by_cases hd : Repeats first d
    · rw [if_pos hd]
      exact ⟨_, _, rfl, fun h => absurd rfl h.ne_backslash⟩
    · rw [if_neg hd]
      exact ⟨_, _, rfl, fun h => absurd h hd⟩

theorem unguardTail_cons {first : Char} {cs : List Char}
    (h : ∀ d e es, cs = d :: e :: es → c = '\\' → ¬ Repeats first d) :
    unguardTail first (c :: cs) = c :: unguardTail first cs := by
  match cs with
  | [] | [_] => simp [unguardTail]
  | d :: e :: es =>
    rw [unguardTail, if_neg]
    rintro ⟨hc, hd⟩
    exact h d e es rfl hc hd

theorem unguardTail_guardTail (first : Char) (cs : List Char) :
    unguardTail first (guardTail first cs) = cs := by
  fun_induction guardTail first cs with
  | case1 => rfl
  | case2 => rfl
  | case3 c d cs hc ih =>
    obtain ⟨e, es, heq, -⟩ := guardTail_ne_nil first d cs
    have hstep : unguardTail first ('\\' :: c :: e :: es) = unguardTail first (c :: e :: es) := by
      rw [unguardTail, if_pos ⟨rfl, hc⟩]
    rw [heq, hstep, unguardTail_cons fun _ _ _ _ hslash => absurd hslash hc.ne_backslash, ← heq, ih]
  | case4 c d cs hc ih =>
    -- What follows starts with such a quote only if nothing follows the quote.
    obtain ⟨e, es, heq, hlast⟩ := guardTail_ne_nil first d cs
    rw [unguardTail_cons, ih]
    rintro d' e' es' hcs - hrepeats
    rw [heq] at hcs
    cases hcs
    exact absurd (hlast hrepeats) (List.cons_ne_nil _ _)

theorem unguarded_guarded (cs : List Char) : unguarded (guarded cs) = cs := by
  cases cs with
  | nil => rfl
  | cons c cs => rw [guarded, unguarded, unguardTail_guardTail]

/-! ## Leaves -/

/-- The characters that stand for the text of a leaf. -/
def leafChars (t : Text) : List Char := (guarded t.decode).flatMap refer

/-- The text of the leaf that some characters stand for. -/
def readLeaf? (cs : List Char) : Option Text :=
  (unrefer none cs).map fun ds => Text.encode (unguarded ds)

theorem readLeaf?_leafChars {t : Text} (h : t.IsUtf8) : readLeaf? (leafChars t) = some t := by
  rw [readLeaf?, leafChars, unrefer_flatMap, Option.map_some, unguarded_guarded,
    Text.encode_decode h]

theorem newline_not_mem_leafChars (t : Text) : '\n' ∉ leafChars t := by
  intro h
  obtain ⟨c, -, hc⟩ := List.mem_flatMap.1 h
  exact newline_not_mem_refer c hc

end Xml

open Xml

namespace Tree

theorem escapeXmlChar_eq_refer (first : Char) (inner : Bool) {c : Char}
    (hquote : ¬ (c = '\'' ∨ c = '"')) : escapeXmlChar first inner c = Text.encode (refer c) := by
  unfold escapeXmlChar refer reference?
  by_cases hlt : c = '<'
  · simp only [if_pos hlt]
    rfl
  by_cases hgt : c = '>'
  · simp only [if_neg hlt, if_pos hgt]
    rfl
  by_cases hamp : c = '&'
  · simp only [if_neg hlt, if_neg hgt, if_pos hamp]
    rfl
  by_cases hnumber : c.toNat ≤ 0x20 ∨ 0x80 ≤ c.toNat ∧ c.toNat ≤ 0xA0
  · simp only [if_neg hlt, if_neg hgt, if_neg hamp, if_neg hquote, if_pos hnumber]
    rw [Text.ofNat_eq_encode, Text.ofString_eq_encode, Text.ofString_eq_encode,
      ← Text.encode_append, ← Text.encode_append]
    rfl
  · simp only [if_neg hlt, if_neg hgt, if_neg hamp, if_neg hquote, if_neg hnumber]

theorem escapeXmlChar_eq_encode (first : Char) (inner : Bool) (c : Char) :
    escapeXmlChar first inner c = Text.encode
      ((if Repeats first c ∧ inner = true then ['\\', c] else [c]).flatMap refer) := by
  by_cases hquote : c = '\'' ∨ c = '"'
  · have hc : refer c = [c] := by rcases hquote with rfl | rfl <;> rfl
    have hmarkup : c ≠ '<' ∧ c ≠ '>' ∧ c ≠ '&' := by rcases hquote with rfl | rfl <;> decide
    unfold escapeXmlChar
    rw [if_neg hmarkup.1, if_neg hmarkup.2.1, if_neg hmarkup.2.2, if_pos hquote]
    by_cases h : c = first ∧ inner = true
    · rw [if_pos h, if_pos ⟨⟨hquote, h.1⟩, h.2⟩, List.flatMap_cons, List.flatMap_singleton, hc]
      rfl
    · rw [if_neg h, if_neg fun hinner => h ⟨hinner.1.2, hinner.2⟩, List.flatMap_singleton, hc]
  · rw [if_neg fun h => hquote h.1.1, List.flatMap_singleton, escapeXmlChar_eq_refer _ _ hquote]

theorem escapeXmlTail_cons (first c d : Char) (cs : List Char) :
    escapeXmlTail first (c :: d :: cs) =
      escapeXmlChar first true c ++ escapeXmlTail first (d :: cs) := by
  rw [escapeXmlTail]
  exact List.cons_ne_nil d cs

theorem escapeXmlTail_eq_encode (first : Char) (cs : List Char) :
    escapeXmlTail first cs = Text.encode ((guardTail first cs).flatMap refer) := by
  fun_induction guardTail first cs with
  | case1 => rfl
  | case2 c => rw [escapeXmlTail, escapeXmlChar_eq_encode, if_neg fun h => Bool.noConfusion h.2]
  | case3 c d cs hc ih =>
    rw [escapeXmlTail_cons, escapeXmlChar_eq_encode, if_pos ⟨hc, rfl⟩, ih, ← Text.encode_append,
      ← List.flatMap_append]
    rfl
  | case4 c d cs hc ih =>
    rw [escapeXmlTail_cons, escapeXmlChar_eq_encode, if_neg fun h => hc h.1, ih,
      ← Text.encode_append, ← List.flatMap_append]
    rfl

theorem escapeXml_eq_encode (t : Text) : escapeXml t = Text.encode (leafChars t) := by
  unfold escapeXml leafChars
  cases t.decode with
  | nil => rfl
  | cons c cs =>
    simp only
    rw [escapeXmlChar_eq_encode, if_neg fun h => Bool.noConfusion h.2, escapeXmlTail_eq_encode,
      ← Text.encode_append, ← List.flatMap_append]
    rfl

end Tree

end TagFilter
