import TagFilter.Json
import TagFilter.Proofs.TagName

/-!
# The text of JSON documents

The text of a JSON document tells the document (`Json.write_inj`), provided that its strings are in
UTF-8.  Each part of a text shows where it ends, whatever follows: a character of a string
(`Json.escape_append_inj`), a string, a number that no digit follows, and so the entries between two
brackets (`Json.block_append_inj`) and a document as a whole (`Json.writeAt_append_inj`).
-/

namespace TagFilter

/-! ## Boundaries -/

namespace Text

variable {r s : Text} {c d : Char}

/-- The character that a text starts with is told by its bytes. -/
theorem encodeChar_append_inj
    (h : String.utf8EncodeChar c ++ r = String.utf8EncodeChar d ++ s) : c = d ∧ r = s := by
  have hpieces := congrArg pieces h
  rw [pieces_encodeChar, pieces_encodeChar, List.cons.injEq, Prod.mk.injEq] at hpieces
  obtain ⟨⟨rfl, -⟩, -⟩ := hpieces
  exact ⟨rfl, List.append_cancel_left h⟩

theorem pieces_encode (cs : List Char) :
    pieces (encode cs) = cs.map fun c => (c, String.utf8EncodeChar c) := by
  have hpieces := pieces_encode_append cs []
  rwa [List.append_nil, pieces, List.append_nil] at hpieces

theorem isStray_encodeChar (c : Char) : isStray (c, String.utf8EncodeChar c) = false := by
  by_cases h : c = replacement
  · subst h
    decide
  · simp [isStray, h]

theorem ofInt_inj {m n : Int} (h : ofInt m = ofInt n) : m = n := by
  rw [ofInt_eq_encode, ofInt_eq_encode] at h
  rw [← integerOf_repr m, encode_inj h, integerOf_repr]

/-- Words in a row are told by the text up to a byte that no word starts with, if each word shows
where it ends before a rest with the property `P`. -/
theorem flatMap_append_inj {α : Type} {w : α → Text} {P : Text → Prop} {stop : UInt8}
    {as bs : List α} (hstop : ∀ a r s, w a ++ r ≠ stop :: s)
    (hend : ∀ r, P (stop :: r)) (hnext : ∀ a r, P (w a ++ r))
    (hw : ∀ a ∈ as, ∀ b ∈ bs, ∀ r s, P r → P s → w a ++ r = w b ++ s → a = b ∧ r = s)
    (h : as.flatMap w ++ stop :: r = bs.flatMap w ++ stop :: s) : as = bs ∧ r = s := by
  have hrest : ∀ (cs : List α) (r : Text), P (cs.flatMap w ++ stop :: r) := by
    intro cs r
    cases cs with
    | nil => exact hend r
    | cons c cs =>
      rw [List.flatMap_cons, List.append_assoc]
      exact hnext c _
  induction as generalizing bs with
  | nil =>
    cases bs with
    | nil => exact ⟨rfl, (List.cons.inj h).2⟩
    | cons b bs =>
      rw [List.flatMap_cons, List.append_assoc] at h
      exact absurd h.symm (hstop b _ _)
  | cons a as ih =>
    cases bs with
    | nil =>
      rw [List.flatMap_cons, List.append_assoc] at h
      exact absurd h (hstop a _ _)
    | cons b bs =>
      rw [List.flatMap_cons, List.flatMap_cons, List.append_assoc, List.append_assoc] at h
      obtain ⟨rfl, htails⟩ := hw a (by simp) b (by simp) _ _ (hrest as r) (hrest bs s) h
      obtain ⟨rfl, hrs⟩ := ih (fun c hc d hd => hw c (by simp [hc]) d (by simp [hd])) htails
      exact ⟨rfl, hrs⟩

end Text

namespace Json

/-! ## Strings -/

/-- How a character stands in a JSON string. -/
def escape (c : Char) : Text := escapePiece (c, String.utf8EncodeChar c)

/-- The numbers of the characters that do not stand for themselves in a string. -/
def specialCodes : List Nat :=
  List.range 0x20 ++ [0x22, 0x26, 0x3C, 0x3E, 0x5C, 0x2028, 0x2029]

section Escape

variable {c d : Char} {r s : Text}

theorem escape_of_not_mem (h : c.toNat ∉ specialCodes) : escape c = String.utf8EncodeChar c := by
  simp only [specialCodes, List.mem_append, List.mem_range, List.mem_cons, List.not_mem_nil,
    or_false, not_or] at h
  unfold escape escapePiece
  simp only [Text.isStray_encodeChar]
  grind

theorem head?_escape_ofNat :
    ∀ n ∈ specialCodes, (escape (Char.ofNat n)).head? = some (byte '\\') := by
  decide +kernel

theorem exists_escape_eq_cons (h : c.toNat ∈ specialCodes) :
    ∃ rest, escape c = byte '\\' :: rest := by
  have hhead := head?_escape_ofNat c.toNat h
  rw [Char.ofNat_toNat] at hhead
  exact List.head?_eq_some_iff.1 hhead

theorem escape_ofNat_prefixFree :
    ∀ m ∈ specialCodes, ∀ n ∈ specialCodes,
      (escape (Char.ofNat m)).isPrefixOf (escape (Char.ofNat n)) = true → m = n := by
  decide +kernel

theorem escape_prefixFree (hc : c.toNat ∈ specialCodes) (hd : d.toNat ∈ specialCodes)
    (h : escape c <+: escape d) : c = d := by
  refine Char.toNat_inj.1 (escape_ofNat_prefixFree _ hc _ hd ?_)
  rw [Char.ofNat_toNat, Char.ofNat_toNat, List.isPrefixOf_iff_prefix]
  exact h

/-- A character that stands for itself does not start as one that does not. -/
theorem encodeChar_append_ne (hc : c.toNat ∉ specialCodes) (hd : d.toNat ∈ specialCodes) :
    String.utf8EncodeChar c ++ r ≠ String.utf8EncodeChar d ++ s := by
  intro h
  obtain ⟨rfl, -⟩ := Text.encodeChar_append_inj h
  exact hc hd

/-- No character is written as the end of a string. -/
theorem escape_append_ne : escape c ++ r ≠ byte '"' :: s := by
  by_cases hc : c.toNat ∈ specialCodes
  · obtain ⟨rest, hrest⟩ := exists_escape_eq_cons hc
    rw [hrest, List.cons_append]
    exact fun h => absurd (List.cons.inj h).1 (by decide)
  · rw [escape_of_not_mem hc]
    exact encodeChar_append_ne (d := '"') hc (by decide)

theorem escape_append_inj (h : escape c ++ r = escape d ++ s) : c = d ∧ r = s := by
  by_cases hc : c.toNat ∈ specialCodes <;> by_cases hd : d.toNat ∈ specialCodes
  -- Of two escapes that start one text, the shorter starts the longer.
  · have hcd : c = d := by
      rcases List.prefix_or_prefix_of_prefix (List.prefix_append (escape c) r)
        (h ▸ List.prefix_append (escape d) s) with hle | hle
      · exact escape_prefixFree hc hd hle
      · exact (escape_prefixFree hd hc hle).symm
    subst hcd
    exact ⟨rfl, List.append_cancel_left h⟩
  · obtain ⟨rest, hrest⟩ := exists_escape_eq_cons hc
    rw [hrest, escape_of_not_mem hd] at h
    exact absurd h.symm (encodeChar_append_ne (d := '\\') hd (by decide))
  · obtain ⟨rest, hrest⟩ := exists_escape_eq_cons hd
    rw [hrest, escape_of_not_mem hc] at h
    exact absurd h (encodeChar_append_ne (d := '\\') hc (by decide))
  · rw [escape_of_not_mem hc, escape_of_not_mem hd] at h
    exact Text.encodeChar_append_inj h

end Escape

theorem quote_encode (cs : List Char) :
    quote (Text.encode cs) = byte '"' :: (cs.flatMap escape ++ [byte '"']) := by
  rw [quote, Text.pieces_encode, List.flatMap_map]
  rfl

/-- A string tells the text it was written from and where it ends. -/
theorem quote_append_inj {t u r s : Text} (ht : t.IsUtf8) (hu : u.IsUtf8)
    (h : quote t ++ r = quote u ++ s) : t = u ∧ r = s := by
  obtain ⟨cs, rfl⟩ := ht
  obtain ⟨ds, rfl⟩ := hu
  rw [quote_encode, quote_encode, List.cons_append, List.cons_append, List.append_assoc,
    List.append_assoc] at h
  obtain ⟨rfl, hrs⟩ := Text.flatMap_append_inj (P := fun _ => True) (fun _ _ _ => escape_append_ne)
    (fun _ => trivial) (fun _ _ => trivial) (fun _ _ _ _ _ _ _ _ => escape_append_inj)
    (List.cons.inj h).2
  exact ⟨rfl, hrs⟩

/-! ## Numbers -/

/-- Whether a byte is part of a number. -/
def isNumberByte (b : UInt8) : Bool := Text.isDigitByte b || b == byte '-'

/-- A text that goes on after a document does not start with part of a number. -/
def Stops (r : Text) : Prop := ∃ b rest, r = b :: rest ∧ isNumberByte b = false

theorem isNumberByte_encodeChar_ofNat :
    ∀ n < 58, 48 ≤ n → (String.utf8EncodeChar (Char.ofNat n)).all isNumberByte = true := by
  decide

theorem isNumberByte_of_mem_ofInt {n : Int} {b : UInt8} (h : b ∈ Text.ofInt n) :
    isNumberByte b = true := by
  rw [Text.ofInt_eq_encode, Text.encode] at h
  obtain ⟨c, hc, hb⟩ := List.mem_flatMap.1 h
  have hall : (String.utf8EncodeChar c).all isNumberByte = true := by
    rcases isDigit_or_minus_of_mem_repr hc with hdigit | rfl
    · have hrange : 48 ≤ c.toNat ∧ c.toNat ≤ 57 := by
        simpa [Char.isDigit, UInt32.le_iff_toNat_le] using hdigit
      rw [← Char.ofNat_toNat c]
      exact isNumberByte_encodeChar_ofNat _ (by omega) hrange.1
    · rfl
  exact List.all_eq_true.1 hall b hb

theorem exists_ofInt_eq_cons (n : Int) :
    ∃ b rest, Text.ofInt n = b :: rest ∧ isNumberByte b = true := by
  have hne : n.repr.toList ≠ [] := by
    cases n with
    | ofNat m => exact toList_repr m ▸ Nat.toDigits_ne_nil
    | negSucc m => exact repr_negSucc m ▸ List.cons_ne_nil _ _
  cases htext : Text.ofInt n with
  | nil =>
    rw [Text.ofInt_eq_encode] at htext
    have hnil : n.repr.toList = [] := Text.encode_inj htext
    exact absurd hnil hne
  | cons b rest =>
    refine ⟨b, rest, rfl, isNumberByte_of_mem_ofInt (n := n) ?_⟩
    rw [htext]
    exact List.mem_cons_self

theorem takeWhile_ofInt_append (n : Int) {r : Text} (hr : Stops r) :
    (Text.ofInt n ++ r).takeWhile isNumberByte = Text.ofInt n := by
  obtain ⟨b, rest, rfl, hb⟩ := hr
  rw [List.takeWhile_append_of_pos fun _ => isNumberByte_of_mem_ofInt,
    List.takeWhile_cons_of_neg (by simp [hb]), List.append_nil]

/-- A number tells the integer it was written from, and it ends where no digit follows. -/
theorem ofInt_append_inj {m n : Int} {r s : Text} (hr : Stops r) (hs : Stops s)
    (h : Text.ofInt m ++ r = Text.ofInt n ++ s) : m = n ∧ r = s := by
  have hmn : m = n := by
    refine Text.ofInt_inj ?_
    rw [← takeWhile_ofInt_append m hr, h, takeWhile_ofInt_append n hs]
  subst hmn
  exact ⟨rfl, List.append_cancel_left h⟩

/-! ## Arrays and objects -/

theorem stops_comma (r : Text) : Stops (byte ',' :: r) := ⟨_, r, rfl, by decide⟩

theorem stops_newline (r : Text) : Stops (byte '\n' :: r) := ⟨_, r, rfl, by decide⟩

/-- An entry of an array or object on a line of its own, with the comma before it. -/
def line {α : Type} (level : Nat) (entry : α → Text) (a : α) : Text :=
  byte ',' :: (newline level ++ entry a)

/-- The entries of an array or object, without the first comma, and the bracket after them. -/
def block {α : Type} (level : Nat) (close : UInt8) (entry : α → Text) : List α → Text
  | [] => [close]
  | as => (as.flatMap (line (level + 1) entry)).tail ++ newline level ++ [close]

section Block

variable {α : Type} {level : Nat} {close : UInt8} {entry : α → Text}

theorem line_append_ne (a : α) (r s : Text) : line level entry a ++ r ≠ byte '\n' :: s :=
  fun h => absurd (List.cons.inj h).1 (by decide)

theorem line_append_inj {a b : α} {r s : Text}
    (hentry : entry a ++ r = entry b ++ s → a = b ∧ r = s)
    (h : line level entry a ++ r = line level entry b ++ s) : a = b ∧ r = s := by
  simp only [line, List.cons_append, List.append_assoc, List.cons.injEq, true_and] at h
  exact hentry (List.append_cancel_left h)

theorem block_cons_append (a : α) (as : List α) (r : Text) :
    byte ',' :: (block level close entry (a :: as) ++ r) =
      (a :: as).flatMap (line (level + 1) entry) ++ byte '\n' ::
        (List.replicate (2 * level) (byte ' ') ++ close :: r) := by
  simp [block, line, newline]

/-- Brackets tell the entries between them, if the texts of these have boundaries. -/
theorem block_append_inj {as bs : List α} {r s : Text} (hclose : close ≠ byte '\n')
    (hentry : ∀ a ∈ as, ∀ b ∈ bs, ∀ r s, Stops r → Stops s → entry a ++ r = entry b ++ s →
      a = b ∧ r = s)
    (h : block level close entry as ++ r = block level close entry bs ++ s) : as = bs ∧ r = s := by
  cases as with
  | nil =>
    cases bs with
    | nil => exact ⟨rfl, (List.cons.inj h).2⟩
    | cons b bs => exact absurd (List.cons.inj h).1 hclose
  | cons a as =>
    cases bs with
    | nil => exact absurd (List.cons.inj h).1.symm hclose
    | cons b bs =>
      -- With a comma in front the first entry is written as the others are.
      have hlines := congrArg (byte ',' :: ·) h
      simp only [block_cons_append] at hlines
      obtain ⟨hentries, hrest⟩ := Text.flatMap_append_inj line_append_ne stops_newline
        (fun _ _ => stops_comma _)
        (fun a ha b hb r s hr hs => line_append_inj (hentry a ha b hb r s hr hs)) hlines
      exact ⟨hentries, (List.cons.inj (List.append_cancel_left hrest)).2⟩

end Block

/-- A member of an object. -/
def memberText (level : Nat) (m : Text × Json) : Text := quote m.1 ++ ": " ++ m.2.writeAt level

theorem cons_writeItems (level : Nat) (item : Json) (items : List Json) :
    byte ',' :: writeItems level (item :: items) =
      (item :: items).flatMap (line level (writeAt level)) := by
  induction items generalizing item with
  | nil => rw [writeItems, List.flatMap_singleton, line]
  | cons next items ih =>
    rw [writeItems.eq_3 _ _ _ (List.cons_ne_nil next items), List.flatMap_cons, ← ih next, line,
      List.cons_append, List.append_assoc]
    rfl

theorem cons_writeMembers (level : Nat) (member : Text × Json) (members : List (Text × Json)) :
    byte ',' :: writeMembers level (member :: members) =
      (member :: members).flatMap (line level (memberText level)) := by
  induction members generalizing member with
  | nil => simp only [writeMembers, line, memberText, List.flatMap_singleton, List.append_assoc]
  | cons next members ih =>
    rw [writeMembers.eq_3 _ _ _ _ (List.cons_ne_nil next members), List.flatMap_cons, ← ih next,
      line, memberText]
    simp only [List.cons_append, List.append_assoc]
    rfl

theorem writeAt_arr (level : Nat) (items : List Json) :
    (arr items).writeAt level = byte '[' :: block level (byte ']') (writeAt (level + 1)) items := by
  cases items with
  | nil => rfl
  | cons item items =>
    rw [writeAt.eq_6 _ _ (List.cons_ne_nil item items), block, ← cons_writeItems, List.tail_cons]
    · rfl
    · nofun

theorem writeAt_obj (level : Nat) (members : List (Text × Json)) :
    (obj members).writeAt level =
      byte '\x7b' :: block level (byte '\x7d') (memberText (level + 1)) members := by
  cases members with
  | nil => rfl
  | cons member members =>
    rw [writeAt.eq_8 _ _ (List.cons_ne_nil member members), block, ← cons_writeMembers,
      List.tail_cons]
    · rfl
    · nofun

/-! ## Documents -/

/-- The strings of a document and the keys of its objects are in UTF-8. -/
inductive InUtf8 : Json → Prop where
  | null : InUtf8 null
  | bool (b : Bool) : InUtf8 (bool b)
  | num (n : Int) : InUtf8 (num n)
  | str {t : Text} (ht : t.IsUtf8) : InUtf8 (str t)
  | arr {items : List Json} (hitems : ∀ item ∈ items, InUtf8 item) : InUtf8 (arr items)
  | obj {members : List (Text × Json)} (hkeys : ∀ m ∈ members, m.1.IsUtf8)
      (hvalues : ∀ m ∈ members, InUtf8 m.2) : InUtf8 (obj members)

theorem InUtf8.ofMembers {members : List (Text × Json)}
    (h : ∀ m ∈ members, m.1.IsUtf8 ∧ m.2.InUtf8) : (Json.obj members).InUtf8 :=
  .obj (fun m hm => (h m hm).1) fun m hm => (h m hm).2

/-- The kinds of documents. -/
inductive Kind where
  | null
  | bool
  | num
  | str
  | arr
  | obj

def kind : Json → Kind
  | null => .null
  | bool _ => .bool
  | num _ => .num
  | str _ => .str
  | arr _ => .arr
  | obj _ => .obj

/-- The kind of the documents that start with a byte. -/
def Kind.ofByte (b : UInt8) : Kind :=
  if isNumberByte b then .num
  else if b = byte 'n' then .null
  else if b = byte '"' then .str
  else if b = byte '[' then .arr
  else if b = byte '\x7b' then .obj
  else .bool

theorem exists_writeAt_eq_cons (level : Nat) (j : Json) :
    ∃ b rest, j.writeAt level = b :: rest ∧ Kind.ofByte b = j.kind := by
  cases j with
  | null => exact ⟨_, _, rfl, rfl⟩
  | bool b => cases b <;> exact ⟨_, _, rfl, rfl⟩
  | num n =>
    obtain ⟨b, rest, htext, hb⟩ := exists_ofInt_eq_cons n
    exact ⟨b, rest, htext, if_pos hb⟩
  | str t => exact ⟨_, _, rfl, rfl⟩
  | arr items => exact ⟨_, _, writeAt_arr level items, rfl⟩
  | obj members => exact ⟨_, _, writeAt_obj level members, rfl⟩

theorem kind_eq {level : Nat} {j k : Json} {r s : Text}
    (h : j.writeAt level ++ r = k.writeAt level ++ s) : j.kind = k.kind := by
  obtain ⟨a, as, ha, hj⟩ := exists_writeAt_eq_cons level j
  obtain ⟨b, bs, hb, hk⟩ := exists_writeAt_eq_cons level k
  rw [ha, hb] at h
  rw [← hj, ← hk, (List.cons.inj h).1]

theorem writeAt_bool_append_inj {level : Nat} {a b : Bool} {r s : Text}
    (h : (bool a).writeAt level ++ r = (bool b).writeAt level ++ s) : a = b ∧ r = s := by
  cases a <;> cases b
  · exact ⟨rfl, List.append_cancel_left h⟩
  · exact absurd (List.cons.inj h).1 (by decide)
  · exact absurd (List.cons.inj h).1 (by decide)
  · exact ⟨rfl, List.append_cancel_left h⟩

theorem memberText_append_inj {level : Nat} {m n : Text × Json} {r s : Text} (hm : m.1.IsUtf8)
    (hn : n.1.IsUtf8)
    (hvalue : m.2.writeAt level ++ r = n.2.writeAt level ++ s → m.2 = n.2 ∧ r = s)
    (h : memberText level m ++ r = memberText level n ++ s) : m = n ∧ r = s := by
  simp only [memberText, List.append_assoc] at h
  obtain ⟨hkey, hrest⟩ := quote_append_inj hm hn h
  obtain ⟨hval, hrs⟩ := hvalue (List.append_cancel_left hrest)
  exact ⟨Prod.ext hkey hval, hrs⟩

/-- The text of a document tells the document and where it ends. -/
theorem writeAt_append_inj {level : Nat} {j k : Json} {r s : Text} (hj : j.InUtf8) (hk : k.InUtf8)
    (hr : Stops r) (hs : Stops s) (h : j.writeAt level ++ r = k.writeAt level ++ s) :
    j = k ∧ r = s := by
  induction hj generalizing level k r s with
  | null =>
    cases hk with
    | null => exact ⟨rfl, List.append_cancel_left h⟩
    | _ => cases kind_eq h
  | bool b =>
    cases hk with
    | bool c =>
      obtain ⟨rfl, hrs⟩ := writeAt_bool_append_inj h
      exact ⟨rfl, hrs⟩
    | _ => cases kind_eq h
  | num m =>
    cases hk with
    | num n =>
      obtain ⟨rfl, hrs⟩ := ofInt_append_inj hr hs h
      exact ⟨rfl, hrs⟩
    | _ => cases kind_eq h
  | str ht =>
    cases hk with
    | str hu =>
      obtain ⟨rfl, hrs⟩ := quote_append_inj ht hu h
      exact ⟨rfl, hrs⟩
    | _ => cases kind_eq h
  | arr hitems ih =>
    cases hk with
    | arr hitems' =>
      rw [writeAt_arr, writeAt_arr] at h
      obtain ⟨rfl, hrs⟩ := block_append_inj (by decide)
        (fun a ha b hb r s hr hs => ih a ha (hitems' b hb) hr hs) (List.cons.inj h).2
      exact ⟨rfl, hrs⟩
    | _ => cases kind_eq h
  | obj hkeys hvalues ih =>
    cases hk with
    | obj hkeys' hvalues' =>
      rw [writeAt_obj, writeAt_obj] at h
      obtain ⟨rfl, hrs⟩ := block_append_inj (by decide)
        (fun m hm n hn r s hr hs =>
          memberText_append_inj (hkeys m hm) (hkeys' n hn) (ih m hm (hvalues' n hn) hr hs))
        (List.cons.inj h).2
      exact ⟨rfl, hrs⟩
    | _ => cases kind_eq h

theorem write_inj {j k : Json} (hj : j.InUtf8) (hk : k.InUtf8) (h : j.write = k.write) : j = k :=
  (writeAt_append_inj hj hk (stops_newline []) (stops_newline []) h).1

end Json

end TagFilter
