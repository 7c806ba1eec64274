import TagFilter.Operator
import TagFilter.Proofs.Utf8

/-!
# Names of tags

A tag is read back from the characters of its name (`Tag.ofLetters?_letters`), so no two tags have
one name (`Tag.name_inj`).  Names are short and plain: letters, digits and a few marks that no dump of a tree uses
for anything else.
-/

namespace TagFilter

/-! ## Strings and numbers in characters -/

theorem repr_negSucc (m : Nat) :
    (Int.negSucc m).repr.toList = '-' :: (m + 1).repr.toList := by
  rw [Int.repr, String.toList_append]
  rfl

theorem toList_repr (n : Nat) : n.repr.toList = Nat.toDigits 10 n := by
  rw [Nat.repr_eq_ofList_toDigits, String.toList_ofList]

theorem isDigit_of_mem_repr {n : Nat} {c : Char} (h : c ∈ n.repr.toList) : c.isDigit = true := by
  rw [toList_repr] at h
  exact Nat.isDigit_of_mem_toDigits (by decide) (by decide) h

theorem isDigit_or_minus_of_mem_repr {n : Int} {c : Char} (h : c ∈ n.repr.toList) :
    c.isDigit = true ∨ c = '-' := by
  cases n with
  | ofNat m => exact .inl (isDigit_of_mem_repr h)
  | negSucc m =>
    rw [repr_negSucc, List.mem_cons] at h
    rcases h with rfl | h
    · exact .inr rfl
    · exact .inl (isDigit_of_mem_repr h)

/-- The natural number that some digits write. -/
def naturalOf (digits : List Char) : Nat := Nat.ofDigitChars 10 digits 0

/-- The integer that some digits write, with a minus sign in front or without. -/
def integerOf (cs : List Char) : Int :=
  if cs.head? = some '-' then -(naturalOf cs.tail : Int) else naturalOf cs

theorem naturalOf_repr (n : Nat) : naturalOf n.repr.toList = n := by
  rw [toList_repr]
  exact Nat.ofDigitChars_ten_toDigits

theorem integerOf_repr (n : Int) : integerOf n.repr.toList = n := by
  cases n with
  | ofNat m =>
    have hhead : m.repr.toList.head? ≠ some '-' := by
      intro h
      have hdigit := isDigit_of_mem_repr (List.mem_of_head? h)
      exact absurd hdigit (by decide)
    rw [integerOf, Int.repr, if_neg hhead, naturalOf_repr]
    rfl
  | negSucc m =>
    rw [integerOf, repr_negSucc, List.head?_cons, if_pos rfl, List.tail_cons, naturalOf_repr]
    rfl

namespace Text

theorem encode_append (cs ds : List Char) : encode (cs ++ ds) = encode cs ++ encode ds :=
  List.flatMap_append

theorem ofString_eq_encode (s : String) : ofString s = encode s.toList := by
  have hbytes : ofString (String.ofList s.toList) = encode s.toList := List.toList_data_toByteArray
  rwa [String.ofList_toList] at hbytes

theorem isUtf8_ofString (s : String) : (ofString s).IsUtf8 := ⟨s.toList, ofString_eq_encode s⟩

theorem ofNat_eq_encode (n : Nat) : ofNat n = encode n.repr.toList := ofString_eq_encode n.repr

theorem ofInt_eq_encode (n : Int) : ofInt n = encode n.repr.toList := by
  cases n with
  | ofNat m => exact ofNat_eq_encode m
  | negSucc m =>
    rw [repr_negSucc, encode_cons, ← ofNat_eq_encode, ofInt, if_pos (Int.negSucc_lt_zero m)]
    rfl

end Text

/-! ## Tags -/

namespace Tag

/-- The characters of the name of a tag. -/
def letters : Tag → List Char
  | op o => o.name.toList
  | unlisted n => 'O' :: 'P' :: '(' :: (n.toInt.repr.toList ++ [')'])

/-- The tag whose name has some characters. -/
def ofLetters? : List Char → Option Tag
  | 'O' :: 'P' :: '(' :: cs => some (.unlisted (Int32.ofInt (integerOf cs.dropLast)))
  | cs => (Operator.ofName? (String.ofList cs)).map .op

theorem name_eq_encode (t : Tag) : t.name = Text.encode t.letters := by
  cases t with
  | op o => exact Text.ofString_eq_encode o.name
  | unlisted n =>
    have hletters : letters (.unlisted n) = "OP(".toList ++ n.toInt.repr.toList ++ ")".toList := rfl
    rw [hletters, Text.encode_append, Text.encode_append, ← Text.ofInt_eq_encode,
      ← Text.ofString_eq_encode, ← Text.ofString_eq_encode]
    rfl

theorem ofLetters?_letters (t : Tag) : ofLetters? t.letters = some t := by
  cases t with
  | op o => cases o <;> rfl
  | unlisted n =>
    rw [letters, ofLetters?, List.dropLast_concat, integerOf_repr, Int32.ofInt_toInt]

theorem name_inj {t u : Tag} (h : t.name = u.name) : t = u := by
  rw [name_eq_encode, name_eq_encode] at h
  have hletters : t.letters = u.letters := Text.encode_inj h
  have hread : some t = some u := by
    rw [← ofLetters?_letters t, hletters, ofLetters?_letters]
  exact Option.some.inj hread

/-- The characters that names are made of. -/
def isNameChar (c : Char) : Bool := c.isAlphanum || c == '(' || c == ')' || c == ']' || c == '-'

theorem isNameChar_of_mem_letters {t : Tag} {c : Char} (h : c ∈ t.letters) :
    isNameChar c = true := by
  have hall : t.letters.all isNameChar = true := by
    cases t with
    | op o => cases o <;> rfl
    | unlisted n =>
      have hnumber : n.toInt.repr.toList.all isNameChar = true := by
        rw [List.all_eq_true]
        intro d hd
        rcases isDigit_or_minus_of_mem_repr hd with hdigit | rfl
        · simp [isNameChar, Char.isAlphanum, hdigit]
        · rfl
      rw [letters, List.all_cons, List.all_cons, List.all_cons, List.all_append, hnumber]
      rfl
  exact List.all_eq_true.1 hall c h

end Tag

end TagFilter
