import TagFilter.Text.Utf8

/-!
# Reading what was encoded

Characters that are written in UTF-8 are read back as they were (`Text.decode_encode`), so a text in
UTF-8 is the form of one list of characters only.  The four lengths of a sequence are told apart by
their first byte, and the reader of each puts together the bits that the sequence holds.
-/

namespace TagFilter.Text

/-- A text in UTF-8. -/
def IsUtf8 (t : Text) : Prop := ∃ cs : List Char, t = encode cs

/-! ## One sequence -/

variable {a b c d : UInt8} {n : Nat}

theorem isTail_of_toNat {m : Nat} (hb : b.toNat = m % 64 + 0x80) :
    isTail b = true ∧ tailBits b = m % 64 := by
  constructor
  · simp only [isTail, Bool.and_eq_true, decide_eq_true_eq, UInt8.le_iff_toNat_le,
      UInt8.lt_iff_toNat_lt, hb, UInt8.reduceToNat]
    omega
  · unfold tailBits
    omega

theorem decodeTwo_of_toNat (h : 0x80 ≤ n) (h' : n < 0x800) (ha : a.toNat = n / 64 % 32 + 0xC0)
    (hb : b.toNat = n % 64 + 0x80) : decodeTwo a b = some (Char.ofNat n) := by
  obtain ⟨htail, hbits⟩ := isTail_of_toNat hb
  have hvalue : a.toNat % 32 * 64 + tailBits b = n := by omega
  unfold decodeTwo
  rw [hvalue, if_pos]
  simp only [htail, Bool.and_eq_true, decide_eq_true_eq, UInt8.le_iff_toNat_le,
    UInt8.lt_iff_toNat_lt, UInt8.reduceToNat, and_true]
  omega

theorem decodeThree_of_toNat (h : 0x800 ≤ n) (h' : n < 0x10000) (hn : n < 0xD800 ∨ 0xE000 ≤ n)
    (ha : a.toNat = n / 4096 % 16 + 0xE0) (hb : b.toNat = n / 64 % 64 + 0x80)
    (hc : c.toNat = n % 64 + 0x80) : decodeThree a b c = some (Char.ofNat n) := by
  obtain ⟨htail₁, hbits₁⟩ := isTail_of_toNat hb
  obtain ⟨htail₂, hbits₂⟩ := isTail_of_toNat hc
  have hvalue : a.toNat % 16 * 4096 + tailBits b * 64 + tailBits c = n := by omega
  unfold decodeThree
  simp only [hvalue]
  rw [if_pos]
  simp only [htail₁, htail₂, Bool.and_eq_true, decide_eq_true_eq, UInt8.le_iff_toNat_le,
    UInt8.lt_iff_toNat_lt, UInt8.reduceToNat, and_true, Bool.not_eq_true', Bool.and_eq_false_iff,
    decide_eq_false_iff_not]
  omega

theorem decodeFour_of_toNat (h : 0x10000 ≤ n) (h' : n < 0x110000)
    (ha : a.toNat = n / 262144 % 8 + 0xF0) (hb : b.toNat = n / 4096 % 64 + 0x80)
    (hc : c.toNat = n / 64 % 64 + 0x80) (hd : d.toNat = n % 64 + 0x80) :
    decodeFour a b c d = some (Char.ofNat n) := by
  obtain ⟨htail₁, hbits₁⟩ := isTail_of_toNat hb
  obtain ⟨htail₂, hbits₂⟩ := isTail_of_toNat hc
  obtain ⟨htail₃, hbits₃⟩ := isTail_of_toNat hd
  have hvalue : a.toNat % 8 * 262144 + tailBits b * 4096 + tailBits c * 64 + tailBits d = n := by
    omega
  unfold decodeFour
  simp only [hvalue]
  rw [if_pos]
  simp only [htail₁, htail₂, htail₃, Bool.and_eq_true, decide_eq_true_eq, UInt8.le_iff_toNat_le,
    UInt8.lt_iff_toNat_lt, UInt8.reduceToNat, and_true]
  omega

theorem decodeTwo_eq_none (ha : 0xE0 ≤ a.toNat) : decodeTwo a b = none := by
  unfold decodeTwo
  rw [if_neg]
  simp only [Bool.and_eq_true, decide_eq_true_eq, UInt8.lt_iff_toNat_lt, UInt8.reduceToNat]
  omega

theorem decodeThree_eq_none (ha : 0xF0 ≤ a.toNat) : decodeThree a b c = none := by
  unfold decodeThree
  simp only
  rw [if_neg]
  simp only [Bool.and_eq_true, decide_eq_true_eq, UInt8.lt_iff_toNat_lt, UInt8.reduceToNat]
  omega

/-! ## The first character of a text -/

section Lead

variable {ch : Char} {rest : Text}

theorem not_ascii (ha : 0x80 ≤ a.toNat) : ¬ a < 0x80 := by
  have hlimit : (0x80 : UInt8).toNat = 0x80 := rfl
  rw [UInt8.lt_iff_toNat_lt]
  omega

theorem lead_two (ha : 0x80 ≤ a.toNat) (h : decodeTwo a b = some ch) :
    lead a (b :: rest) = .two ch := by
  unfold lead
  rw [if_neg (not_ascii ha)]
  match rest with
  | [] | [_] | _ :: _ :: _ => simp [h]

theorem lead_three (ha : 0xE0 ≤ a.toNat) (h : decodeThree a b c = some ch) :
    lead a (b :: c :: rest) = .three ch := by
  unfold lead
  rw [if_neg (not_ascii (by omega))]
  match rest with
  | [] | _ :: _ => simp [decodeTwo_eq_none ha, h]

theorem lead_four (ha : 0xF0 ≤ a.toNat) (h : decodeFour a b c d = some ch) :
    lead a (b :: c :: d :: rest) = .four ch := by
  unfold lead
  rw [if_neg (not_ascii (by omega))]
  simp [decodeTwo_eq_none (a := a) (b := b) (by omega), decodeThree_eq_none ha, h]

theorem pieces_one (h : lead a rest = .one ch) : pieces (a :: rest) = (ch, [a]) :: pieces rest := by
  rw [pieces.eq_def]
  simp only [h]

theorem pieces_two (h : lead a (b :: rest) = .two ch) :
    pieces (a :: b :: rest) = (ch, [a, b]) :: pieces rest := by
  rw [pieces.eq_def]
  simp only [h]

theorem pieces_three (h : lead a (b :: c :: rest) = .three ch) :
    pieces (a :: b :: c :: rest) = (ch, [a, b, c]) :: pieces rest := by
  rw [pieces.eq_def]
  simp only [h]

theorem pieces_four (h : lead a (b :: c :: d :: rest) = .four ch) :
    pieces (a :: b :: c :: d :: rest) = (ch, [a, b, c, d]) :: pieces rest := by
  rw [pieces.eq_def]
  simp only [h]

end Lead

theorem toNat_ofNat_of_lt (h : n < 256) : (UInt8.ofNat n).toNat = n := by
  rw [UInt8.toNat_ofNat']
  exact Nat.mod_eq_of_lt h

theorem toNat_ofNat_tail (m : Nat) : (UInt8.ofNat (m % 64 + 0x80)).toNat = m % 64 + 0x80 :=
  toNat_ofNat_of_lt (by omega)

theorem encodeChar_ascii {ch : Char} (h : ch.toNat < 0x80) :
    String.utf8EncodeChar ch = [UInt8.ofNat ch.toNat] := by
  have hval : ch.val.toNat ≤ 0x7f := Nat.le_of_lt_succ h
  unfold String.utf8EncodeChar
  simp only [hval, if_true]
  rfl

theorem toNat_of_mem_encodeChar {ch : Char} (h : 0x80 ≤ ch.toNat)
    (hb : b ∈ String.utf8EncodeChar ch) : 0x80 ≤ b.toNat := by
  have hval : ¬ ch.val.toNat ≤ 0x7f := Nat.not_le_of_lt h
  unfold String.utf8EncodeChar at hb
  simp only [hval, if_false] at hb
  split at hb
  · simp only [List.mem_cons, List.not_mem_nil, or_false] at hb
    rcases hb with rfl | rfl <;> rw [toNat_ofNat_of_lt (by omega)] <;> omega
  split at hb
  · simp only [List.mem_cons, List.not_mem_nil, or_false] at hb
    rcases hb with rfl | rfl | rfl <;> rw [toNat_ofNat_of_lt (by omega)] <;> omega
  · simp only [List.mem_cons, List.not_mem_nil, or_false] at hb
    rcases hb with rfl | rfl | rfl | rfl <;> rw [toNat_ofNat_of_lt (by omega)] <;> omega

/-- An encoded character is the first piece of a text that starts with it. -/
theorem pieces_encodeChar (ch : Char) (rest : Text) :
    pieces (String.utf8EncodeChar ch ++ rest) = (ch, String.utf8EncodeChar ch) :: pieces rest := by
  have hchar : Char.ofNat ch.val.toNat = ch := ch.ofNat_toNat
  have hvalid : ch.val.toNat < 0xD800 ∨ 0xE000 ≤ ch.val.toNat ∧ ch.val.toNat < 0x110000 :=
    ch.valid
  generalize hn : ch.val.toNat = n at hchar hvalid
  unfold String.utf8EncodeChar
  simp only [hn]
  by_cases h₁ : n ≤ 0x7f
  · rw [if_pos h₁]
    have ha : (UInt8.ofNat n).toNat = n := toNat_ofNat_of_lt (by omega)
    have hascii : UInt8.ofNat n < 0x80 := by
      rw [UInt8.lt_iff_toNat_lt, ha]
      exact Nat.lt_succ_of_le h₁
    refine pieces_one ?_
    rw [lead.eq_def, if_pos hascii, ha, hchar]
  by_cases h₂ : n ≤ 0x7ff
  · rw [if_neg h₁, if_pos h₂]
    have ha : (UInt8.ofNat (n / 64 % 32 + 0xc0)).toNat = n / 64 % 32 + 0xC0 :=
      toNat_ofNat_of_lt (by omega)
    refine pieces_two (lead_two (by omega) ?_)
    rw [decodeTwo_of_toNat (by omega) (by omega) ha (toNat_ofNat_tail n), hchar]
  by_cases h₃ : n ≤ 0xffff
  · rw [if_neg h₁, if_neg h₂, if_pos h₃]
    have ha : (UInt8.ofNat (n / 4096 % 16 + 0xe0)).toNat = n / 4096 % 16 + 0xE0 :=
      toNat_ofNat_of_lt (by omega)
    refine pieces_three (lead_three (by omega) ?_)
    rw [decodeThree_of_toNat (by omega) (by omega) (by omega) ha (toNat_ofNat_tail (n / 64))
      (toNat_ofNat_tail n), hchar]
  · rw [if_neg h₁, if_neg h₂, if_neg h₃]
    have ha : (UInt8.ofNat (n / 262144 % 8 + 0xf0)).toNat = n / 262144 % 8 + 0xF0 :=
      toNat_ofNat_of_lt (by omega)
    refine pieces_four (lead_four (by omega) ?_)
    rw [decodeFour_of_toNat (by omega) (by omega) ha (toNat_ofNat_tail (n / 4096))
      (toNat_ofNat_tail (n / 64)) (toNat_ofNat_tail n), hchar]

/-! ## Pieces -/

section Pieces

variable {ch : Char}

theorem toNat_ofNat_char (h : n < 0xD800 ∨ 0xE000 ≤ n ∧ n < 0x110000) :
    (Char.ofNat n).val.toNat = n := by
  have hvalid : n.isValidChar := by
    unfold Nat.isValidChar
    omega
  rw [Char.ofNat, dif_pos hvalid]
  rfl

theorem toNat_of_isTail (h : isTail b = true) : b.toNat = tailBits b + 0x80 ∧ tailBits b < 64 := by
  simp only [isTail, Bool.and_eq_true, decide_eq_true_eq, UInt8.le_iff_toNat_le,
    UInt8.lt_iff_toNat_lt, UInt8.reduceToNat] at h
  unfold tailBits
  omega

theorem ofNat_eq_of_toNat (h : b.toNat = n) : UInt8.ofNat n = b := by
  rw [← h, UInt8.ofNat_toNat]

theorem encodeChar_of_decodeTwo (h : decodeTwo a b = some ch) :
    String.utf8EncodeChar ch = [a, b] := by
  unfold decodeTwo at h
  split at h
  next hbounds =>
    obtain rfl := Option.some.inj h
    simp only [Bool.and_eq_true, decide_eq_true_eq, UInt8.le_iff_toNat_le, UInt8.lt_iff_toNat_lt,
      UInt8.reduceToNat] at hbounds
    obtain ⟨ha, hb⟩ := hbounds
    obtain ⟨hb, hb'⟩ := toNat_of_isTail hb
    have hvalue := toNat_ofNat_char (n := a.toNat % 32 * 64 + tailBits b) (by omega)
    unfold String.utf8EncodeChar
    simp only [hvalue]
    rw [if_neg (by omega), if_pos (by omega), ofNat_eq_of_toNat (b := a) (by omega),
      ofNat_eq_of_toNat (b := b) (by omega)]
  · cases h

theorem encodeChar_of_decodeThree (h : decodeThree a b c = some ch) :
    String.utf8EncodeChar ch = [a, b, c] := by
  unfold decodeThree at h
  simp only at h
  split at h
  next hbounds =>
    obtain rfl := Option.some.inj h
    simp only [Bool.and_eq_true, decide_eq_true_eq, UInt8.le_iff_toNat_le, UInt8.lt_iff_toNat_lt,
      UInt8.reduceToNat, Bool.not_eq_true', Bool.and_eq_false_iff, decide_eq_false_iff_not]
      at hbounds
    obtain ⟨⟨⟨⟨ha, hb⟩, hc⟩, hlow⟩, hn⟩ := hbounds
    obtain ⟨hb, hb'⟩ := toNat_of_isTail hb
    obtain ⟨hc, hc'⟩ := toNat_of_isTail hc
    have hvalue := toNat_ofNat_char (n := a.toNat % 16 * 4096 + tailBits b * 64 + tailBits c)
      (by omega)
    unfold String.utf8EncodeChar
    simp only [hvalue]
    rw [if_neg (by omega), if_neg (by omega), if_pos (by omega),
      ofNat_eq_of_toNat (b := a) (by omega), ofNat_eq_of_toNat (b := b) (by omega),
      ofNat_eq_of_toNat (b := c) (by omega)]
  · cases h

theorem encodeChar_of_decodeFour (h : decodeFour a b c d = some ch) :
    String.utf8EncodeChar ch = [a, b, c, d] := by
  unfold decodeFour at h
  simp only at h
  split at h
  next hbounds =>
    obtain rfl := Option.some.inj h
    simp only [Bool.and_eq_true, decide_eq_true_eq, UInt8.le_iff_toNat_le, UInt8.lt_iff_toNat_lt,
      UInt8.reduceToNat] at hbounds
    obtain ⟨⟨⟨⟨⟨ha, hb⟩, hc⟩, hd⟩, hlow⟩, hhigh⟩ := hbounds
    obtain ⟨hb, hb'⟩ := toNat_of_isTail hb
    obtain ⟨hc, hc'⟩ := toNat_of_isTail hc
    obtain ⟨hd, hd'⟩ := toNat_of_isTail hd
    have hvalue := toNat_ofNat_char
      (n := a.toNat % 8 * 262144 + tailBits b * 4096 + tailBits c * 64 + tailBits d) (by omega)
    unfold String.utf8EncodeChar
    simp only [hvalue]
    rw [if_neg (by omega), if_neg (by omega), if_neg (by omega),
      ofNat_eq_of_toNat (b := a) (by omega), ofNat_eq_of_toNat (b := b) (by omega),
      ofNat_eq_of_toNat (b := c) (by omega), ofNat_eq_of_toNat (b := d) (by omega)]
  · cases h

theorem encodeChar_ofNat_ascii (h : a < 0x80) :
    String.utf8EncodeChar (Char.ofNat a.toNat) = [a] := by
  have ha : a.toNat < 0x80 := UInt8.lt_iff_toNat_lt.1 h
  have hvalue := toNat_ofNat_char (n := a.toNat) (by omega)
  unfold String.utf8EncodeChar
  simp only [hvalue]
  rw [if_pos (by omega), UInt8.ofNat_toNat]

/-- A text starts with an encoded character or with a stray byte. -/
inductive Starts (a : UInt8) : Text → Lead → Prop
  | stray (rest : Text) : Starts a rest (.one replacement)
  | one {ch : Char} (rest : Text) : String.utf8EncodeChar ch = [a] → Starts a rest (.one ch)
  | two {ch : Char} {b : UInt8} (rest : Text) : String.utf8EncodeChar ch = [a, b] →
      Starts a (b :: rest) (.two ch)
  | three {ch : Char} {b c : UInt8} (rest : Text) : String.utf8EncodeChar ch = [a, b, c] →
      Starts a (b :: c :: rest) (.three ch)
  | four {ch : Char} {b c d : UInt8} (rest : Text) : String.utf8EncodeChar ch = [a, b, c, d] →
      Starts a (b :: c :: d :: rest) (.four ch)

theorem starts_lead (a : UInt8) (rest : Text) : Starts a rest (lead a rest) := by
  unfold lead
  by_cases ha : a < 0x80
  · rw [if_pos ha]
    exact .one rest (encodeChar_ofNat_ascii ha)
  · rw [if_neg ha]
    cases rest with
    | nil => exact .stray []
    | cons b rest =>
      cases h₂ : decodeTwo a b with
      | some ch =>
        have htwo : ∀ rest, Starts a (b :: rest) (.two ch) :=
          fun rest => .two rest (encodeChar_of_decodeTwo h₂)
        match rest with
        | [] | [_] | _ :: _ :: _ => simpa [h₂] using htwo _
      | none =>
        cases rest with
        | nil => simpa [h₂] using Starts.stray [b]
        | cons c rest =>
          cases h₃ : decodeThree a b c with
          | some ch =>
            have hthree : ∀ rest, Starts a (b :: c :: rest) (.three ch) :=
              fun rest => .three rest (encodeChar_of_decodeThree h₃)
            match rest with
            | [] | _ :: _ => simpa [h₂, h₃] using hthree _
          | none =>
            cases rest with
            | nil => simpa [h₂, h₃] using Starts.stray [b, c]
            | cons d rest =>
              cases h₄ : decodeFour a b c d with
              | some ch => simpa [h₂, h₃, h₄] using Starts.four rest (encodeChar_of_decodeFour h₄)
              | none => simpa [h₂, h₃, h₄] using Starts.stray (b :: c :: d :: rest)

/-- A piece of a text is an encoded character or a stray byte. -/
theorem encodeChar_of_mem_pieces {t : Text} {p : Char × Text} (h : p ∈ t.pieces) :
    p.2 = String.utf8EncodeChar p.1 ∨ p.1 = replacement := by
  fun_induction pieces t with
  | case1 => cases h
  | case2 a rest ch hlead ih =>
    rcases List.mem_cons.1 h with rfl | h
    · have hstarts := starts_lead a rest
      rw [hlead] at hstarts
      cases hstarts with
      | stray => exact .inr rfl
      | one _ hch => exact .inl hch.symm
    · exact ih h
  | case3 a ch b rest hlead ih =>
    rcases List.mem_cons.1 h with rfl | h
    · have hstarts := starts_lead a (b :: rest)
      rw [hlead] at hstarts
      cases hstarts with
      | two _ hch => exact .inl hch.symm
    · exact ih h
  | case5 a ch b c rest hlead ih =>
    rcases List.mem_cons.1 h with rfl | h
    · have hstarts := starts_lead a (b :: c :: rest)
      rw [hlead] at hstarts
      cases hstarts with
      | three _ hch => exact .inl hch.symm
    · exact ih h
  | case7 a ch b c d rest hlead ih =>
    rcases List.mem_cons.1 h with rfl | h
    · have hstarts := starts_lead a (b :: c :: d :: rest)
      rw [hlead] at hstarts
      cases hstarts with
      | four _ hch => exact .inl hch.symm
    · exact ih h
  | case4 a ch hlead =>
    have hstarts := starts_lead a []
    rw [hlead] at hstarts
    cases hstarts
  | case6 a ch rest hrest hlead =>
    have hstarts := starts_lead a rest
    rw [hlead] at hstarts
    cases hstarts
    exact (hrest _ _ _ rfl).elim
  | case8 a ch rest hrest hlead =>
    have hstarts := starts_lead a rest
    rw [hlead] at hstarts
    cases hstarts
    exact (hrest _ _ _ _ rfl).elim

/-- A text that is not empty starts with an encoded character or with a stray byte. -/
theorem encoded_or_stray (a : UInt8) (t : Text) :
    (∃ ch rest, a :: t = String.utf8EncodeChar ch ++ rest) ∨
      pieces (a :: t) = (replacement, [a]) :: pieces t := by
  have hstarts := starts_lead a t
  generalize hlead : lead a t = found at hstarts
  cases hstarts with
  | stray => exact .inr (pieces_one hlead)
  | one _ hch => exact .inl ⟨_, t, by rw [hch]; rfl⟩
  | two rest hch => exact .inl ⟨_, rest, by rw [hch]; rfl⟩
  | three rest hch => exact .inl ⟨_, rest, by rw [hch]; rfl⟩
  | four rest hch => exact .inl ⟨_, rest, by rw [hch]; rfl⟩

/-- A byte that is stray in a text is so where the text is cut short. -/
theorem pieces_stray {a : UInt8} {t u : Text}
    (h : pieces (a :: (t ++ u)) = (replacement, [a]) :: pieces (t ++ u)) :
    pieces (a :: t) = (replacement, [a]) :: pieces t := by
  rcases encoded_or_stray a t with ⟨ch, rest, hstart⟩ | hstray
  · have hlong : a :: (t ++ u) = String.utf8EncodeChar ch ++ (rest ++ u) := by
      rw [← List.append_assoc, ← hstart, List.cons_append]
    rw [hlong, pieces_encodeChar] at h
    have hpiece := (List.cons.inj h).1
    have hbytes : String.utf8EncodeChar ch = [a] := congrArg Prod.snd hpiece
    have hrest : t = rest := by
      rw [hbytes] at hstart
      exact (List.cons.inj hstart).2
    rw [hstart, pieces_encodeChar, hpiece, hrest]
  · exact hstray

/-- A text that is cut between two pieces keeps its pieces. -/
theorem pieces_split {t : Text} {ps qs : List (Char × Text)} (h : t.pieces = ps ++ qs) :
    pieces (ps.map Prod.snd).flatten = ps ∧ pieces (qs.map Prod.snd).flatten = qs := by
  induction ps generalizing t with
  | nil =>
    rw [List.nil_append] at h
    exact ⟨rfl, by rw [← h, pieces_flatten]⟩
  | cons p ps ih =>
    rw [List.map_cons, List.flatten_cons]
    cases t with
    | nil => cases h
    | cons a t =>
      rcases encoded_or_stray a t with ⟨ch, rest, hstart⟩ | hstray
      · rw [hstart, pieces_encodeChar, List.cons_append] at h
        obtain ⟨rfl, hrest⟩ := List.cons.inj h
        obtain ⟨hps, hqs⟩ := ih hrest
        exact ⟨by rw [pieces_encodeChar, hps], hqs⟩
      · obtain ⟨rfl, hrest⟩ := List.cons.inj (hstray.symm.trans h)
        obtain ⟨hps, hqs⟩ := ih hrest
        replace hrest : pieces t = ps ++ qs := hrest
        have ht : (ps.map Prod.snd).flatten ++ (qs.map Prod.snd).flatten = t := by
          rw [← List.flatten_append, ← List.map_append, ← hrest, pieces_flatten]
        rw [← ht] at hstray
        refine ⟨?_, hqs⟩
        rw [List.singleton_append, pieces_stray hstray, hps]

end Pieces

/-! ## Texts -/

theorem encode_cons (ch : Char) (cs : List Char) :
    encode (ch :: cs) = String.utf8EncodeChar ch ++ encode cs := rfl

theorem pieces_encode_append (cs : List Char) (t : Text) :
    pieces (encode cs ++ t) = cs.map (fun c => (c, String.utf8EncodeChar c)) ++ pieces t := by
  induction cs with
  | nil => rfl
  | cons c cs ih =>
    rw [encode_cons, List.append_assoc, pieces_encodeChar, ih, List.map_cons, List.cons_append]

/-- What was encoded is read back. -/
theorem decode_encode (cs : List Char) : decode (encode cs) = cs := by
  induction cs with
  | nil => rfl
  | cons ch cs ih =>
    rw [encode_cons, decode, pieces_encodeChar, List.map_cons]
    exact congrArg (ch :: ·) ih

theorem encode_inj {cs ds : List Char} (h : encode cs = encode ds) : cs = ds := by
  rw [← decode_encode cs, h, decode_encode]

theorem encode_decode {t : Text} (h : t.IsUtf8) : encode t.decode = t := by
  obtain ⟨cs, rfl⟩ := h
  rw [decode_encode]

end TagFilter.Text
