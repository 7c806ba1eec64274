import TagFilter.Proofs.Piece

/-!
# Leaves as literals

A leaf between quotes is one SQL literal exactly when every quote inside is doubled, and when all of
them are, the predicate outside its literals does not depend on what is inside.  Nothing doubles the
quotes, so leaves with quotes inside break out.  A text without backslashes, double quotes and
backticks has no such leaves, but for attributes that are quoted themselves: its tokens have no
quotes but at their ends (`Scan.tokens_unescaped`), and leaves are tokens, perhaps without their
quotes (`Grammar.Derives.leaves`).
-/

namespace TagFilter

open Grammar Parsing
open Sql (quote enclose Doubled outline)

/-! ## Leaves and words -/

theorem Tree.Leaves.negateIf {P : Text → Prop} {t : Tree} (h : t.Leaves P) (negated : Bool) :
    (Parsing.negateIf negated t).Leaves P := by
  cases negated with
  | false => exact h
  | true => exact leaves_node.2 ⟨h, leaves_absent⟩

theorem Tree.Leaves.pathBase {P : Text → Prop} (hunquote : ∀ w, P w → P (unquote w)) {t : Tree}
    (h : t.Leaves P) : (Parsing.pathBase t).Leaves P := by
  cases t with
  | leaf text => exact leaves_leaf.2 (hunquote text (leaves_leaf.1 h))
  | absent | node => exact h

/-- The leaves of a phrase have what its words have, if that outlasts taking quotes off. -/
theorem Grammar.Derives.leaves {P : Text → Prop} (hnull : P "null")
    (hunquote : ∀ w, P w → P (unquote w)) {k : Tier} {ws : List Text} {t : Tree}
    (h : Derives k ws t) (hws : ∀ w ∈ ws, P w) : t.Leaves P := by
  induction h with
  | conjunction _ ih | negation _ ih | comparison _ ih | sum _ ih | product _ ih | signed _ ih
  | power _ ih | operand _ ih | path _ ih => exact ih hws
  | group _ _ _ ih => exact ih fun w hw => hws w (by simp [hw])
  | number | null | name => exact Tree.leaves_leaf.2 (hws _ (by simp))
  | not _ _ ih | pos _ _ ih | neg _ _ ih =>
    have hsub := ih fun w hw => hws w (by simp [hw])
    exact Tree.leaves_node.2 ⟨hsub, Tree.leaves_absent⟩
  | last _ ih => exact Tree.leaves_node.2 ⟨ih hws, Tree.leaves_absent⟩
  | isNull _ _ _ ih =>
    have hsub := ih fun w hw => hws w (by simp [hw])
    exact Tree.leaves_node.2 ⟨hsub, Tree.leaves_leaf.2 hnull⟩
  | isNotNull _ _ _ _ ih =>
    have hsub := ih fun w hw => hws w (by simp [hw])
    exact Tree.leaves_node.2
      ⟨Tree.leaves_node.2 ⟨hsub, Tree.leaves_leaf.2 hnull⟩, Tree.leaves_absent⟩
  | or _ _ _ ihl ihr | and _ _ _ ihl ihr | exp _ _ _ ihl ihr | add _ _ _ _ ihl ihr
  | mul _ _ _ _ ihl ihr | comma _ _ _ ihl ihr | juxtaposed _ _ _ ihl ihr =>
    have hl := ihl fun w hw => hws w (by simp [hw])
    have hr := ihr fun w hw => hws w (by simp [hw])
    exact Tree.leaves_node.2 ⟨hl, hr⟩
  | compare _ _ _ _ ihl ihr | among _ _ _ _ _ ihl ihr =>
    have hl := ihl fun w hw => hws w (by simp [hw])
    have hr := ihr fun w hw => hws w (by simp [hw])
    exact (Tree.leaves_node.2 ⟨hl, hr⟩).negateIf _
  | between _ _ _ _ _ ihl ihlo ihhi =>
    have hl := ihl fun w hw => hws w (by simp [hw])
    have hlo := ihlo fun w hw => hws w (by simp [hw])
    have hhi := ihhi fun w hw => hws w (by simp [hw])
    exact (Tree.leaves_node.2 ⟨hl, Tree.leaves_node.2 ⟨hlo, hhi⟩⟩).negateIf _
  | @member _ _ v _ _ _ _ ih =>
    have hbase := (ih fun w hw => hws w (by simp [hw])).pathBase hunquote
    exact Tree.leaves_node.2 ⟨hbase, Tree.leaves_leaf.2 (hunquote v (hws v (by simp)))⟩
  | subscript _ _ _ _ ih ihi =>
    have hbase := (ih fun w hw => hws w (by simp [hw])).pathBase hunquote
    have hi := ihi fun w hw => hws w (by simp [hw])
    exact Tree.leaves_node.2 ⟨hbase, hi⟩

/-! ## Texts without escapes -/

/-- A text has no backslashes, double quotes and backticks. -/
def Unescaped (text : Text) : Prop :=
  ∀ b ∈ text, b ≠ Token.backslash ∧ b ≠ byte '"' ∧ b ≠ Token.backtick

/-- A word has no quotes but perhaps one at either end. -/
def Tame (word : Text) : Prop := quote ∉ word ∨ ∃ inside, word = enclose inside ∧ quote ∉ inside

namespace Token

theorem quoted_unescaped {t inner rest : Text} (ht : ∀ b ∈ t, b ≠ backslash)
    (h : quoted quote t = some (inner, rest)) : quote ∉ inner ∧ rest <:+ t := by
  fun_induction quoted quote t generalizing inner with
  | case1 => cases h
  | case2 =>
    cases h
    exact ⟨by simp, List.suffix_cons _ _⟩
  | case3 _ _ _ _ hescape => exact absurd hescape.1 (ht _ (by simp))
  | case4 => cases h
  | case5 b t hb _ ih =>
    obtain ⟨tail, htail, rfl⟩ := prepend_eq_some.1 h
    obtain ⟨hnot, hsuffix⟩ := ih (fun c hc => ht c (by simp [hc])) htail
    exact ⟨by simp [Ne.symm hb, hnot], hsuffix.trans (List.suffix_cons b t)⟩

theorem move_quote (p : Pending) (rest : Text) :
    move p quote rest = if p = .nothing then .symbol else .stop := rfl

theorem ne_quote_of_move {p : Pending} {b : UInt8} {t : Text}
    (hp : p = .nothing → (b :: t).head? ≠ some quote) (hmove : move p b t ≠ .stop) : quote ≠ b := by
  rintro rfl
  rw [move_quote, if_neg fun hnothing => hp hnothing rfl] at hmove
  exact hmove rfl

theorem word_unescaped {p : Pending} {t text rest : Text} (ht : ∀ b ∈ t, b ≠ backslash)
    (hp : p = .nothing → t.head? ≠ some quote) (h : word p t = some (text, rest)) :
    quote ∉ text ∧ rest <:+ t := by
  fun_induction word p t generalizing text with
  | case1 =>
    cases h
    exact ⟨by simp, List.suffix_refl _⟩
  | case2 =>
    cases h
    exact ⟨by simp, List.suffix_refl _⟩
  | case3 p b t hmove =>
    cases h
    have hb := ne_quote_of_move hp (by rw [hmove]; decide)
    exact ⟨by simpa using hb, List.suffix_cons b _⟩
  | case4 p b t hmove =>
    cases h
    have hb := ne_quote_of_move hp (by rw [hmove]; decide)
    exact ⟨by simpa using hb, (List.tail_suffix t).trans (List.suffix_cons b t)⟩
  | case5 p b t hmove ih =>
    have hb := ne_quote_of_move hp (by rw [hmove]; decide)
    obtain ⟨tail, htail, rfl⟩ := prepend_eq_some.1 h
    obtain ⟨hnot, hsuffix⟩ := ih (fun c hc => ht c (by simp [hc]))
      (fun hnothing => absurd hnothing (push_ne_nothing p b)) htail
    exact ⟨by simp [hb, hnot], hsuffix.trans (List.suffix_cons b t)⟩
  | case6 => cases h
  | case7 _ b _ _ hmove => exact absurd (move_eq_escape_iff.1 hmove) (ht b (by simp))

/-- A token of a text without escapes is tame. -/
theorem read_unescaped {b : UInt8} {t text rest : Text} (ht : Unescaped (b :: t))
    (h : read b t = .ok (text, rest)) : Tame text ∧ rest <:+ b :: t := by
  obtain ⟨hbackslash, hdouble, hbacktick⟩ := ht b (by simp)
  have htail : ∀ c ∈ t, c ≠ backslash := fun c hc => (ht c (by simp [hc])).1
  unfold read at h
  by_cases hb : b = quote
  · subst hb
    rw [if_pos (.inr rfl)] at h
    cases hquoted : quoted quote t with
    | none => simp [hquoted] at h
    | some part =>
      obtain ⟨inner, left⟩ := part
      rw [hquoted] at h
      cases h
      obtain ⟨hnot, hsuffix⟩ := quoted_unescaped htail hquoted
      exact ⟨.inr ⟨inner, rfl, hnot⟩, hsuffix.trans (List.suffix_cons quote t)⟩
  · have hplain : ¬ (b = byte '"' ∨ b = byte '\'') := not_or.2 ⟨hdouble, hb⟩
    rw [if_neg hplain, if_neg hbacktick] at h
    cases hword : word .nothing (b :: t) with
    | none => simp [hword] at h
    | some part =>
      rw [hword] at h
      cases h
      obtain ⟨hnot, hsuffix⟩ := word_unescaped (fun c hc => (ht c hc).1)
        (fun _ => by simpa using hb) hword
      exact ⟨.inl hnot, hsuffix⟩

end Token

theorem Unescaped.of_suffix {t u : Text} (h : Unescaped t) (hu : u <:+ t) : Unescaped u :=
  fun b hb => h b (hu.subset hb)

theorem Scan.next_unescaped {s after : Scan} (hs : Unescaped s.rest) {token : Token}
    (h : s.next = .token token after) : Tame token.text ∧ Unescaped after.rest := by
  obtain ⟨b, rest, hskip, -, hread, -⟩ := read_of_next h
  have hunescaped : Unescaped (b :: rest) :=
    hs.of_suffix (hskip ▸ List.dropWhile_suffix Token.isSpace)
  obtain ⟨htame, hsuffix⟩ := Token.read_unescaped hunescaped hread
  exact ⟨htame, hunescaped.of_suffix hsuffix⟩

/-- The tokens of a text without escapes are tame. -/
theorem Scan.tokens_unescaped {s : Scan} (hs : Unescaped s.rest) {tokens : List Token}
    (h : s.tokens = .ok tokens) : ∀ token ∈ tokens, Tame token.text := by
  fun_induction Scan.tokens s generalizing tokens with
  | case1 =>
    cases h
    simp
  | case2 => cases h
  | case3 s token after hnext ts _ ih =>
    obtain ⟨htame, hafter⟩ := next_unescaped hs hnext
    cases h
    simpa [htame] using ih hafter ‹_›
  | case4 => cases h

theorem Tame.unquote {w : Text} (h : Tame w) : Tame (Parsing.unquote w) := by
  unfold Parsing.unquote
  split
  · rcases h with h | ⟨inside, rfl, hinside⟩
    · exact .inl fun hmem => h (List.mem_of_mem_tail (List.dropLast_subset _ hmem))
    · exact .inl (by simpa [enclose] using hinside)
  · exact h

/-- The leaves of a text without escapes are tame. -/
theorem tame_leaves_of_compile {text : Text} {t : Tree} (ht : compile text = .ok t)
    (hunescaped : Unescaped text) : t.Leaves Tame := by
  obtain ⟨tokens, u, htokens, hu, rfl⟩ := compile_eq_ok_iff.1 ht
  have hwords : ∀ w ∈ tokens.map Token.text, Tame w := by
    intro w hw
    obtain ⟨token, htoken, rfl⟩ := List.mem_map.1 hw
    exact Scan.tokens_unescaped hunescaped htokens token htoken
  have hleaves : u.Leaves Tame :=
    hu.leaves (.inl (by decide)) (fun w hw => Tame.unquote hw) hwords
  unfold wrapLeaf
  split
  · exact Tree.leaves_node.2 ⟨hleaves, Tree.leaves_absent⟩
  · exact hleaves

/-! ## Literals -/

theorem Tame.inside {inside : Text} (h : Tame (enclose inside)) : quote ∉ inside := by
  rcases h with h | ⟨inside', heq, hinside⟩
  · exact absurd (by simp [enclose]) h
  · obtain rfl : inside = inside' := by simpa [enclose] using heq
    exact hinside

/-- A tame leaf is a sound piece unless it is an attribute with quotes of its own. -/
theorem Piece.sound_of_tame {p : Piece} {x : Text} (hx : Tame x)
    (hp : p = .name x ∨ p = .ofValue x) : p.Sound ∨ ∃ inside, p = .name (enclose inside) := by
  rcases hp with rfl | rfl
  · rcases hx with hx | ⟨inside, rfl, -⟩
    · exact .inl (Doubled.of_not_mem hx)
    · exact .inr ⟨inside, rfl⟩
  · left
    obtain ⟨inside, rfl, hp⟩ | ⟨hbare, hp⟩ := ofValue_cases x
    · rw [hp]
      exact Doubled.of_not_mem hx.inside
    · rw [hp]
      rcases hx with hx | ⟨inside, hinside, -⟩
      · exact hx
      · exact absurd hinside (hbare inside)

/-- The predicate of a text lies in pieces. -/
theorem lays_of_compile {P : Text → Prop} (s : Sniffer) {text : Text} {t : Tree}
    (ht : compile text = .ok t) (hnil : P []) (h : t.Leaves P) :
    Piece.Lays P (s.pieces t) (s.predicate t) := by
  obtain ⟨x, rfl⟩ | ⟨o, l, r, rfl, hshaped⟩ := shaped_of_compile ht
  · have hlisted : (Tree.op .val (.leaf x) .absent).Listed :=
      Tree.listed_node.2 ⟨⟨.val, rfl⟩, Tree.listed_leaf x, Tree.listed_absent⟩
    exact s.lays_predicate hlisted hnil h
  · exact s.lays_predicate hshaped.listed hnil h

/-- In the predicate of a text, a leaf between quotes is one literal exactly when its quotes are
doubled.  If every one of them is, and bare values have no quotes, what is outside the literals does
not depend on what is inside.  Texts without escapes have only such leaves, but for attributes that
are quoted themselves. -/
theorem leafLiteral_exact (s : Sniffer) (select : Text) {text : Text} {t : Tree}
    (ht : compile text = .ok t) :
    s.render select t = select ++ " where " ++ Piece.writeAll (s.pieces t) ∧
      (∀ before p after x, s.pieces t = before ++ p :: after → p.inside? = some x →
        ((∃ inside, Sql.Token.first (p.write ++ Piece.writeAll after) =
          .ok ⟨.text inside, p.write, []⟩) ↔ Doubled x)) ∧
      ((∀ p ∈ s.pieces t, p.Sound) →
        outline .outside (s.predicate t) = Piece.writeAll ((s.pieces t).map Piece.blank)) ∧
      (Unescaped text →
        ∀ p ∈ s.pieces t, p.Sound ∨ ∃ inside, p = .name (enclose inside)) := by
  have hlays : Piece.Lays (fun _ => True) (s.pieces t) (s.predicate t) :=
    lays_of_compile s ht trivial fun _ _ => trivial
  refine ⟨?_, ?_, ?_, ?_⟩
  · rw [Sniffer.render, hlays.write]
  · intro before p after x hpieces hx
    have hapart : Piece.Apart (p :: after) := (hpieces ▸ hlays.apart).of_append
    have hbetween : ∀ m, .sql m ∈ after → Piece.Between m :=
      fun m hm => hlays.between m (by simp [hpieces, hm])
    cases p with
    | name y | quoted y =>
      cases hx
      exact Sql.Token.first_literal_iff (Piece.head?_writeAll_ne_quote hapart hbetween rfl)
    | sql | bare => cases hx
  · intro hsound
    rw [← hlays.write]
    exact Piece.outline_writeAll hlays.apart hlays.between hsound
  · intro hunescaped p hp
    have htame := lays_of_compile s ht (.inl (by simp)) (tame_leaves_of_compile ht hunescaped)
    cases hsql : p.isSql with
    | true =>
      cases p with
      | sql m => exact .inl trivial
      | name | quoted | bare => cases hsql
    | false =>
      obtain ⟨x, hx, hleaf⟩ := htame.leaves p hp hsql
      exact Piece.sound_of_tame hx hleaf

/-- The value of `a = 'it\'s'` is no literal: it ends after `it`. -/
theorem leafLiteral_exact_apostrophe :
    let t : Tree := .op .eq (.leaf "a") (.leaf "'it's'")
    compile "a = 'it\\'s'" = .ok t ∧
      Sniffer.default.pieces t = [.sql "name = ", .name "a", .sql " and ", .sql "str_value = ",
        .quoted "it's"] ∧
      Sniffer.default.render "q" t = Text.ofString "q" ++ " where " ++
        Piece.writeAll (Sniffer.default.pieces t) ∧
      ¬ ∃ inside, Sql.Token.first "'it's'" = .ok ⟨.text inside, "'it's'", []⟩ := by
  intro t
  have ht : compile "a = 'it\\'s'" = .ok t := compile_of_toOption (by decide +kernel)
  have hpieces : Sniffer.default.pieces t = [.sql "name = ", .name "a", .sql " and ",
      .sql "str_value = "] ++ .quoted "it's" :: [] := by
    decide +kernel
  obtain ⟨hrender, hliteral, -, -⟩ := leafLiteral_exact Sniffer.default "q" ht
  have hnot : ¬ Doubled "it's" := by decide +kernel
  exact ⟨ht, hpieces, hrender, fun h => hnot ((hliteral _ _ _ _ hpieces rfl).1 h)⟩

end TagFilter
