import TagFilter.Proofs.ReaderComplete
import TagFilter.Proofs.ReaderSound

/-!
# Parsing is exact

`parse` decides the grammar: it gives a tree exactly for the expressions, and it is the tree of the
grammar.  `compile_eq_ok_iff` says the same of texts, through their tokens.

Whatever the reader has taken can be completed to an expression (`Holds.completes`): the constructs
left open are closed one after the other, each by the words it still needs (`Leaves.completes`).  So
the token that a syntax error blames is the first one that no expression continues with.
-/

namespace TagFilter

open Grammar Parsing

/-! ## Trees -/

theorem parse_eq_ok_iff {words : List Text} {t : Tree} :
    parse words = .ok t ↔ ∃ u, State.start.run 0 words = .ok u ∧ wrapLeaf u = t := by
  cases words with
  | nil =>
    refine ⟨fun h => (by cases h), ?_⟩
    rintro ⟨u, hu, -⟩
    cases hu
  | cons word words =>
    simp only [parse]
    cases State.start.run 0 (word :: words) <;> simp [Except.map]

theorem parse_eq_error_iff {words : List Text} (hne : words ≠ []) {e : SyntaxError} :
    parse words = .error e ↔ State.start.run 0 words = .error e := by
  cases words with
  | nil => exact absurd rfl hne
  | cons word words =>
    simp only [parse]
    cases State.start.run 0 (word :: words) <;> simp [Except.map]

theorem run_start_eq_ok_iff {words : List Text} {t : Tree} {i : Nat} :
    State.start.run i words = .ok t ↔ Derives .disjunction words t :=
  ⟨derives_of_run, fun h => run_of_derives h i⟩

theorem parse_eq_ok_iff_derives {words : List Text} {t : Tree} :
    parse words = .ok t ↔ ∃ u, Derives .disjunction words u ∧ wrapLeaf u = t := by
  rw [parse_eq_ok_iff]
  simp only [run_start_eq_ok_iff]

/-- A text has the tree of the phrase that its tokens are. -/
theorem compile_eq_ok_iff {text : Text} {t : Tree} :
    compile text = .ok t ↔ ∃ tokens u, tokenize text = .ok tokens ∧
      Derives .disjunction (tokens.map Token.text) u ∧ wrapLeaf u = t := by
  cases htokens : tokenize text with
  | error e => simp [compile, htokens]
  | ok tokens =>
    have hmap : compile text = .ok t ↔ parse (tokens.map Token.text) = .ok t := by
      simp only [compile, htokens]
      cases parse (tokens.map Token.text) with
      | error e => exact ⟨fun h => (by cases h), fun h => (by cases h)⟩
      | ok u => exact ⟨fun h => (by cases h; rfl), fun h => (by cases h; rfl)⟩
    rw [hmap, parse_eq_ok_iff_derives]
    simp

theorem compile_of_toOption {text : Text} {t : Tree} (h : (compile text).toOption = some t) :
    compile text = .ok t := by
  cases hc : compile text with
  | error e => simp [hc, Except.toOption] at h
  | ok u => simpa [hc, Except.toOption] using h

/-- Parsing gives exactly the trees of the grammar and a syntax error for every other list of
words. -/
theorem parse_ok_iff_expression (words : List Text) :
    (∀ t, parse words = .ok t ↔ Expression words t) ∧
      ((∀ t, ¬ Expression words t) → ∃ e, parse words = .error e) := by
  have hiff : ∀ t, parse words = .ok t ↔ Expression words t := by
    intro t
    rw [parse_eq_ok_iff_derives, expression_iff]
  refine ⟨hiff, fun hnone => ?_⟩
  cases h : parse words with
  | error e => exact ⟨e, rfl⟩
  | ok t => exact absurd ((hiff t).1 h) (hnone t)

/-! ## Completions -/

namespace Parsing

theorem derives_name : Derives .path ["x"] (.leaf "x") := .name ⟨rfl, rfl⟩

/-- Closes the constructs that words leave open, from the innermost to the outermost. -/
theorem Leaves.completes {stack : List Frame} {us : List Text} (h : Leaves stack us) :
    ∀ {k vs t}, Derives k vs t → k ≠ .items → Fits k stack → Admits stack vs →
      ∃ rest u, Derives .disjunction (us ++ vs ++ rest) u := by
  -- Each construct takes the phrase, adds the words it still needs and hands the phrase it makes
  -- to the constructs around it.
  induction h with
  | start =>
    intro k vs t hvs hk _ _
    exact ⟨[], t, by simpa using hvs.loosen hk (Nat.zero_le _)⟩
  | @group stack us p _ hadmits hp ih =>
    intro k vs t hvs hk _ _
    have hgroup := Derives.group hp (hvs.loosen hk (Nat.zero_le _)) (q := ")") rfl
    obtain ⟨rest, u, hu⟩ := ih hgroup (by decide) ((fits_signed stack).mono (by decide))
      (hadmits.append (by simp) (vs ++ [(")" : Text)]))
    exact ⟨")" :: rest, u, by simpa using hu⟩
  | @disjunct stack us ls w l _ hfits hls hw ih =>
    intro k vs t hvs hk hk' _
    obtain ⟨rest, u, hu⟩ := ih (hls.or hw (hvs.loosen hk hk')) (by decide) hfits
      (admits_of_fits (hfits.mono (by decide)) _)
    exact ⟨rest, u, by simpa using hu⟩
  | @conjunct stack us ls w l _ hfits hls hw ih =>
    intro k vs t hvs hk hk' _
    obtain ⟨rest, u, hu⟩ := ih (hls.and hw (hvs.loosen hk hk')) (by decide) hfits
      (admits_of_fits (hfits.mono (by decide)) _)
    exact ⟨rest, u, by simpa using hu⟩
  | @negation stack us w _ hfits hw ih =>
    intro k vs t hvs hk hk' _
    obtain ⟨rest, u, hu⟩ := ih (.not hw (hvs.loosen hk hk')) (by decide) hfits
      (admits_of_fits (hfits.mono (by decide)) _)
    exact ⟨rest, u, by simpa using hu⟩
  | @comparand stack us ls js o l negated _ hfits hls hjs ho ih =>
    intro k vs t hvs hk hk' _
    obtain ⟨rest, u, hu⟩ := ih (hls.compare hjs ho (hvs.loosen hk hk')) (by decide) hfits
      (admits_of_fits hfits _)
    exact ⟨rest, u, by simpa using hu⟩
  | @lowBound stack us ls js l negated _ hfits hls hjs ih =>
    intro k vs t hvs hk hk' _
    have hhigh : Derives .sum ["x"] (.leaf "x") := derives_name.loosen (by decide) (by decide)
    have hbetween := hls.between hjs (hvs.loosen hk hk') (w := "and") rfl hhigh
    obtain ⟨rest, u, hu⟩ := ih hbetween (by decide) hfits (admits_of_fits hfits _)
    exact ⟨"and" :: "x" :: rest, u, by simpa using hu⟩
  | @highBound stack us ls js los w l lo negated _ hfits hls hjs hlos hw ih =>
    intro k vs t hvs hk hk' _
    obtain ⟨rest, u, hu⟩ := ih (hls.between hjs hlos hw (hvs.loosen hk hk')) (by decide) hfits
      (admits_of_fits hfits _)
    exact ⟨rest, u, by simpa using hu⟩
  | @item stack us ls js p is l negated earlier afterComma _ hfits hls hjs hp his ih =>
    intro k vs t hvs hk hk' hadmits
    have hitems := his.derives hadmits (.last (hvs.loosen hk hk'))
    have hamong := hls.among hjs hp hitems (q := ")") rfl
    obtain ⟨rest, u, hu⟩ := ih hamong (by decide) hfits (admits_of_fits hfits _)
    exact ⟨")" :: rest, u, by simpa using hu⟩
  | @index stack us bs p base _ hadmits hbs hp ih =>
    intro k vs t hvs hk hk' _
    have hindex := hbs.subscript hp (hvs.loosen hk hk') (q := "]") rfl
    obtain ⟨rest, u, hu⟩ := ih hindex (by decide) ((fits_signed stack).mono (by decide))
      (by simpa using hadmits.append hbs.ne_nil (p :: vs ++ [("]" : Text)]))
    exact ⟨"]" :: rest, u, by simpa using hu⟩
  | @sum stack us ls w o l _ hfits hadmits hls hw ho ih =>
    intro k vs t hvs hk hk' _
    obtain ⟨rest, u, hu⟩ := ih (hls.add hw ho (hvs.loosen hk hk')) (by decide) hfits
      (hadmits.append hls.ne_nil _)
    exact ⟨rest, u, by simpa using hu⟩
  | @product stack us ls w o l _ hfits hadmits hls hw ho ih =>
    intro k vs t hvs hk hk' _
    obtain ⟨rest, u, hu⟩ := ih (hls.mul hw ho (hvs.loosen hk hk')) (by decide) hfits
      (hadmits.append hls.ne_nil _)
    exact ⟨rest, u, by simpa using hu⟩
  | @pos stack us w _ hadmits hw ih =>
    intro k vs t hvs hk hk' _
    obtain ⟨rest, u, hu⟩ := ih (.pos hw (hvs.loosen hk hk')) (by decide) (fits_signed stack)
      (hadmits.append (by simp) vs)
    exact ⟨rest, u, by simpa using hu⟩
  | @neg stack us w _ hadmits hw ih =>
    intro k vs t hvs hk hk' _
    obtain ⟨rest, u, hu⟩ := ih (.neg hw (hvs.loosen hk hk')) (by decide) (fits_signed stack)
      (hadmits.append (by simp) vs)
    exact ⟨rest, u, by simpa using hu⟩
  | @power stack us bs w base _ hadmits hbs hw ih =>
    intro k vs t hvs hk hk' _
    obtain ⟨rest, u, hu⟩ := ih (.exp hbs hw (hvs.loosen hk hk')) (by decide)
      ((fits_signed stack).mono (by decide)) (hadmits.append hbs.ne_nil _)
    exact ⟨rest, u, by simpa using hu⟩

theorem Ends.completes {k : Tier} {t : Tree} {stack : List Frame} {ws : List Text}
    (h : Ends k t stack ws) (hk : k ≠ .items) (hfits : Fits k stack) :
    ∃ rest u, Derives .disjunction (ws ++ rest) u := by
  obtain ⟨us, vs, rfl, hleaves, hadmits, hvs⟩ := h
  exact hleaves.completes hvs hk hfits hadmits

/-- Whatever the reader has taken can be completed to an expression. -/
theorem Holds.completes {s : State} {ws : List Text} (h : Holds s ws) :
    ∃ rest u, Derives .disjunction (ws ++ rest) u := by
  obtain ⟨mode, stack⟩ := s
  cases mode with
  | operand =>
    obtain ⟨rest, u, hu⟩ := h.1.completes derives_name (by decide)
      ((fits_signed stack).mono (by decide)) (h.2 _)
    exact ⟨"x" :: rest, u, by simpa using hu⟩
  | value t isPath =>
    exact (Ends.operand h).completes (by decide) ((fits_signed stack).mono (by decide))
  | tested t => exact h.2.completes (by decide) h.1
  | memberName base =>
    obtain ⟨t, us, d, rfl, rfl, ⟨us, vs, rfl, hleaves, hadmits, hvs⟩, hd⟩ := h
    obtain ⟨rest, u, hu⟩ := hleaves.completes (hvs.member hd (v := "x") ⟨rfl, rfl⟩) (by decide)
      ((fits_signed stack).mono (by decide)) (hadmits.append hvs.ne_nil _)
    exact ⟨"x" :: rest, u, by simpa using hu⟩
  | isTest t =>
    obtain ⟨hfits, us, w, rfl, ⟨us, vs, rfl, hleaves, hadmits, hvs⟩, hw⟩ := h
    obtain ⟨rest, u, hu⟩ := hleaves.completes (hvs.isNull hw (n := "null") rfl) (by decide) hfits
      (hadmits.append hvs.ne_nil _)
    exact ⟨"null" :: rest, u, by simpa using hu⟩
  | isNotTest t =>
    obtain ⟨hfits, us, w, v, rfl, ⟨us, vs, rfl, hleaves, hadmits, hvs⟩, hw, hv⟩ := h
    obtain ⟨rest, u, hu⟩ := hleaves.completes (hvs.isNotNull hw hv (n := "null") rfl) (by decide)
      hfits (hadmits.append hvs.ne_nil _)
    exact ⟨"null" :: rest, u, by simpa using hu⟩
  | negatedTest t =>
    obtain ⟨hfits, us, v, rfl, ⟨us, vs, rfl, hleaves, hadmits, hvs⟩, hv⟩ := h
    have hvalue : Derives .sum ["x"] (.leaf "x") := derives_name.loosen (by decide) (by decide)
    have hlink : Link [v, "="] .eq true := .negated hv rfl
    obtain ⟨rest, u, hu⟩ := hleaves.completes (hvs.compare hlink rfl hvalue) (by decide) hfits
      (admits_of_fits hfits _)
    exact ⟨"=" :: "x" :: rest, u, by simpa using hu⟩
  | listOpening t negated =>
    obtain ⟨hfits, us, js, rfl, ⟨us, vs, rfl, hleaves, hadmits, hvs⟩, hjs⟩ := h
    have hvalue : Derives .sum ["x"] (.leaf "x") := derives_name.loosen (by decide) (by decide)
    have hlist := hvs.among hjs (p := "(") rfl (.last hvalue) (q := ")") rfl
    obtain ⟨rest, u, hu⟩ := hleaves.completes hlist (by decide) hfits (admits_of_fits hfits _)
    exact ⟨"(" :: "x" :: ")" :: rest, u, by simpa using hu⟩

theorem Reads.completes {ws : List Text} {s : State} (h : Reads State.start ws s) :
    ∃ rest u, parse (ws ++ rest) = .ok u := by
  obtain ⟨rest, u, hu⟩ := (holds_start.reads h).completes
  exact ⟨rest, wrapLeaf u, parse_eq_ok_iff.2 ⟨u, run_of_derives hu 0, rfl⟩⟩

end Parsing

/-! ## The blamed token -/

/-- A syntax error blames the first token that no expression continues with: the tokens before it
begin an expression, and whatever follows it the error is the same.  At the end of the tokens it
blames none of them. -/
theorem syntaxError_exact {words : List Text} {e : SyntaxError} (h : parse words = .error e) :
    e.index ≤ words.length ∧
      e.token = words.getD e.index "<end>" ∧
      (∃ rest t, parse (words.take e.index ++ rest) = .ok t) ∧
      (e.index < words.length →
        ∀ rest, parse (words.take (e.index + 1) ++ rest) = .error e) := by
  by_cases hne : words = []
  · subst hne
    cases h
    refine ⟨Nat.le_refl _, rfl, ⟨["x"], _, rfl⟩, fun hlt => absurd hlt (by simp)⟩
  · rw [parse_eq_error_iff hne] at h
    obtain ⟨us, w, vs, s, cause, rfl, hreads, hw, rfl⟩ | ⟨s, cause, hreads, hfinish, rfl⟩ :=
      run_eq_error_iff.1 h
    · refine ⟨by simp, by simp [SyntaxError.token], ?_, fun _ rest => ?_⟩
      · simpa using hreads.completes
      · have htake : (us ++ w :: vs).take (0 + us.length + 1) ++ rest = us ++ w :: rest := by
          simp [List.take_append, List.take_of_length_le]
        rw [htake, parse_eq_error_iff (by simp)]
        exact run_of_stop hreads hw 0
    · refine ⟨by simp, by simp [SyntaxError.token], ?_, fun hlt => absurd hlt (by simp)⟩
      simpa using hreads.completes

set_option maxRecDepth 4000 in
/-- In `a in ( 1 , = 2 )` the equals sign is blamed. -/
theorem syntaxError_exact_in_list :
    let words : List Text := ["a", "in", "(", "1", ",", "=", "2", ")"]
    let e : SyntaxError := ⟨5, some "=", .badOperand⟩
    parse words = .error e ∧ e.index ≤ words.length ∧
      e.token = words.getD e.index "<end>" ∧
      (∃ rest t, parse (words.take e.index ++ rest) = .ok t) ∧
      (e.index < words.length →
        ∀ rest, parse (words.take (e.index + 1) ++ rest) = .error e) := by
  intro words e
  have h : parse words = .error e := rfl
  exact ⟨h, syntaxError_exact h⟩

end TagFilter
