import TagFilter.Proofs.Lexer

/-!
# Runs of a lexer

A lexer may be called any number of times, after an error and after the end as well.  Each call
moves it on or leaves it at the end of its text (`Lexer.next_cases`), where every further call
brings the end (`Lexer.answer_atEnd`).  So a run has at most one error, and the tokens before the end
or the error are at most as many as there are bytes (`Lexer.exists_tokens`).
-/

namespace TagFilter

namespace Lexer

/-- The lexer of a text before the first call. -/
def start (input : Text) : Lexer := ⟨input, 0⟩

/-- The lexer after some calls. -/
def after (l : Lexer) : Nat → Lexer
  | 0 => l
  | n + 1 => l.next.2.after n

/-- What a call brings, the first call being call 0. -/
def answer (l : Lexer) (k : Nat) : Except LexError (Option Token) := (l.after k).next.1

variable {l : Lexer}

theorem after_succ (l : Lexer) (k : Nat) : l.after (k + 1) = (l.after k).next.2 := by
  induction k generalizing l with
  | zero => rfl
  | succ k ih => exact ih l.next.2

theorem after_add (l : Lexer) (j k : Nat) : l.after (j + k) = (l.after j).after k := by
  induction j generalizing l with
  | zero => rw [Nat.zero_add]; rfl
  | succ j ih => rw [Nat.succ_add]; exact ih l.next.2

theorem next_le (hpos : l.pos ≤ l.input.length) :
    l.next.2.input = l.input ∧ l.pos ≤ l.next.2.pos ∧ l.next.2.pos ≤ l.input.length := by
  rcases next_cases hpos with ⟨t, hnext, hlt, hstop, -⟩ | ⟨hnext, -⟩ | ⟨cause, hnext, -⟩
  · rw [hnext]
    exact ⟨rfl, Nat.le_of_lt hlt, hstop⟩
  · rw [hnext]
    exact ⟨rfl, hpos, Nat.le_refl _⟩
  · rw [hnext]
    exact ⟨rfl, hpos, Nat.le_refl _⟩

theorem after_le (hpos : l.pos ≤ l.input.length) (k : Nat) :
    (l.after k).input = l.input ∧ (l.after k).pos ≤ l.input.length := by
  induction k generalizing l with
  | zero => exact ⟨rfl, hpos⟩
  | succ k ih =>
    obtain ⟨hinput, -, hle⟩ := next_le hpos
    rw [← hinput] at hle ⊢
    exact ih hle

/-- A call moves a lexer on, and to where its token stops if it brings one. -/
theorem after_moves (hpos : l.pos ≤ l.input.length) (k : Nat) :
    (l.after k).pos ≤ (l.after (k + 1)).pos ∧ ∀ t, l.answer k = .ok (some t) →
      (l.after k).pos < (l.after (k + 1)).pos ∧ t.stop = (l.after (k + 1)).pos := by
  obtain ⟨hinput, hle⟩ := after_le hpos k
  rw [← hinput] at hle
  rw [after_succ]
  refine ⟨(next_le hle).2.1, fun t ht => ?_⟩
  rw [answer] at ht
  rcases next_cases hle with ⟨u, hnext, hlt, -⟩ | ⟨hnext, -⟩ | ⟨cause, hnext, -⟩ <;>
    rw [hnext] at ht ⊢ <;> cases ht
  exact ⟨hlt, rfl⟩

theorem next_atEnd (l : Lexer) : l.atEnd.next = (.ok none, l.atEnd) := by
  obtain ⟨-, hle, hlength⟩ := skip_agrees (Nat.le_refl l.input.length)
  have hskip : skip l.input l.input.length = l.input.length := Nat.le_antisymm hlength hle
  simp [next, atEnd, hskip]

theorem answer_atEnd (l : Lexer) (k : Nat) : l.atEnd.answer k = .ok none := by
  have hstays : l.atEnd.after k = l.atEnd := by
    induction k with
    | zero => rfl
    | succ k ih => rw [after_succ, ih, next_atEnd]
  rw [answer, hstays, next_atEnd]

/-- After an error there are no more tokens and no more errors. -/
theorem answer_of_error (hpos : l.pos ≤ l.input.length) {k : Nat} {e : LexError}
    (h : l.answer k = .error e) :
    e.pos = l.input.length ∧ (l.after (k + 1)).pos = l.input.length ∧
      ∀ m, k < m → l.answer m = .ok none := by
  obtain ⟨hinput, hle⟩ := after_le hpos k
  rw [← hinput] at hle ⊢
  rw [answer] at h
  rcases next_cases hle with ⟨t, hnext, -⟩ | ⟨hnext, -⟩ | ⟨cause, hnext, -⟩
  · rw [hnext] at h
    cases h
  · rw [hnext] at h
    cases h
  · rw [hnext] at h
    cases h
    have hend : l.after (k + 1) = (l.after k).atEnd := by rw [after_succ, hnext]
    refine ⟨rfl, by rw [hend]; rfl, fun m hm => ?_⟩
    obtain ⟨j, rfl⟩ := Nat.exists_eq_add_of_lt hm
    rw [answer, Nat.add_right_comm, after_add, hend, ← answer, answer_atEnd]

end Lexer

/-- What a step of a scan brings. -/
def Scan.Step.answer : Scan.Step → Except LexError (Option Token)
  | token t _ => .ok (some t)
  | done => .ok none
  | failed e _ => .error e

namespace Lexer

theorem steps_rest {l : Lexer} (hpos : l.pos ≤ l.input.length) (n : Nat) :
    (Scan.steps n l.rest).map Scan.Step.answer = (List.range n).map l.answer := by
  induction n generalizing l with
  | zero => rfl
  | succ n ih =>
    obtain ⟨hinput, -, hle⟩ := next_le hpos
    rw [← hinput] at hle
    have ih := ih hle
    have hrange : (List.range (n + 1)).map l.answer =
        l.next.1 :: (List.range n).map l.next.2.answer := by
      rw [List.range_succ_eq_map, List.map_cons, List.map_map]
      rfl
    rw [hrange, ← ih, Scan.steps]
    rcases next_cases hpos with ⟨t, hnext, -, -, hscan⟩ | ⟨hnext, hscan⟩ | ⟨cause, hnext, hscan⟩
    · rw [hnext, hscan]
      rfl
    · simp only [hnext, hscan, pos_add_length_rest hpos, rest_atEnd]
      rfl
    · simp only [hnext, hscan, rest_atEnd]
      rfl

theorem exists_tokens {l : Lexer} (hpos : l.pos ≤ l.input.length) :
    ∃ ts : List Token, ts.length ≤ l.input.length - l.pos ∧
      (∀ k < ts.length, l.answer k = .ok ts[k]?) ∧
      (l.answer ts.length = .ok none ∧ l.rest.tokens = .ok ts ∨
        ∃ e, l.answer ts.length = .error e ∧ l.rest.tokens = .error e) := by
  induction hleft : l.input.length - l.pos using Nat.strongRecOn generalizing l with
  | ind left ih =>
    rcases next_cases hpos with ⟨t, hnext, hlt, hstop, hscan⟩ | ⟨hnext, hscan⟩ |
      ⟨cause, hnext, hscan⟩
    · have hshift (k : Nat) : l.answer (k + 1) = (⟨l.input, t.stop⟩ : Lexer).answer k := by
        rw [answer, after, hnext]
        rfl
      have hless : l.input.length - t.stop < left := by omega
      obtain ⟨ts, hlength, hts, hend⟩ := ih _ hless (l := ⟨l.input, t.stop⟩) hstop rfl
      refine ⟨t :: ts, by rw [List.length_cons]; omega, fun k hk => ?_, ?_⟩
      · cases k with
        | zero => exact congrArg Prod.fst hnext
        | succ k => rw [hshift, List.getElem?_cons_succ, hts k (Nat.lt_of_succ_lt_succ hk)]
      · rw [List.length_cons, hshift, Scan.tokens_of_token hscan]
        rcases hend with ⟨hanswer, htokens⟩ | ⟨e, hanswer, htokens⟩
        · exact .inl ⟨hanswer, congrArg _ htokens⟩
        · exact .inr ⟨e, hanswer, congrArg _ htokens⟩
    · exact ⟨[], Nat.zero_le _, fun k hk => absurd hk (Nat.not_lt_zero k),
        .inl ⟨congrArg Prod.fst hnext, Scan.tokens_of_done hscan⟩⟩
    · exact ⟨[], Nat.zero_le _, fun k hk => absurd hk (Nat.not_lt_zero k),
        .inr ⟨⟨l.input.length, cause⟩, congrArg Prod.fst hnext, Scan.tokens_of_failed hscan⟩⟩

end Lexer

/-- Over any number of calls, whatever earlier ones brought, a lexer never moves back or past the end
of its text.  A call that brings a token moves it on, to where the token stops.  An error is at the
end of the text, leaves the lexer there, and only the end comes after it, so there is at most one.
All tokens of the text, or all before its error, come within as many calls as it has bytes.  The
requests of a scan bring the same as these calls. -/
theorem lexer_progress (input : Text) :
    let l : Lexer := .start input
    (∀ k, (l.after k).pos ≤ (l.after (k + 1)).pos ∧ (l.after k).pos ≤ input.length) ∧
    (∀ k t, l.answer k = .ok (some t) →
      (l.after k).pos < (l.after (k + 1)).pos ∧ t.stop = (l.after (k + 1)).pos) ∧
    (∀ k e, l.answer k = .error e →
      e.pos = input.length ∧ (l.after (k + 1)).pos = input.length ∧
        ∀ m, k < m → l.answer m = .ok none) ∧
    (∀ j k d e, l.answer j = .error d → l.answer k = .error e → j = k) ∧
    (∃ ts : List Token, ts.length ≤ input.length ∧ (∀ k < ts.length, l.answer k = .ok ts[k]?) ∧
      (l.answer ts.length = .ok none ∧ tokenize input = .ok ts ∨
        ∃ e, l.answer ts.length = .error e ∧ tokenize input = .error e)) ∧
    ∀ n, (Scan.steps n (Scan.start input)).map Scan.Step.answer = (List.range n).map l.answer := by
  intro l
  have hstart : l.pos ≤ l.input.length := Nat.zero_le _
  have hmoves (k : Nat) := l.after_moves hstart k
  have herror (k : Nat) (e : LexError) (h : l.answer k = .error e) := Lexer.answer_of_error hstart h
  refine ⟨fun k => ⟨(hmoves k).1, (l.after_le hstart k).2⟩, fun k t ht => (hmoves k).2 t ht, herror,
    fun j k d e hj hk => ?_, Lexer.exists_tokens hstart, Lexer.steps_rest hstart⟩
  rcases Nat.lt_trichotomy j k with hlt | heq | hlt
  · have hdone := (herror j d hj).2.2 k hlt
    rw [hk] at hdone
    cases hdone
  · exact heq
  · have hdone := (herror k e hk).2.2 j hlt
    rw [hj] at hdone
    cases hdone

/-- In `ab 'c` there is a word, and then a literal without its closing quote. -/
theorem lexer_progress_unclosed :
    let input : Text := "ab 'c"
    let l : Lexer := .start input
    let e : LexError := ⟨5, .unclosedQuote (byte '\'')⟩
    l.answer 0 = .ok (some ⟨"ab", 2⟩) ∧ (l.after 0).pos < (l.after 1).pos ∧ 2 = (l.after 1).pos ∧
      l.answer 1 = .error e ∧ e.pos = input.length ∧ (l.after 2).pos = input.length ∧
      (∀ m, 1 < m → l.answer m = .ok none) ∧ tokenize input = .error e := by
  intro input l e
  have hword : l.answer 0 = .ok (some ⟨"ab", 2⟩) := by decide +kernel
  have herror : l.answer 1 = .error e := by decide +kernel
  obtain ⟨-, htoken, hlast, -⟩ := lexer_progress input
  obtain ⟨hlt, hstop⟩ := htoken 0 _ hword
  obtain ⟨hpos, hend, hdone⟩ := hlast 1 e herror
  exact ⟨hword, hlt, hstop, herror, hpos, hend, hdone, by decide +kernel⟩

end TagFilter
