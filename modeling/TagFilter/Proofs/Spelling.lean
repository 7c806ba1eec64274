import Mathlib.Data.List.Forall2
import TagFilter.Proofs.Parse

/-!
# Spellings of operators

Two spellings of one operator may stand for each other wherever words are parsed
(`parse_respelled`).  Only names, literals and `null` are kept in the tree as they are written, so
the reader looks at the text of a word only where the word has no meaning of its own: every step of
it goes the same way for both spellings (`Respelled.step`), and so does the whole run.
-/

namespace TagFilter

open Grammar Parsing

/-- Two words are the same, or spell one operator that leaves no text in the tree. -/
def Respelled (w v : Text) : Prop := w = v ∨ ∃ o, o ≠ .null ∧ Means w o ∧ Means v o

namespace Respelled

variable {w v : Text}

theorem meaning (h : Respelled w v) : Operator.ofSpelling? w = Operator.ofSpelling? v := by
  rcases h with rfl | ⟨o, -, hw, hv⟩
  · rfl
  · rw [hw, hv]

theorem startOperand (h : Respelled w v) (stack : List Frame) :
    Parsing.startOperand w stack = Parsing.startOperand v stack := by
  rcases h with rfl | ⟨o, hnull, hw, hv⟩
  · rfl
  · unfold Parsing.startOperand
    rw [hw, hv]
    cases o with
    | null => exact absurd rfl hnull
    | _ => rfl

theorem afterSum (h : Respelled w v) (t : Tree) (stack : List Frame) :
    Parsing.afterSum t stack w = Parsing.afterSum t stack v := by
  unfold Parsing.afterSum
  rw [h.meaning]
  -- Only where an item without a comma may start is the word itself looked at again.
  simp only [h.startOperand]

theorem afterFactor (h : Respelled w v) (t : Tree) (stack : List Frame) :
    Parsing.afterFactor t stack w = Parsing.afterFactor t stack v := by
  unfold Parsing.afterFactor afterProduct
  rw [h.meaning]
  simp only [h.afterSum]

theorem afterValue (h : Respelled w v) (t : Tree) (isPath : Bool) (stack : List Frame) :
    Parsing.afterValue t isPath stack w = Parsing.afterValue t isPath stack v := by
  unfold Parsing.afterValue
  rw [h.meaning]
  simp only [h.afterFactor]

/-- An operator is no name after a dot, however it is spelled. -/
theorem step_memberName (h : Respelled w v) (base : Tree) (stack : List Frame) :
    (State.mk (.memberName base) stack).step w = (State.mk (.memberName base) stack).step v := by
  rcases h with rfl | ⟨o, -, hw, hv⟩
  · rfl
  · have hunquoted : ∀ {word : Text}, Means word o → isQuoted word = false := by
      intro word hword
      rw [Bool.eq_false_iff]
      intro hquoted
      have hnone := ofSpelling?_of_isQuoted hquoted
      rw [hword] at hnone
      cases hnone
    simp [State.step, hw, hv, hunquoted hw, hunquoted hv]

/-- The reader takes both words alike. -/
theorem step (h : Respelled w v) (s : State) : s.step w = s.step v := by
  obtain ⟨mode, stack⟩ := s
  cases mode with
  | operand => exact h.startOperand stack
  | value t isPath => exact h.afterValue t isPath stack
  | memberName base => exact h.step_memberName base stack
  | tested | isTest | isNotTest | negatedTest | listOpening =>
    simp only [State.step, h.meaning]

end Respelled

/-- What a syntax error says without the spelling of the blamed token. -/
def SyntaxError.place (e : SyntaxError) : Nat × SyntaxCause := (e.index, e.cause)

theorem Parsing.State.run_respelled {ws vs : List Text} (h : List.Forall₂ Respelled ws vs)
    (s : State) (i : Nat) :
    (s.run i ws).mapError SyntaxError.place = (s.run i vs).mapError SyntaxError.place := by
  induction h generalizing s i with
  | nil => rfl
  | @cons w v ws vs hword _ ih =>
    simp only [State.run, hword.step s]
    cases s.step v with
    | error cause => rfl
    | ok next => exact ih next (i + 1)

/-- Tokens that spell the same operators differently are parsed alike, wherever they end: into one
tree, or with a syntax error at one index and for one cause. -/
theorem parse_respelled {ts us : List Token}
    (h : List.Forall₂ (fun a b : Token => Respelled a.text b.text) ts us) :
    (∃ t, parse (ts.map Token.text) = .ok t ∧ parse (us.map Token.text) = .ok t) ∨
      ∃ e f, parse (ts.map Token.text) = .error e ∧ parse (us.map Token.text) = .error f ∧
        e.index = f.index ∧ e.cause = f.cause := by
  have hwords : List.Forall₂ Respelled (ts.map Token.text) (us.map Token.text) := by
    rw [List.forall₂_map_left_iff, List.forall₂_map_right_iff]
    exact h
  generalize ts.map Token.text = ws at hwords
  generalize us.map Token.text = vs at hwords
  cases hwords with
  | nil => exact .inr ⟨_, _, rfl, rfl, rfl, rfl⟩
  | @cons w v ws vs hword hrest =>
    have hrun := State.run_respelled (.cons hword hrest) State.start 0
    simp only [parse]
    cases hws : State.start.run 0 (w :: ws) <;> cases hvs : State.start.run 0 (v :: vs) <;>
      rw [hws, hvs] at hrun
    case ok.ok t u =>
      obtain rfl : t = u := Except.ok.inj hrun
      exact .inl ⟨_, rfl, rfl⟩
    case error.error e f =>
      have hplace : e.place = f.place := Except.error.inj hrun
      exact .inr ⟨e, f, rfl, rfl, congrArg Prod.fst hplace, congrArg Prod.snd hplace⟩
    all_goals cases hrun

set_option maxRecDepth 4000 in
/-- `a <> 1 & b` and `a != 1 AND b` have one tree. -/
theorem parse_respelled_ampersand :
    let ts : List Token := [⟨"a", 1⟩, ⟨"<>", 4⟩, ⟨"1", 6⟩, ⟨"&", 8⟩, ⟨"b", 10⟩]
    let us : List Token := [⟨"a", 3⟩, ⟨"!=", 7⟩, ⟨"1", 8⟩, ⟨"AND", 12⟩, ⟨"b", 14⟩]
    List.Forall₂ (fun a b : Token => Respelled a.text b.text) ts us ∧
      ∃ t, parse (ts.map Token.text) = .ok t ∧ parse (us.map Token.text) = .ok t := by
  intro ts us
  have h : List.Forall₂ (fun a b : Token => Respelled a.text b.text) ts us :=
    .cons (.inl rfl) (.cons (.inr ⟨.ne, by decide, rfl, rfl⟩) (.cons (.inl rfl)
      (.cons (.inr ⟨.and, by decide, rfl, rfl⟩) (.cons (.inl rfl) .nil))))
  refine ⟨h, ?_⟩
  obtain hok | ⟨e, f, he, -⟩ := parse_respelled h
  · exact hok
  · have htree : parse (ts.map Token.text) =
        .ok (.op .and (.op .ne (.leaf "a") (.leaf "1")) (.leaf "b")) := rfl
    rw [htree] at he
    cases he

end TagFilter
