import TagFilter.Command.Run
import TagFilter.Proofs.Batch
import TagFilter.Proofs.Trim

/-!
# One expression, however it arrives

An argument is compiled as it is; standard input, a line of a batch and a line of a session are
trimmed first.  On a framed line that makes no difference (`trim_keeps_meaning_iff`).  In a session
a line might also be taken for a dot command, but no expression starts with one
(`compile_of_dotCommand`): the lexer makes the dot a token of its own, and it is no operand.
-/

namespace TagFilter

open Grammar

/-! ## Dot commands -/

theorem Text.cut_prefix (b : UInt8) (t : Text) : (t.cut b).1 <+: t := by
  induction t with
  | nil => exact List.prefix_rfl
  | cons c t ih =>
    unfold Text.cut
    by_cases hc : c = b
    · rw [if_pos hc]
      exact List.nil_prefix
    · rw [if_neg hc]
      exact List.cons_prefix_cons.2 ⟨rfl, ih⟩

theorem Session.isDigitByte_of_isLetterByte {b : UInt8} (h : isLetterByte b = true) :
    Text.isDigitByte b = false := by
  simp only [isLetterByte, Bool.or_eq_true, Bool.and_eq_true, decide_eq_true_eq,
    UInt8.le_iff_toNat_le] at h
  have hlow : 65 ≤ b.toNat := by
    rcases h with h | h
    · exact Nat.le_trans (by decide) h.1
    · exact Nat.le_trans (by decide) h.1
  simp only [Text.isDigitByte, Bool.and_eq_false_iff, decide_eq_false_iff_not,
    UInt8.le_iff_toNat_le]
  have hnine : (byte '9').toNat = 57 := rfl
  omega

theorem Session.exists_of_isDotCommand {word : Text} (h : isDotCommand word = true) :
    ∃ b rest, word = Token.dot :: b :: rest ∧ Text.isDigitByte b = false := by
  cases word with
  | nil => cases h
  | cons a rest =>
    simp only [isDotCommand, Bool.and_eq_true, beq_iff_eq] at h
    obtain ⟨⟨rfl, hne⟩, hall⟩ := h
    cases rest with
    | nil => cases hne
    | cons b rest =>
      rw [List.all_cons, Bool.and_eq_true] at hall
      exact ⟨b, rest, rfl, isDigitByte_of_isLetterByte hall.1⟩

/-- A dot before something other than a digit is a token. -/
theorem tokenize_dot {b : UInt8} {t : Text} (hb : Text.isDigitByte b = false) {ts : List Token}
    (h : tokenize (Token.dot :: b :: t) = .ok ts) : ∃ us, ts = ⟨[Token.dot], 1⟩ :: us := by
  have hmove : Token.move .nothing Token.dot (b :: t) = .symbol := by
    simp [Token.move, Token.startsWithDigit, hb, Token.isSpace, Token.isDelimiter,
      Token.isDoubling, Token.dot, Token.backslash, byte]
  have hread : Token.read Token.dot (b :: t) = .ok ([Token.dot], b :: t) :=
    Token.read_of_word (by decide) (Token.word_symbol hmove)
  have hskip : Token.skipSpaces (Token.dot :: b :: t) = Token.dot :: b :: t := rfl
  have hnext : (Scan.start (Token.dot :: b :: t)).next = .token ⟨[Token.dot], 1⟩ ⟨1, b :: t⟩ := by
    simp [Scan.next, Scan.start, hskip, hread]
  rw [tokenize, Scan.tokens_of_token hnext] at h
  cases hafter : (⟨1, b :: t⟩ : Scan).tokens with
  | error e =>
    rw [hafter] at h
    cases h
  | ok us =>
    rw [hafter] at h
    cases h
    exact ⟨us, rfl⟩

theorem compile_of_dotCommand {line : Text}
    (h : Session.isDotCommand (line.cut (byte ' ')).1 = true) (t : Tree) :
    compile line ≠ .ok t := by
  intro hline
  obtain ⟨b, rest, hcommand, hb⟩ := Session.exists_of_isDotCommand h
  obtain ⟨tail, htail⟩ := line.cut_prefix (byte ' ')
  obtain ⟨ts, u, hts, hderives, -⟩ := compile_eq_ok_iff.1 hline
  rw [← htail, hcommand] at hts
  obtain ⟨us, rfl⟩ := tokenize_dot hb hts
  obtain ⟨w, vs, hwords, hw⟩ := hderives.first_word
  obtain ⟨rfl, -⟩ := List.cons.inj hwords
  have hmember : Operator.ofSpelling? [Token.dot] = some .member := by decide +kernel
  rw [Means, hmember] at hw
  rcases hw with hw | hw <;> cases hw

/-! ## Statements -/

/-- Prints the statement of a tree, as text. -/
def Program.printStatement (c : Context) (t : Tree) : Run Unit := do
  Run.emit (c.logger.debug "expression compiled" [("tree", t.show), ("depth", Text.ofNat t.depth)])
  Run.emit (.line (c.sniffer.render c.settings.statement t))

/-- A line gives the statement of a tree, however it reaches the program: as an argument, as the
input, as a line of a batch that is no comment, or as a line of a session. -/
structure Text.GivesStatement (line : Text) (t : Tree) : Prop where
  argument : ∀ (c : Context) (input : Text), c.console.effectiveMode = .text →
    Program.render c [line] input = Program.printStatement c t
  input : ∀ c : Context, c.console.effectiveMode = .text →
    Program.render c [] line = Program.printStatement c t
  batch : ∀ (s : Sniffer) (statement text : Text) (items : List Batch.Item),
    Batch.read text = .ok items → line ∈ Batch.lines text →
    line.trim.head? ≠ some (byte '#') → ∃ item ∈ items, item.expression = line.trim ∧
      (Batch.renderItem s statement item).outcome = .ok (s.render statement t)
  session : ∀ s : Session,
    s.eval line = ⟨s, .line (s.context.sniffer.render s.statement t), false⟩

theorem Program.render_of_compile {c : Context} {words : List Text} {input expr : Text} {t : Tree}
    (hexpr : expression words input = .ok expr) (ht : compile expr = .ok t)
    (hmode : c.console.effectiveMode = .text) : render c words input = printStatement c t := by
  unfold render compiled printStatement
  rw [hexpr]
  simp only [Run.ofExcept, ht, hmode, pure_bind, bind_assoc]

theorem compile_nil (t : Tree) : compile [] ≠ .ok t := by
  intro h
  obtain ⟨ts, u, hts, hderives, -⟩ := compile_eq_ok_iff.1 h
  obtain rfl := Except.ok.inj (hts.symm.trans (tokenize_of_blank (t := []) (by simp [Token.Blank])))
  exact hderives.ne_nil rfl

theorem Session.eval_of_compile (s : Session) {line : Text} {t : Tree}
    (h : compile line.trim = .ok t) :
    s.eval line = ⟨s, .line (s.context.sniffer.render s.statement t), false⟩ := by
  have hne : line.trim ≠ [] := fun hnil => compile_nil t (hnil ▸ h)
  have hcommand : isDotCommand (line.trim.cut (byte ' ')).1 = false := by
    cases hdot : isDotCommand (line.trim.cut (byte ' ')).1 with
    | false => rfl
    | true => exact absurd h (compile_of_dotCommand hdot t)
  simp only [eval, List.isEmpty_iff, hne, hcommand, render, withTree, h]
  rfl

theorem Batch.items_of_read {text : Text} {items : List Item} (h : read text = .ok items) :
    items = itemsFrom 1 (lines text) := by
  unfold read at h
  simp only at h
  split at h
  · cases h
  · cases h
    rfl

theorem Text.Framed.givesStatement {line : Text} (h : line.Framed) {t : Tree}
    (ht : compile line = .ok t) : line.GivesStatement t where
  argument c input hmode := by
    have hexpr : Program.expression [line] input = .ok line := rfl
    exact Program.render_of_compile hexpr ht hmode
  input c hmode := by
    have htrim := (h.compile_iff t).2 ht
    have hne : line.trim ≠ [] := fun hnil => compile_nil t (hnil ▸ htrim)
    have hexpr : Program.expression [] line = .ok line.trim := by
      simp [Program.expression, hne]
    exact Program.render_of_compile hexpr htrim hmode
  batch s statement text items hitems hline hcomment := by
    have htrim := (h.compile_iff t).2 ht
    have hne : line.trim ≠ [] := fun hnil => compile_nil t (hnil ▸ htrim)
    obtain rfl := Batch.items_of_read hitems
    obtain ⟨k, hk⟩ := List.mem_iff_getElem?.1 hline
    refine ⟨⟨k + 1, line.trim⟩, ?_, rfl, ?_⟩
    · exact Batch.mem_itemsFrom.2
        ⟨Nat.le_add_left 1 k, line, hk, rfl, Batch.isExpression_iff.2 ⟨hne, hcomment⟩⟩
    · show (compile line.trim).map (s.render statement) = .ok (s.render statement t)
      rw [htrim]
      rfl
  session s := s.eval_of_compile ((h.compile_iff t).2 ht)

/-- A framed line compiles to what its trimmed form compiles to.  Among the lines without lopsided
tokens trimming is harmless for no others, except where neither form compiles.  A framed line that
compiles gives the same statement as an argument, as the input, in a batch and in a session. -/
theorem trim_keeps_meaning_iff (line : Text) :
    (line.Framed → ∀ t, compile line.trim = .ok t ↔ compile line = .ok t) ∧
      ((∀ ts, tokenize line = .ok ts → ∀ token ∈ ts, ¬ Lopsided token.text) →
        ((∀ t, compile line.trim = .ok t ↔ compile line = .ok t) ↔
          line.Framed ∨ ∀ t, compile line.trim ≠ .ok t ∧ compile line ≠ .ok t)) ∧
      (line.Framed → ∀ t, compile line = .ok t → line.GivesStatement t) := by
  refine ⟨fun h t => h.compile_iff t, fun hlopsided => ⟨fun hsame => ?_, ?_⟩,
    fun h t ht => h.givesStatement ht⟩
  · by_cases hcompiles : ∃ t, compile line = .ok t
    · obtain ⟨t, ht⟩ := hcompiles
      exact .inl (Text.framed_of_compile ht ((hsame t).2 ht) hlopsided)
    · rw [not_exists] at hcompiles
      exact .inr fun t => ⟨fun htrim => hcompiles t ((hsame t).1 htrim), hcompiles t⟩
  · rintro (hframed | hneither) t
    · exact hframed.compile_iff t
    · exact iff_of_false (hneither t).1 (hneither t).2

/-- Blanks around `a = 1` make no difference.  Behind a backslash the blank at the end is in the
value, and so is a vertical tab, which is a blank but no separator. -/
theorem trim_keeps_meaning_iff_escaped_blank :
    let framed : Text := " a = 1\t"
    let escaped : Text := "a = 1\\ "
    let tabbed : Text := "a = 1\x0b"
    let test (value : Text) : Tree := .op .eq (.leaf "a") (.leaf value)
    compile framed.trim = .ok (test "1") ∧ framed.GivesStatement (test "1") ∧
      compile escaped = .ok (test "1 ") ∧ (∀ t, compile escaped.trim ≠ .ok t) ∧ ¬ escaped.Framed ∧
      compile tabbed = .ok (test "1\x0b") ∧ compile tabbed.trim = .ok (test "1") ∧
      ¬ tabbed.Framed := by
  intro framed escaped tabbed test
  have hframed : framed.Framed := by
    refine ⟨" ", "\t", by decide +kernel, by decide +kernel, by decide +kernel, fun _ => ?_⟩
    rintro ⟨pos, hpos⟩
    have htokens : tokenize framed.trim = .ok [⟨"a", 1⟩, ⟨"=", 3⟩, ⟨"1", 5⟩] := by decide +kernel
    rw [htokens] at hpos
    cases hpos
  have ht : compile framed = .ok (test "1") := compile_of_toOption (by decide +kernel)
  have hescaped : compile escaped = .ok (test "1 ") := compile_of_toOption (by decide +kernel)
  have hopen : ∀ t, compile escaped.trim ≠ .ok t := by
    intro t h
    have hnone : (compile escaped.trim).toOption = none := by decide +kernel
    rw [h] at hnone
    cases hnone
  have htabbed : compile tabbed = .ok (test "1\x0b") := compile_of_toOption (by decide +kernel)
  have hshort : compile tabbed.trim = .ok (test "1") := compile_of_toOption (by decide +kernel)
  obtain ⟨hsame, -, hgives⟩ := trim_keeps_meaning_iff framed
  refine ⟨(hsame hframed _).2 ht, hgives hframed _ ht, hescaped, hopen, fun h => ?_, htabbed,
    hshort, fun h => ?_⟩
  · exact hopen _ (((trim_keeps_meaning_iff escaped).1 h _).2 hescaped)
  · have hsame := ((trim_keeps_meaning_iff tabbed).1 h _).1 hshort
    rw [htabbed] at hsame
    exact absurd (Except.ok.inj hsame) (by decide)

end TagFilter
