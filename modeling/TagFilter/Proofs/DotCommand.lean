import TagFilter.Proofs.FrontEnds

/-!
# Dot commands and expressions

A line of a session is either a dot command or an expression.  No line is both: no expression starts
with a dot command (`compile_of_dotCommand`), so every line that compiles is rendered.  The command
`.sql` renders what follows it, and leaves the trimming of it to the session, which has trimmed the
end of the line before it cuts off the command (`Session.eval_sql`).
-/

namespace TagFilter

open Text

theorem Session.eval_sql (s : Session) {line : Text} (h : line.trim ≠ []) :
    s.eval (".sql " ++ line) = s.render line.trim := by
  have hsql : Text.ofString ".sql " = encode ['.', 's', 'q', 'l', ' '] := by
    decide +kernel
  have htrim : (Text.ofString ".sql " ++ line).trim = ".sql " ++ line.trimEnd := by
    rw [hsql, trim_encode_cons_append (by decide) _ h]
  have hcut : (Text.ofString ".sql " ++ line.trimEnd).cut (byte ' ') =
      (Text.ofString ".sql", some line.trimEnd) := rfl
  have hcommand : isDotCommand (Text.ofString ".sql") = true := by decide +kernel
  have hlower : (Text.ofString ".sql").toLower = ".sql" := by decide +kernel
  have hsome : (Text.ofString ".sql " ++ line.trimEnd).isEmpty = false := rfl
  have hrest : line.trim.isEmpty = false := Bool.eq_false_iff.2 fun hempty =>
    h (List.isEmpty_iff.1 hempty)
  -- The command is told first; what follows it is trimmed at its start now, at its end before.
  simp only [eval, htrim, hcut, hsome, hcommand, if_true, Bool.false_eq_true, if_false,
    Option.getD_some, trim_trimEnd]
  unfold dotCommand
  simp only [hlower]
  rw [if_neg (by decide +kernel), if_neg (by decide +kernel), if_pos (by decide +kernel),
    withExpression, hrest, if_neg Bool.false_ne_true]

/-- A line whose first word is a dot command does not compile.  So a line that compiles is rendered,
and gives the same reply with `.sql` in front of it. -/
theorem dotCommand_shadows_no_expression (line : Text) :
    (Session.isDotCommand (line.trim.cut (byte ' ')).1 = true →
      ∃ e, compile line.trim = .error e) ∧
    ∀ (s : Session) (t : Tree), compile line.trim = .ok t →
      s.eval line = ⟨s, .line (s.context.sniffer.render s.statement t), false⟩ ∧
        s.eval (".sql " ++ line) = s.eval line := by
  refine ⟨fun h => ?_, fun s t ht => ?_⟩
  · cases hline : compile line.trim with
    | ok t => exact absurd hline (compile_of_dotCommand h t)
    | error e => exact ⟨e, rfl⟩
  · have hne : line.trim ≠ [] := fun hnil => compile_nil t (hnil ▸ ht)
    have heval := s.eval_of_compile ht
    refine ⟨heval, ?_⟩
    rw [heval, s.eval_sql hne, Session.render, Session.withTree, ht]

/-- The line `.run a = 1` is a command and no expression; `.5 = x` is an expression and no command,
though it starts with a dot. -/
theorem dotCommand_shadows_no_expression_decimal :
    let s : Session := .start ⟨{ statement := "q" }, .default, ⟨.text, false⟩, {}⟩ {}
    let command : Text := "\t.run a = 1"
    let line : Text := " .5 = x\t"
    let t : Tree := .op .eq (.leaf ".5") (.leaf "x")
    Session.isDotCommand (command.trim.cut (byte ' ')).1 = true ∧
      (∃ e, compile command.trim = .error e) ∧
      compile line.trim = .ok t ∧
      s.context.sniffer.render s.statement t = "q where name = '.5' and str_value = x" ∧
      s.eval line = ⟨s, .line (s.context.sniffer.render s.statement t), false⟩ ∧
      s.eval (".sql " ++ line) = s.eval line := by
  intro s command line t
  have hcommand : Session.isDotCommand (command.trim.cut (byte ' ')).1 = true := by decide +kernel
  have ht : compile line.trim = .ok t := compile_of_toOption (by decide +kernel)
  exact ⟨hcommand, (dotCommand_shadows_no_expression command).1 hcommand, ht, by decide +kernel,
    (dotCommand_shadows_no_expression line).2 s t ht⟩

end TagFilter
