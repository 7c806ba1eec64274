import Mathlib.Data.List.Forall2
import Mathlib.Data.List.Infix
import TagFilter.Batch.Watch
import TagFilter.Proofs.Pool

/-!
# Batches under every schedule

A text is its lines with newlines between them (`Batch.linesOf_lines`), and a batch with short lines
is read into the expressions that stand on them (`Batch.exists_items_of_short`).  They are rendered
by a pool with a task for each (`Batch.job`).  The pool may be cancelled, but it gives all results
or none: an answer that is no error is `Batch.render`, in the order of the file and whatever order
the tasks ran in.

Each result has a statement or an error but never both or none (`Batch.resultOf_renderItem`), so the
number of failures that a batch reports is the number of its expressions that do not compile.
-/

namespace TagFilter

/-! ## Lines -/

namespace Text

theorem splitOn_ne_nil (b : UInt8) (t : Text) : t.splitOn b ≠ [] := by
  cases t with
  | nil => simp [splitOn]
  | cons c rest =>
    unfold splitOn
    split
    · simp
    · split <;> simp

theorem splitOn_cons_self (b : UInt8) (t : Text) :
    splitOn b (b :: t) = [] :: splitOn b t := by
  rw [splitOn, if_pos rfl]

theorem splitOn_cons_ne {b c : UInt8} (h : c ≠ b) (t : Text) :
    ∃ piece pieces, splitOn b t = piece :: pieces ∧
      splitOn b (c :: t) = (c :: piece) :: pieces := by
  obtain ⟨piece, pieces, heq⟩ := List.exists_cons_of_ne_nil (splitOn_ne_nil b t)
  refine ⟨piece, pieces, heq, ?_⟩
  rw [splitOn, if_neg h, heq]

theorem join_cons {separator t : Text} {ts : List Text} (h : ts ≠ []) :
    join separator (t :: ts) = t ++ separator ++ join separator ts := by
  cases ts with
  | nil => exact absurd rfl h
  | cons => rfl

theorem join_splitOn (b : UInt8) (t : Text) : join [b] (splitOn b t) = t := by
  induction t with
  | nil => rfl
  | cons c t ih =>
    by_cases h : c = b
    · subst h
      rw [splitOn_cons_self, join_cons (splitOn_ne_nil c t), ih]
      rfl
    · obtain ⟨piece, pieces, heq, hcons⟩ := splitOn_cons_ne h t
      rw [heq] at ih
      rw [hcons, ← ih]
      cases pieces <;> rfl

theorem not_mem_of_mem_splitOn (b : UInt8) (t : Text) : ∀ piece ∈ splitOn b t, b ∉ piece := by
  induction t with
  | nil => simp [splitOn]
  | cons c t ih =>
    by_cases hc : c = b
    · subst hc
      rw [splitOn_cons_self, List.forall_mem_cons]
      exact ⟨List.not_mem_nil, ih⟩
    · obtain ⟨piece, pieces, heq, hcons⟩ := splitOn_cons_ne hc t
      rw [heq, List.forall_mem_cons] at ih
      rw [hcons, List.forall_mem_cons, List.mem_cons, not_or]
      exact ⟨⟨Ne.symm hc, ih.1⟩, ih.2⟩

theorem join_concat_nil {separator : Text} {ts : List Text} (h : ts ≠ []) :
    join separator (ts ++ [[]]) = join separator ts ++ separator := by
  induction ts with
  | nil => exact absurd rfl h
  | cons t ts ih =>
    cases ts with
    | nil => simp [join]
    | cons u ts =>
      have hne : u :: ts ≠ [] := List.cons_ne_nil u ts
      rw [List.cons_append, join_cons (by simp), ih hne, join_cons hne]
      simp only [List.append_assoc]

end Text

namespace Batch

/-- A text is some lines with newlines between them, and maybe one at the end. -/
structure LinesOf (t : Text) (ls : List Text) : Prop where
  newline : ∀ line ∈ ls, byte '\n' ∉ line
  text : t = Text.join "\n" ls ∨ t = Text.join "\n" ls ++ "\n"

theorem linesOf_lines (t : Text) : LinesOf t (lines t) := by
  have hjoin : Text.join "\n" (t.splitOn (byte '\n')) = t := Text.join_splitOn (byte '\n') t
  have hpieces := Text.not_mem_of_mem_splitOn (byte '\n') t
  by_cases hlast : (t.splitOn (byte '\n')).getLast? = some []
  · rw [lines, if_pos hlast]
    refine ⟨fun line hline => hpieces line (List.mem_of_mem_dropLast hline), ?_⟩
    have hsplit : (t.splitOn (byte '\n')).dropLast ++ [[]] = t.splitOn (byte '\n') :=
      List.dropLast_append_getLast? [] hlast
    by_cases hnil : (t.splitOn (byte '\n')).dropLast = []
    · left
      rw [hnil] at hsplit ⊢
      rw [← hsplit] at hjoin
      exact hjoin.symm
    · right
      rw [← hsplit, Text.join_concat_nil hnil] at hjoin
      exact hjoin.symm
  · rw [lines, if_neg hlast]
    exact ⟨hpieces, .inl hjoin.symm⟩

/-! ## Expressions -/

theorem isExpression_iff {t : Text} :
    isExpression t = true ↔ t ≠ [] ∧ t.head? ≠ some (byte '#') := by
  simp [isExpression]

theorem itemsFrom_cons (number : Nat) (line : Text) (rest : List Text) :
    itemsFrom number (line :: rest) =
      if isExpression line.trim then ⟨number, line.trim⟩ :: itemsFrom (number + 1) rest
      else itemsFrom (number + 1) rest := rfl

theorem mem_itemsFrom {number : Nat} {ls : List Text} {item : Item} :
    item ∈ itemsFrom number ls ↔ number ≤ item.line ∧ ∃ line, ls[item.line - number]? = some line ∧
      item.expression = line.trim ∧ isExpression line.trim = true := by
  induction ls generalizing number with
  | nil => simp [itemsFrom]
  | cons line rest ih =>
    have hfirst : item ∈ itemsFrom number (line :: rest) ↔
        (item = ⟨number, line.trim⟩ ∧ isExpression line.trim = true) ∨
          item ∈ itemsFrom (number + 1) rest := by
      rw [itemsFrom_cons]
      by_cases h : isExpression line.trim = true <;> simp [h]
    rw [hfirst, ih]
    constructor
    · rintro (⟨rfl, h⟩ | ⟨hlt, l, hl, hitem⟩)
      · exact ⟨Nat.le_refl _, line, by simp, rfl, h⟩
      · have hindex : item.line - number = (item.line - (number + 1)) + 1 := by omega
        refine ⟨by omega, l, ?_, hitem⟩
        rw [hindex, List.getElem?_cons_succ]
        exact hl
    · rintro ⟨hle, l, hl, hexpression, h⟩
      by_cases heq : item.line = number
      · left
        obtain ⟨n, expression⟩ := item
        obtain rfl : n = number := heq
        rw [Nat.sub_self, List.getElem?_cons_zero] at hl
        obtain rfl := Option.some.inj hl
        obtain rfl : expression = line.trim := hexpression
        exact ⟨rfl, h⟩
      · right
        have hindex : item.line - number = (item.line - (number + 1)) + 1 := by omega
        rw [hindex, List.getElem?_cons_succ] at hl
        exact ⟨by omega, l, hl, hexpression, h⟩

theorem pairwise_itemsFrom (number : Nat) (ls : List Text) :
    (itemsFrom number ls).Pairwise fun a b => a.line < b.line := by
  induction ls generalizing number with
  | nil => exact .nil
  | cons line rest ih =>
    rw [itemsFrom_cons]
    split
    · refine .cons ?_ (ih (number + 1))
      intro item hitem
      exact (mem_itemsFrom.1 hitem).1
    · exact ih (number + 1)

/-- Some items are the expressions of a text: for every line that holds one its number and the
expression, in the order of the lines. -/
structure ItemsOf (text : Text) (items : List Item) : Prop where
  linesOf : LinesOf text (lines text)
  ordered : items.Pairwise fun a b => a.line < b.line
  mem_iff : ∀ item, item ∈ items ↔ 1 ≤ item.line ∧ ∃ line,
    (lines text)[item.line - 1]? = some line ∧ item.expression = line.trim ∧
      line.trim ≠ [] ∧ line.trim.head? ≠ some (byte '#')

theorem exists_items_of_short {text : Text}
    (h : ∀ line ∈ lines text, line.length < lineLimit) :
    ∃ items, read text = .ok items ∧ ItemsOf text items := by
  have hshort : ((lines text).any fun l => decide (lineLimit ≤ l.length)) = false := by
    rw [List.any_eq_false]
    intro line hline
    have hlt := h line hline
    simp only [decide_eq_true_eq]
    omega
  refine ⟨itemsFrom 1 (lines text), ?_, linesOf_lines text, pairwise_itemsFrom 1 _, ?_⟩
  · rw [read, hshort]
    rfl
  · intro item
    rw [mem_itemsFrom]
    simp only [isExpression_iff]

/-! ## Results -/

theorem message_ne_nil (e : CompileError) : e.message ≠ [] := by
  have hlex : Text.ofString "lexer error at offset " ≠ [] := by decide
  have hsyntax : Text.ofString "syntax error at token " ≠ [] := by decide
  cases e with
  | lex e => simp [CompileError.message, LexError.message, hlex]
  | syntactic e => simp [CompileError.message, SyntaxError.message, hsyntax]

/-- A result is that of an expression: its statement, or why it has none. -/
structure ResultOf (s : Sniffer) (statement : Text) (i : Item) (r : Result) : Prop where
  item : r.toItem = i
  sql : ∀ t, compile i.expression = .ok t →
    r.sql = s.render statement t ∧ r.sql ≠ [] ∧ r.problem = []
  problem : ∀ e, compile i.expression = .error e →
    r.problem = e.message ∧ r.problem ≠ [] ∧ r.sql = []

theorem resultOf_renderItem (s : Sniffer) (statement : Text) (i : Item) :
    ResultOf s statement i (renderItem s statement i) := by
  have houtcome : (renderItem s statement i).outcome =
      (compile i.expression).map (s.render statement) := rfl
  refine ⟨rfl, fun t ht => ?_, fun e he => ?_⟩
  · rw [ht] at houtcome
    have hsql : (renderItem s statement i).sql = s.render statement t := by
      rw [Result.sql, houtcome]
      rfl
    have hproblem : (renderItem s statement i).problem = [] := by
      rw [Result.problem, houtcome]
      rfl
    have hwhere : Text.ofString " where " ≠ [] := by decide
    refine ⟨hsql, ?_, hproblem⟩
    rw [hsql]
    simp [Sniffer.render, hwhere]
  · rw [he] at houtcome
    have hproblem : (renderItem s statement i).problem = e.message := by
      rw [Result.problem, houtcome]
      rfl
    refine ⟨hproblem, hproblem ▸ message_ne_nil e, ?_⟩
    rw [Result.sql, houtcome]
    rfl

theorem ResultOf.failed {s : Sniffer} {statement : Text} {i : Item} {r : Result}
    (h : ResultOf s statement i r) : r.failed = !(compile i.expression).isOk := by
  cases hc : compile i.expression with
  | ok t =>
    rw [Result.failed, (h.sql t hc).2.2]
    rfl
  | error e =>
    have hne := (h.problem e hc).2.1
    simp [Result.failed, hne, Except.isOk, Except.toBool]

theorem failures_render (s : Sniffer) (statement : Text) (items : List Item) :
    failures (render s statement items) =
      items.countP fun i => !(compile i.expression).isOk := by
  rw [failures, render, List.countP_map]
  congr 1
  funext i
  exact (resultOf_renderItem s statement i).failed

/-! ## Schedules -/

/-- The number of expressions that are compiled at a time; without a positive number there is no
limit. -/
def limit? (jobs : Int) : Option ℕ+ :=
  if h : 0 < jobs then some ⟨jobs.toNat, by omega⟩ else none

/-- What the pool of a batch works on. -/
def job (s : Sniffer) (statement : Text) (jobs : Int) (items : List Item) : Job Item Result :=
  ⟨items, renderItem s statement, ⟨⟨0, []⟩, .ok []⟩, limit? jobs⟩

end Batch

theorem Context.renderFile_of_read (c : Context) {folder : Folder} {path text : Text}
    (hfile : folder.read path = .ok text) {items : List Batch.Item}
    (hitems : Batch.read text = .ok items) :
    c.renderFile folder path =
      c.reportBatch path (Batch.render c.sniffer c.settings.statement items) := by
  unfold renderFile
  unfold Folder.read at hfile
  cases haccess : folder.access path with
  | error e =>
    rw [haccess] at hfile
    cases hfile
  | ok u =>
    rw [haccess] at hfile
    have hcontent : folder.content path = .ok text := hfile
    simp only [hcontent, hitems]

open Batch in
theorem Context.reportBatch_failure (c : Context) (path : Text) (s : Sniffer) (statement : Text)
    (items : List Item) :
    (c.reportBatch path (render s statement items)).2.map Failure.message =
      if items.countP (fun i => !(compile i.expression).isOk) = 0 then none
      else some (Text.ofNat (items.countP fun i => !(compile i.expression).isOk) ++ " of " ++
        Text.ofNat items.length ++ " expressions failed") := by
  have hlength : (render s statement items).length = items.length := List.length_map _
  have hreport : (c.reportBatch path (render s statement items)).2 =
      if 0 < failures (render s statement items) then
        some ⟨failureMessage (render s statement items), none⟩
      else none := rfl
  rw [hreport, failureMessage, failures_render, hlength]
  by_cases h : items.countP (fun i => !(compile i.expression).isOk) = 0
  · rw [if_pos h, if_neg (by omega)]
    rfl
  · rw [if_neg h, if_pos (by omega)]
    rfl

open Batch in
/-- A batch with short lines is rendered alike under every schedule: its items are the expressions
of its lines, and a pool of tasks gives the result of each, in their order, unless it is cancelled.
The batch is reported from these results, and it fails exactly if an expression does not compile,
with the number of those. -/
theorem batch_any_schedule (c : Context) {folder : Folder} {path text : Text}
    (hfile : folder.read path = .ok text)
    (hshort : ∀ line ∈ lines text, line.length < lineLimit) (jobs : Int) :
    ∃ items results, read text = .ok items ∧ ItemsOf text items ∧
      List.Forall₂ (ResultOf c.sniffer c.settings.statement) items results ∧
      (∀ ε, (job c.sniffer c.settings.statement jobs items).Gives results ε) ∧
      c.renderFile folder path = c.reportBatch path results ∧
      (c.renderFile folder path).2.map Failure.message =
        if items.countP (fun i => !(compile i.expression).isOk) = 0 then none
        else some (Text.ofNat (items.countP fun i => !(compile i.expression).isOk) ++ " of " ++
          Text.ofNat items.length ++ " expressions failed") := by
  obtain ⟨items, hitems, hof⟩ := exists_items_of_short hshort
  have hreport := c.renderFile_of_read hfile hitems
  refine ⟨items, render c.sniffer c.settings.statement items, hitems, hof, ?_, ?_, hreport, ?_⟩
  · rw [render, List.forall₂_map_right_iff, List.forall₂_same]
    exact fun i _ => resultOf_renderItem c.sniffer c.settings.statement i
  · exact fun ε => (job c.sniffer c.settings.statement jobs items).gives_map ε
  · rw [hreport, Context.reportBatch_failure]

open Batch in
/-- A batch with a comment, a blank line and an expression that does not compile. -/
theorem batch_any_schedule_one_failure :
    let c : Context := ⟨{ statement := "q" }, Sniffer.default, ⟨.text, false⟩, {}⟩
    let folder := Folder.ofFiles [("f", "# filters\n a = 1\n\nb in (1")]
    let items : List Item := [⟨2, "a = 1"⟩, ⟨4, "b in (1"⟩]
    ∃ results, List.Forall₂ (ResultOf c.sniffer "q") items results ∧
      (∀ ε, (job c.sniffer "q" (-1) items).Gives results ε) ∧
      (c.renderFile folder "f").2.map Failure.message =
        some (Text.ofString "1 of 2 expressions failed") := by
  intro c folder items
  have hfile : folder.read "f" = .ok "# filters\n a = 1\n\nb in (1" := by decide +kernel
  have hread : read "# filters\n a = 1\n\nb in (1" = .ok items := by decide +kernel
  have hfailed : items.countP (fun i => !(compile i.expression).isOk) = 1 := by decide +kernel
  obtain ⟨found, results, hfound, -, hresults, hgives, -, hfailure⟩ :=
    batch_any_schedule c hfile (by decide +kernel) (-1)
  obtain rfl : items = found := Except.ok.inj (hread.symm.trans hfound)
  refine ⟨results, hresults, hgives, ?_⟩
  rw [hfailure, hfailed]
  decide +kernel

end TagFilter
