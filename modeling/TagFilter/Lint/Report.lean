import TagFilter.Lint.Rule
import TagFilter.Report.Table

/-!
# Reports of the linter

Diagnostics are shown as lines with a summary, as a table, or as JSON.
-/

namespace TagFilter

namespace Diagnostic

/-- A diagnostic as JSON. -/
def toJson (d : Diagnostic) : Json :=
  .obj [("rule_id", .str d.ruleId), ("name", .str d.name), ("severity", .str d.severity.name),
    ("message", .str d.message), ("node", .str d.node)]

/-- A diagnostic as a row of a table. -/
def cells (d : Diagnostic) : List Cell :=
  [.text d.ruleId, .text d.name, .text d.severity.name, .text d.message, .text d.node]

/-- The severity of a diagnostic and its rule, the severity filled up to seven characters. -/
def label (d : Diagnostic) : Text :=
  let name : Text := d.severity.name
  name ++ List.replicate (7 - name.length) (byte ' ') ++ " " ++ d.ruleId

end Diagnostic

/-- The number of diagnostics of a severity. -/
def countOf (severity : Severity) (ds : List Diagnostic) : Nat :=
  ds.countP fun d => d.severity == severity

/-- The numbers of diagnostics in one line. -/
def lintSummary (ds : List Diagnostic) : Text :=
  let count (s : Severity) : Text := Text.ofNat (countOf s ds)
  "Summary: " ++ count .error ++ " error(s), " ++ count .warning ++ " warning(s), " ++
    count .info ++ " info, " ++ count .hint ++ " hint(s)"

/-- The diagnostics of an expression as JSON. -/
def lintJson (expression : Text) (ds : List Diagnostic) : Json :=
  let count (s : Severity) : Json := .num (countOf s ds)
  .obj [("expression", .str expression), ("diagnostics", .arr (ds.map Diagnostic.toJson)),
    ("summary", .obj [("errors", count .error), ("warnings", count .warning),
      ("info", count .info), ("hints", count .hint)])]

namespace Console

/-- The line that says that nothing was found. -/
def lintClean (c : Console) : Output := c.success "No lint issues found"

/-- The diagnostics as lines, with a summary. -/
def lintLines (c : Console) (ds : List Diagnostic) : Output :=
  if ds.isEmpty then c.lintClean
  else
    .concat (ds.map fun d =>
      .line (c.style d.label ++ "  " ++ d.message) ++ c.muted ("        at " ++ d.node)) ++
      .line [] ++ .line (lintSummary ds)

/-- The diagnostics of an expression in the console's mode. -/
def lintReport (c : Console) (expression : Text) (ds : List Diagnostic) : Output :=
  match c.effectiveMode with
  | .json => .print (lintJson expression ds).write
  | .text => c.lintLines ds
  | _ =>
    if ds.isEmpty then c.lintClean
    else c.table ⟨["rule", "name", "severity", "message", "node"], ds.map Diagnostic.cells⟩

/-- Rules as a table. -/
def ruleTable (c : Console) (rules : List Rule) : Output :=
  c.table ⟨["id", "name", "group", "severity", "description"], rules.map fun r =>
    [.text r.id, .text r.name, .text r.group, .text r.severity.name, .text r.description]⟩

end Console

end TagFilter
