import TagFilter.Lint.Report
import TagFilter.Report.Caret
import TagFilter.Settings.Basic
import TagFilter.Store.Basic

/-!
# Contexts

A context is what every command works with: the settings, the sniffer of their date mask, the
console for reports and the logger.
-/

namespace TagFilter

/-- What every command works with. -/
structure Context where
  settings : Settings
  sniffer : Sniffer
  console : Console
  logger : Logger

namespace Context

/-- The log lines of a migration. -/
def migrationLog (c : Context) (migrated : Bool) : Output :=
  (if migrated then c.logger.debug "goose: no migrations to run. current version: 1" []
  else
    c.logger.debug "OK   00001_entry_tags.sql (0s)" [] ++
      c.logger.debug "goose: successfully migrated database to version: 1" []) ++
    c.logger.debug "migrations applied" []

/-- Opens the store of the settings and makes its tag table: the store, the folder and the log. -/
def openStore (c : Context) (folder : Folder) : Except StoreError (Store × Folder × Output) := do
  let (s, folder) ← Store.connect folder c.settings.driver c.settings.dsn
  let log := c.logger.debug "database opened"
    [("driver", c.settings.driver), ("dsn", c.settings.dsn)]
  let migrated := s.version.toOption == some 1
  let s ← s.migrate
  return (s, s.save folder, log ++ c.migrationLog migrated)

/-- Runs a statement: the table and the log. -/
def query (c : Context) (s : Store) (statement : Text) : Except StoreError (Table × Output) := do
  let t ← s.query statement
  return (t, c.logger.debug "query executed" [("rows", Text.ofNat t.rows.length)])

/-- The diagnostics of a tree that are grave enough, and the log. -/
def lint (c : Context) (config : LintConfig) (threshold : Severity) (t : Tree) :
    List Diagnostic × Output :=
  let ds := atLeast threshold (analyze config (some c.sniffer.classifier) t)
  (ds, c.logger.debug "expression linted" [("diagnostics", Text.ofNat ds.length)])

/-- The tokens of an expression as a table. -/
def tokenTable (tokens : List Token) : Table :=
  ⟨["index", "text", "end"], tokens.zipIdx.map fun (t, i) =>
    [.int (i : Nat), .text t.text, .int t.stop]⟩

end Context

end TagFilter
