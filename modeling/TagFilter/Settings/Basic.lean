import TagFilter.Column
import TagFilter.Lint.Config
import TagFilter.Log

/-!
# Settings

What can be set: the statement before the condition, the date mask, how reports are laid out, what
is logged, where the history and the tags are kept, and how rules of the linter are changed.
`Settings.check` finds the first setting that cannot be used.
-/

namespace TagFilter

/-- What can be set; the defaults hold where nothing is. -/
structure Settings where
  statement : Text := "select * from entry_tags"
  dateMask : Text := Sniffer.defaultMask
  output : Text := "auto"
  verbose : Bool := false
  logLevel : Text := "warn"
  historyFile : Text := ".eavexpr/history"
  driver : Text := "sqlite"
  dsn : Text := ".eavexpr/entries.db"
  disabled : List Text := []
  severities : List (Text × Text) := []
  deriving DecidableEq, Repr

namespace Settings

/-- The names of the output modes, as they are listed. -/
def outputNames : List String := ["auto", "text", "json", "csv", "md", "markdown", "xml"]

/-- The names of the log levels. -/
def logLevelNames : List String := LogLevel.all.map LogLevel.name

/-- The names of the database drivers. -/
def driverNames : List String := ["sqlite", "pgx"]

/-- Whether a text is one of a list of names. -/
def isOneOf (names : List String) (t : Text) : Bool := names.any fun n => (n : Text) == t

/-- Why a setting cannot be used. -/
inductive Problem where
  | output (t : Text)
  | logLevel (t : Text)
  | driver (t : Text)
  | noDsn
  | dateMask (mask : Text) (cause : DateMask.Cause)
  | severity (e : LintConfig.BadSeverity)
  deriving Repr

/-- What to say of a name that is not in a list. -/
def unknownName (kind : String) (t : Text) (names : List String) : Text :=
  "unknown " ++ kind ++ " " ++ t.quoted ++ " (expected one of: " ++
    Text.join ", " (names.map Text.ofString) ++ ")"

/-- The problem in words. -/
def Problem.message : Problem → Text
  | output t => unknownName "output mode" t outputNames
  | logLevel t => unknownName "log level" t logLevelNames
  | driver t => unknownName "database driver" t driverNames
  | noDsn => "database.dsn is required"
  | dateMask mask cause => cause.message mask
  | severity e => "lint: " ++ e.message

/-- The sniffer of the date mask. -/
def sniffer (s : Settings) : Except Problem Sniffer :=
  (Sniffer.ofMask s.dateMask).mapError (.dateMask s.dateMask)

/-- How the rules of the linter are changed. -/
def lintConfig (s : Settings) : Except Problem LintConfig :=
  (LintConfig.ofLists s.disabled s.severities).mapError .severity

/-- Finds the first setting that cannot be used. -/
def check (s : Settings) : Except Problem Unit := do
  if !isOneOf outputNames s.output.toLower then throw (.output s.output)
  if !isOneOf logLevelNames s.logLevel.toLower then throw (.logLevel s.logLevel)
  if !isOneOf driverNames s.driver then throw (.driver s.driver)
  if s.dsn.isEmpty then throw .noDsn
  let _ ← s.sniffer
  let _ ← s.lintConfig

/-- The level from which lines are logged. -/
def level (s : Settings) : LogLevel :=
  if s.verbose then .debug else (LogLevel.ofName? s.logLevel).getD .warn

/-- The console for reports; `terminal` says whether the output is one. -/
def console (s : Settings) (terminal : Bool) : Console := ⟨OutputMode.ofName s.output, terminal⟩

/-! ## Environments -/

/-- The values of environment variables. -/
abbrev Environment := List (Text × Text)

/-- The start of the names of the variables that are settings. -/
def variablePrefix : Text := "EAVEXPR_"

/-- A text with every two underscores in a row made one point. -/
def dotted : Text → Text
  | [] => []
  | [b] => [b]
  | a :: b :: rest =>
    if a = byte '_' ∧ b = byte '_' then byte '.' :: dotted rest else a :: dotted (b :: rest)

/-- The setting that a variable stands for. -/
def keyOfVariable (name : Text) : Text :=
  dotted ((name.dropPrefix? variablePrefix).getD name).toLower

/-- The name between braces at the start of a text, if there is one. -/
def bracedName? (t : Text) : Option Text :=
  match t with
  | [] => none
  | b :: rest =>
    let name := rest.takeWhile (· != byte '\x7d')
    if b = byte '\x7b' ∧ !name.isEmpty ∧ name.length < rest.length then some name else none

/-- Replaces `$\x7bNAME\x7d` by the value of the variable after `skip` bytes; a variable without a
value is left as it stands. -/
def expandFrom (env : Environment) (skip : Nat) : Text → Text
  | [] => []
  | b :: rest =>
    match skip with
    | skip + 1 => expandFrom env skip rest
    | 0 =>
      match if b = byte '$' then bracedName? rest else none with
      | some name =>
        let value := (env.lookup name).getD []
        (if value.isEmpty then b :: byte '\x7b' :: name ++ [byte '\x7d'] else value) ++
          expandFrom env (name.length + 2) rest
      | none => b :: expandFrom env 0 rest

/-- Replaces `$\x7bNAME\x7d` by the value of the variable, where it has one. -/
def expand (env : Environment) (t : Text) : Text := expandFrom env 0 t

end Settings

end TagFilter
