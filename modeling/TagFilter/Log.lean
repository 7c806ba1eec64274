import TagFilter.Report.Console
import TagFilter.Text.Blank
import TagFilter.Text.Quoted

/-!
# Logs

A log line holds a level, a message and named values.  A `Logger` passes on the lines that are grave
enough and sends them to the errors.
-/

namespace TagFilter

/-- How grave a log line is. -/
inductive LogLevel where
  | debug
  | info
  | warn
  | error
  deriving DecidableEq, Repr

namespace LogLevel

/-- The levels, the least grave first. -/
def all : List LogLevel := [debug, info, warn, error]

/-- The place of a level, the least grave being 0. -/
def rank : LogLevel → Nat
  | debug => 0
  | info => 1
  | warn => 2
  | error => 3

/-- The name of a level in settings. -/
def name : LogLevel → String
  | debug => "debug"
  | info => "info"
  | warn => "warn"
  | error => "error"

/-- The name of a level in log lines. -/
def label : LogLevel → String
  | debug => "DEBUG"
  | info => "INFO"
  | warn => "WARN"
  | error => "ERROR"

/-- The level of a name, whatever its letter case. -/
def ofName? (t : Text) : Option LogLevel := all.find? fun l => (l.name : Text) == t.toLower

end LogLevel

/-- Passes on lines from a level on; without a level it passes on nothing. -/
structure Logger where
  threshold? : Option LogLevel := none
  deriving DecidableEq, Repr

namespace Logger

/-- Whether lines of a level are passed on. -/
def passes (l : Logger) (level : LogLevel) : Bool :=
  (l.threshold?.map fun threshold => decide (threshold.rank ≤ level.rank)).getD false

/-- Whether a character keeps a value from being written without quotes. -/
def forcesQuotes (piece : Char × Text) : Bool :=
  let n := piece.1.toNat
  if n < 0x80 then n ≤ 0x20 || n == 0x22 || n == 0x3D
  else piece.1 == Text.replacement || Text.isBlank piece.1 || !Text.isPrintable piece.1

/-- A value in a log line. -/
def value (t : Text) : Text := if t.isEmpty || t.pieces.any forcesQuotes then t.quoted else t

/-- A log line. -/
def log (l : Logger) (level : LogLevel) (message : Text) (values : List (String × Text)) :
    Output :=
  if l.passes level then
    .errorLine ("level=" ++ level.label ++ " msg=" ++ value message ++
      values.flatMap fun (name, v) => (" " ++ name ++ "=" ++ value v : Text))
  else {}

/-- A log line on what is going on inside. -/
def debug (l : Logger) (message : Text) (values : List (String × Text)) : Output :=
  l.log .debug message values

/-- A log line on what has been done. -/
def info (l : Logger) (message : Text) (values : List (String × Text)) : Output :=
  l.log .info message values

end Logger

end TagFilter
