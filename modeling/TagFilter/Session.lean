import TagFilter.Context
import TagFilter.Tree.Dump

/-!
# Sessions

A session evaluates lines one by one.  A line is an expression to be rendered, unless its first word
is a dot command: a dot and one or more ASCII letters.  The store is opened when it is first needed.
-/

namespace TagFilter

/-- A session between two lines. -/
structure Session where
  context : Context
  folder : Folder
  statement : Text
  store? : Option Store := none

/-- What a line leads to: the session after it, what it prints, and whether the session ends. -/
structure Reply where
  session : Session
  output : Output := {}
  quit : Bool := false

namespace Session

/-- A new session. -/
def start (c : Context) (folder : Folder) : Session := ⟨c, folder, c.settings.statement, none⟩

/-- Whether a byte is an ASCII letter. -/
def isLetterByte (b : UInt8) : Bool :=
  (byte 'a' ≤ b && b ≤ byte 'z') || (byte 'A' ≤ b && b ≤ byte 'Z')

/-- Whether a word is a dot command. -/
def isDotCommand : Text → Bool
  | [] => false
  | b :: rest => b == byte '.' && !rest.isEmpty && rest.all isLetterByte

/-- The help. -/
def help : Text := "
Commands:
  <expression>          Render the expression as SQL
  .sql <expression>     Same as above
  .tokens <expression>  Show the tokens of an expression
  .tree <expression>    Show the operator tree as XML
  .json <expression>    Show the operator tree as JSON
  .run <expression>     Run the expression against the entry store
  .lint <expression>    Report predicates that differ from the expression
  .prefix [statement]   Show or change the statement prefix
  .help                 Show this help message
  .quit / .exit         Exit the shell

Tips:
  - Use arrow keys to navigate history
  - Tab completes dot commands
"

/-- Where the session reports. -/
def console (s : Session) : Console := s.context.console

/-- Compiles an expression and goes on with its tree, or shows what is wrong with it. -/
def withTree (s : Session) (expr : Text) (next : Tree → Reply) : Reply :=
  match compile expr with
  | .ok t => next t
  | .error e => ⟨s, s.console.diagnose expr (.ofCompile e), false⟩

/-- Renders an expression. -/
def render (s : Session) (expr : Text) : Reply :=
  s.withTree expr fun t => ⟨s, .line (s.context.sniffer.render s.statement t), false⟩

/-- Shows the tokens of an expression. -/
def tokens (s : Session) (expr : Text) : Reply :=
  match tokenize expr with
  | .ok ts => ⟨s, s.console.table (Context.tokenTable ts), false⟩
  | .error e => ⟨s, s.console.diagnose expr (.ofCompile (.lex e)), false⟩

/-- The session with its store opened, and the log. -/
def opened (s : Session) : Except StoreError (Session × Store × Output) :=
  match s.store? with
  | some store => .ok (s, store, {})
  | none => do
    let (store, folder, log) ← s.context.openStore s.folder
    return ({ s with folder := folder, store? := some store }, store, log)

/-- Runs an expression against the store. -/
def run (s : Session) (expr : Text) : Reply :=
  s.withTree expr fun t =>
    match s.opened with
    | .error e => ⟨s, s.console.failure e.message, false⟩
    | .ok (s, store, log) =>
      match s.context.query store (s.context.sniffer.render s.statement t) with
      | .error e => ⟨s, log ++ s.console.failure e.message, false⟩
      | .ok (table, queryLog) => ⟨s, log ++ queryLog ++ s.console.table table, false⟩

/-- Lints an expression. -/
def lint (s : Session) (expr : Text) : Reply :=
  s.withTree expr fun t =>
    match s.context.settings.lintConfig with
    | .error p => ⟨s, s.console.failure p.message, false⟩
    | .ok config =>
      let (ds, log) := s.context.lint config .hint t
      ⟨s, log ++ s.console.lintLines ds, false⟩

/-- Goes on with the expression after a dot command, or asks for it. -/
def withExpression (s : Session) (command expr : Text) (next : Text → Reply) : Reply :=
  if expr.isEmpty then ⟨s, s.console.failure ("Usage: " ++ command ++ " <expression>"), false⟩
  else next expr

/-- Evaluates a dot command. -/
def dotCommand (s : Session) (command rest : Text) : Reply :=
  let name := command.toLower
  let is (w : String) : Bool := name == Text.ofString w
  if is ".quit" || is ".exit" then ⟨s, {}, true⟩
  else if is ".help" then ⟨s, .line help, false⟩
  else if is ".sql" then s.withExpression command rest s.render
  else if is ".tokens" then s.withExpression command rest s.tokens
  else if is ".tree" then
    s.withExpression command rest fun expr => s.withTree expr fun t => ⟨s, .print t.toXml, false⟩
  else if is ".json" then
    s.withExpression command rest fun expr =>
      s.withTree expr fun t => ⟨s, .print t.toJson.write, false⟩
  else if is ".run" then s.withExpression command rest s.run
  else if is ".lint" then s.withExpression command rest s.lint
  else if is ".prefix" then
    let s := if rest.isEmpty then s else { s with statement := rest }
    ⟨s, .line s.statement, false⟩
  else
    ⟨s, s.console.failure ("Unknown command: " ++ command ++ " (type .help for commands)"), false⟩

/-- Evaluates a line. -/
def eval (s : Session) (line : Text) : Reply :=
  let line := line.trim
  let (command, rest) := line.cut (byte ' ')
  if line.isEmpty then ⟨s, {}, false⟩
  else if isDotCommand command then s.dotCommand command (rest.getD []).trim
  else s.render line

/-- Evaluates lines until one ends the session: the session after them and what they print. -/
def evalAll (s : Session) : List Text → Session × Output
  | [] => (s, {})
  | line :: lines =>
    let reply := s.eval line
    if reply.quit then (reply.session, reply.output)
    else
      let (after, output) := reply.session.evalAll lines
      (after, reply.output ++ output)

/-! ## Typed input -/

/-- The lines that are typed, after the start of one: a newline ends a line, an interrupt takes back
what was typed of it, and an end of input on an empty line ends them all. -/
def typedLines (line : Text) : Text → List Text
  | [] => if line.isEmpty then [] else [line]
  | b :: rest =>
    if b = byte '\n' ∨ b = byte '\r' then line :: typedLines [] rest
    else if b = 3 then typedLines [] rest
    else if b = 4 then if line.isEmpty then [] else typedLines line rest
    else typedLines (line ++ [b]) rest

/-- What a session says first. -/
def banner (s : Session) : Output :=
  .line (s.console.style "eavexpr shell") ++
    s.console.muted "Type an expression to render it, .help for commands, .quit to exit" ++ .line []

/-- The whole of a session on typed input. -/
def evalInput (s : Session) (input : Text) : Session × Output :=
  let (after, output) := s.evalAll (typedLines [] input)
  (after, s.banner ++ output)

end Session

end TagFilter
