import TagFilter.Batch.Watch
import TagFilter.Command.Basic
import TagFilter.Session
import TagFilter.Settings.Load

/-!
# Running commands

`Program.start` runs a command line on a folder.  What it prints and how it changes the folder stays
when it fails.  Most commands are done when they return; a session and a watch go on with further
input, which `Program.run` and the callers of `Watch` supply.
-/

namespace TagFilter

/-- What a command has done so far: the folder, the number of ids given, and what was printed. -/
structure Progress where
  folder : Folder
  issued : Nat := 0
  output : Output := {}

/-- Something a command does: it may fail, and its progress stays. -/
abbrev Run := ExceptT Failure (StateM Progress)

/-- How a command ends. -/
inductive Ending where
  | done
  | session (s : Session)
  | watching (w : Watch)

namespace Run

/-- Prints something. -/
def emit (o : Output) : Run Unit := modify fun p => { p with output := p.output ++ o }

/-- Fails. -/
def fail {α : Type} (f : Failure) : Run α := throw f

/-- Goes on with a result, or fails. -/
def ofExcept {ε α : Type} (wrap : ε → Failure) (e : Except ε α) : Run α :=
  match e with
  | .ok a => pure a
  | .error problem => throw (wrap problem)

/-- The folder as it is now. -/
def folder : Run Folder := return (← get).folder

/-- Changes the folder. -/
def setFolder (f : Folder) : Run Unit := modify fun p => { p with folder := f }

end Run

namespace Program

open Run

/-! ## Parts of commands -/

/-- The expression in the words of a command line or, if there are none, in the input. -/
def expression (words : List Text) (input : Text) : Except Failure Text :=
  let expr := input.trim
  if !words.isEmpty then .ok (Text.join " " words)
  else if expr.isEmpty then
    .error "expression required (pass it as an argument or pipe it on stdin)"
  else .ok expr

/-- Compiles an expression, or shows what is wrong with it. -/
def compiled (c : Context) (expr : Text) : Run Tree :=
  match compile expr with
  | .ok t => do
    emit (c.logger.debug "expression compiled" [("tree", t.show), ("depth", Text.ofNat t.depth)])
    return t
  | .error e => do
    emit (c.console.diagnose expr (.ofCompile e))
    fail ((Failure.ofCompile e).wrap "failed to compile expression: ")

/-- Opens the store of the settings. -/
def openStore (c : Context) : Run Store := do
  let (s, folder, log) ← ofExcept (fun e => (e.message : Failure)) (c.openStore (← folder))
  setFolder folder
  emit log
  return s

/-- A part of a markdown document about an expression. -/
def markdown (title expr language code : Text) : Output :=
  .line (Console.heading 1 title) ++ .line [] ++
    .line (Console.keyValue "Expression" ("`" ++ expr ++ "`")) ++ .line [] ++
    .line (Console.codeBlock language code)

/-! ## Commands -/

/-- Shows the version. -/
def version (number : Text) : Run Unit :=
  emit (.line ("eavexpr v" ++ number) ++ .line "Filter expression compiler for EAV tables")

/-- The operators as a table. -/
def operatorTable : Table :=
  let operators := (Operator.all.drop 1).takeWhile (· != .leftParen)
  ⟨["tag", "arity", "sql", "spellings"], operators.map fun o =>
    [.text o.name, .text (if o.isUnary then "unary" else "binary"), .text (o.symbol?.getD ""),
     .text (Text.join " " (o.spellingsOf.map Text.ofString))]⟩

/-- Shows the tokens of an expression, or the operators. -/
def tokens (c : Context) (flags : FlagValues) (words : List Text) (input : Text) : Run Unit := do
  if flags.isOn "operators" then emit (c.console.table operatorTable)
  else
    let expr ← ofExcept id (expression words input)
    match tokenize expr with
    | .ok ts => emit (c.console.table (Context.tokenTable ts))
    | .error e =>
      emit (c.console.diagnose expr (.ofCompile (.lex e)))
      fail ((Failure.ofCompile (.lex e)).wrap "failed to tokenize expression: ")

/-- Shows the tree of an expression. -/
def parse (c : Context) (words : List Text) (input : Text) : Run Unit := do
  let expr ← ofExcept id (expression words input)
  let t ← compiled c expr
  emit (match c.console.effectiveMode with
    | .json => .print t.toJson.write
    | .markdown => markdown "Expression Tree" expr "xml" t.toXml
    | _ => .print t.toXml)

/-- Shows the statement of an expression. -/
def render (c : Context) (words : List Text) (input : Text) : Run Unit := do
  let expr ← ofExcept id (expression words input)
  let t ← compiled c expr
  let sql := c.sniffer.render c.settings.statement t
  emit (match c.console.effectiveMode with
    | .json => .print (Json.obj [("expression", .str expr), ("tree", .str t.show),
        ("sql", .str sql)]).write
    | .markdown => markdown "Rendered SQL" expr "sql" sql
    | _ => .line sql)

/-- Shows the rules of the linter, or those of a group. -/
def rules (c : Context) (group : Text) : Run Unit := do
  let rules := Rule.inGroup group
  if rules.isEmpty then fail ("unknown rule group " ++ group.quoted : Text)
  emit (c.console.ruleTable rules)

/-- Lints an expression. -/
def lint (c : Context) (flags : FlagValues) (words : List Text) (input : Text) : Run Unit := do
  if flags.isOn "list" then rules c ((flags.text? "group").getD [])
  else
    let name := (flags.text? "severity").getD "hint"
    match Severity.ofName? name with
    | none => fail (Severity.unknownMessage name)
    | some threshold =>
      let config ← ofExcept (fun p => (p.message : Failure)) c.settings.lintConfig
      let config := (flags.texts "disable").foldl LintConfig.disable config
      let expr ← ofExcept id (expression words input)
      let t ← compiled c expr
      let (ds, log) := c.lint config threshold t
      emit (log ++ c.console.lintReport expr ds)
      if !ds.isEmpty then fail "lint issues found"

/-- Runs an expression against the store. -/
def query (c : Context) (flags : FlagValues) (words : List Text) (input : Text) : Run Unit := do
  let expr ← ofExcept id (expression words input)
  let t ← compiled c expr
  let statement := c.sniffer.render c.settings.statement t
  if flags.isOn "show-sql" then emit (.errorLine (c.console.style statement))
  let s ← openStore c
  let (table, log) ← ofExcept (fun e => ("query failed: " ++ e.message : Text))
    (c.query s statement)
  emit (log ++ c.console.table table)

/-- The report on a seed that was loaded. -/
def seedReport (c : Context) (path : Text) (tags version : Nat) : Output :=
  match c.console.effectiveMode with
  | .json => .print (Json.obj [("file", .str path), ("tags", .num tags),
      ("schema_version", .num version)]).write
  | .markdown =>
    .line (Console.heading 1 "Seed Loaded") ++ .line [] ++ .line (Console.keyValue "File" path) ++
      .line (Console.keyValue "Tags" (Text.ofNat tags)) ++
      .line (Console.keyValue "Schema Version" (Text.ofNat version))
  | _ =>
    c.console.success ("Loaded " ++ Text.ofNat tags ++ " tags from " ++ path) ++
      c.console.muted ("Store: " ++ c.settings.dsn ++ " (" ++ c.settings.driver ++ ")")

/-- Loads a seed into the store. -/
def seed (c : Context) (path : Text) : Run Unit := do
  ofExcept (fun e => ("failed to open seed file: " ++ e.message : Text)) ((← folder).access path)
  let s ← openStore c
  let failed (t : Text) : Failure := ("failed to load " ++ path ++ ": " ++ t : Text)
  let unreadable (e : Text) : Failure :=
    failed (StoreError.seed ("yaml: input error: " ++ e)).message
  let text ← ofExcept (fun e => unreadable e.message) ((← folder).content path)
  let loaded? ← ofExcept (fun e => failed e.message)
    (s.load c.sniffer.classifier (← get).issued text)
  let (s, tags) ← match loaded? with
    | none => pure (s, 0)
    | some loaded => do
      modify fun p => { p with issued := loaded.issued }
      emit (c.logger.info "seed loaded" [("entries", Text.ofNat loaded.entries),
        ("tags", Text.ofNat loaded.tags)])
      pure (loaded.store, loaded.tags)
  setFolder (s.save (← folder))
  let version ← ofExcept (fun e => (e.message : Failure)) s.version
  emit (seedReport c path tags version)

/-- Renders the batch in a file, once or whenever it changes. -/
def batch (c : Context) (flags : FlagValues) (path : Text) : Run Ending := do
  if flags.isOn "watch" then
    let w : Watch := ⟨c, path, false⟩
    emit (w.begin (← folder))
    match w.problem? (← folder) with
    | some f => fail f
    | none => return .watching w
  else
    let (output, failure?) := c.renderFile (← folder) path
    emit output
    match failure? with
    | some f => fail f
    | none => return .done

/-- Begins a session. -/
def session (c : Context) : Run Ending := do
  let history := c.settings.historyFile
  if !history.isEmpty then
    setFolder (← ofExcept (fun e => ("failed to create history directory: " ++ e.message : Text))
      ((← folder).makeDirectory (Path.parent history)))
  return .session (.start c (← folder))

/-- Runs a command whose words have been checked. -/
def perform (c : Context) (number : Text) (flags : FlagValues) (words : List Text) (input : Text) :
    Command → Run Ending
  | .version => do version number; return .done
  | .tokens => do tokens c flags words input; return .done
  | .parse => do parse c words input; return .done
  | .render => do render c words input; return .done
  | .lint => do lint c flags words input; return .done
  | .query => do query c flags words input; return .done
  | .seed => do seed c (words.head?.getD []); return .done
  | .batch => batch c flags (words.head?.getD [])
  | .repl => session c
  | .completion | .help => return .done

/-! ## Command lines -/

/-- The context of settings; the output is no terminal. -/
def contextOf (s : Settings) (logger : Logger) : Except Failure Context :=
  match s.sniffer with
  | .ok sniffer => .ok ⟨s, sniffer, s.console false, logger⟩
  | .error p => .error p.message

/-- The flags that are settings, by name. -/
def settingFlags (flags : FlagValues) : List (Text × Value) :=
  Command.commonFlags.filterMap fun f =>
    match flags.lookup f.name with
    | some (.text t) => some (f.name, .text t)
    | some (.switch b) => some (f.name, .bool b)
    | _ => none

/-- Loads the settings of a command line. -/
def configure (env : Settings.Environment) (flags : FlagValues) : Run Context := do
  let (settings, file) ← ofExcept (fun e => (e.message : Failure))
    (Settings.load (← folder) env ((flags.text? "config").getD []) (settingFlags flags))
  let c ← ofExcept id (contextOf settings ⟨some settings.level⟩)
  if !file.isEmpty then emit (c.logger.debug "using config file" [("path", file)])
  return c

/-- Runs a command line that names no command. -/
def startProgram (words : List Text) : Run Unit := do
  let (flags, _) ← ofExcept (fun e => (e.message : Failure))
    (FlagReader.run (Command.commonFlags ++ [Command.helpFlag, Command.versionFlag]) words)
  if flags.isOn "help" then return ()
  else if flags.isOn "version" then
    emit (.line (Command.program ++ " " ++ Command.programVersion : String) ++
      .line "Filter expression compiler for EAV tables")

/-- Offers values for the flag at the end of a command line. -/
def complete (words : List Text) : Run Unit :=
  emit (.concat ((Command.completions words).map .line) ++ .line ":4" ++
    .errorLine "Completion ended with directive: ShellCompDirectiveNoFileComp")

/-- Runs a command with its words, flags included: the context, if there is one, and how it ends. -/
def startCommand (env : Settings.Environment) (cmd : Command) (words : List Text) (input : Text) :
    Run (Option Context × Ending) := do
  let (flags, words) ← ofExcept (fun e => (e.message : Failure))
    (FlagReader.run (Command.commonFlags ++ cmd.ownFlags ++ [Command.helpFlag]) words)
  if flags.isOn "help" then return (none, .done)
  else
    ofExcept (fun e => (e.message : Failure))
      (cmd.checkWords (Command.program ++ " " ++ cmd.name : String) words)
    if cmd = .completion ∨ cmd = .help then return (none, .done)
    else
      let c ← configure env flags
      return (some c, ← perform c Command.programVersion flags words input cmd)

/-- Runs a command line: the context, if there is one, and how it ends. -/
def start (env : Settings.Environment) (words : List Text) (input : Text) :
    Run (Option Context × Ending) := do
  if words.head? = some (Text.ofString "__complete") then
    complete words.tail
    return (none, .done)
  else
    match Command.firstWord? Command.commonFlags false words with
    | none =>
      startProgram words
      return (none, .done)
    | some name =>
      match Command.ofName? name with
      | none => fail (Command.unknownMessage name)
      | some cmd =>
        startCommand env cmd (Command.dropWord Command.commonFlags name false words) input

/-- Runs one command by itself, with the default settings and without logging. -/
def startAlone (number : Text) (cmd : Command) (words : List Text) (input : Text) :
    Run Ending := do
  let (flags, words) ← ofExcept (fun e => (e.message : Failure))
    (FlagReader.run (cmd.ownFlags ++ [Command.helpFlag]) words)
  if flags.isOn "help" then return .done
  else
    ofExcept (fun e => (e.message : Failure)) (cmd.checkWords cmd.name words)
    perform (← ofExcept id (contextOf {} {})) number flags words input cmd

/-! ## What a command line needs -/

/-- The command of a command line, with its flags and its other words. -/
def read? (words : List Text) : Option (Command × FlagValues × List Text) := do
  let name ← Command.firstWord? Command.commonFlags false words
  let cmd ← Command.ofName? name
  let (flags, words) ← (FlagReader.run (Command.commonFlags ++ cmd.ownFlags ++ [Command.helpFlag])
    (Command.dropWord Command.commonFlags name false words)).toOption
  return (cmd, flags, words)

/-- Whether a command line takes its expression from the input. -/
def readsInput (words : List Text) : Bool :=
  match read? words with
  | some (cmd, flags, words) =>
    words.isEmpty && !flags.isOn "help" &&
      (match cmd with
      | .tokens => !flags.isOn "operators"
      | .lint => !flags.isOn "list"
      | .parse | .render | .query => true
      | _ => false)
  | none => false

/-- The paths that a command line names: its words and the values of its flags. -/
def pathsNamed (words : List Text) : List Text :=
  words ++ words.filterMap fun w => (Text.cut (byte '=') w).2

/-- The paths that the settings of a command line name. -/
def pathsSet (env : Settings.Environment) (words : List Text) (folder : Folder) : List Text :=
  match read? words with
  | some (_, flags, _) =>
    match Settings.load folder env ((flags.text? "config").getD []) (settingFlags flags) with
    | .ok (s, _) => [Store.fileOf s.dsn, s.historyFile]
    | .error _ => []
  | none => []

/-- Lets a command come to its end: a session reads the input. -/
def finish (input : Text) : Ending → Run Unit
  | .session s => do
    let (s, output) := s.evalInput input
    setFolder s.folder
    emit output
  | _ => return ()

/-- Runs a command line to its end. -/
def run (env : Settings.Environment) (words : List Text) (input : Text) : Run Unit := do
  let (_, ending) ← start env words input
  finish input ending

end Program

end TagFilter
