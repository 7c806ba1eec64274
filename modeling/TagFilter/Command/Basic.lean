import TagFilter.Command.Flag
import TagFilter.Settings.Basic

/-!
# Commands

The commands of the program with their flags and the number of words they take, and how the command
of a command line is found: it is the first word that is neither a flag nor the value of one.
-/

namespace TagFilter

/-- The commands. -/
inductive Command where
  | version
  | tokens
  | parse
  | render
  | lint
  | query
  | seed
  | batch
  | repl
  | completion
  | help
  deriving DecidableEq, Repr

namespace Command

/-- The commands in the order in which they are suggested. -/
def all : List Command :=
  [version, tokens, parse, render, lint, query, seed, batch, repl, completion, help]

/-- The name of a command. -/
def name : Command → String
  | version => "version"
  | tokens => "tokens"
  | parse => "parse"
  | render => "render"
  | lint => "lint"
  | query => "query"
  | seed => "seed"
  | batch => "batch"
  | repl => "repl"
  | completion => "completion"
  | help => "help"

/-- The command of a name. -/
def ofName? (t : Text) : Option Command := all.find? fun c => (c.name : Text) == t

/-- The name of the program. -/
def program : String := "eavexpr"

/-- The version of the program. -/
def programVersion : String := "0.1.0"

/-! ## Flags -/

/-- The flags that every command takes. -/
def commonFlags : List Flag :=
  [⟨"config", none, .text⟩, ⟨"prefix", none, .text⟩, ⟨"date-mask", none, .text⟩,
   ⟨"driver", none, .text⟩, ⟨"dsn", none, .text⟩, ⟨"history-file", none, .text⟩,
   ⟨"log-level", none, .text⟩, ⟨"verbose", some 'v', .switch⟩, ⟨"output", some 'o', .text⟩]

/-- The flag that asks for help. -/
def helpFlag : Flag := ⟨"help", some 'h', .switch⟩

/-- The flag that asks for the version. -/
def versionFlag : Flag := ⟨"version", none, .switch⟩

/-- The flags of a command itself. -/
def ownFlags : Command → List Flag
  | tokens => [⟨"operators", none, .switch⟩]
  | lint =>
    [⟨"disable", none, .texts⟩, ⟨"severity", none, .text⟩, ⟨"list", none, .switch⟩,
     ⟨"group", none, .text⟩]
  | query => [⟨"show-sql", none, .switch⟩]
  | batch => [⟨"watch", some 'w', .switch⟩, ⟨"jobs", some 'j', .integer⟩]
  | _ => []

/-! ## Words -/

/-- The shells that completions can be written for. -/
def shells : List String := ["bash", "zsh", "fish", "powershell"]

/-- What is wrong with the words of a command. -/
inductive WordError where
  | count (expected received : Nat)
  | unexpected (word path : Text)
  | invalid (word path : Text)
  deriving DecidableEq, Repr

/-- The error in words. -/
def WordError.message : WordError → Text
  | count expected received =>
    "accepts " ++ Text.ofNat expected ++ " arg(s), received " ++ Text.ofNat received
  | unexpected word path => "unknown command " ++ word.quoted ++ " for " ++ path.quoted
  | invalid word path => "invalid argument " ++ word.quoted ++ " for " ++ path.quoted

/-- Checks the words of a command that is called by a path. -/
def checkWords (path : Text) (words : List Text) : Command → Except WordError Unit
  | seed | batch => if words.length = 1 then .ok () else .error (.count 1 words.length)
  | repl =>
    match words with
    | [] => .ok ()
    | word :: _ => .error (.unexpected word path)
  | completion =>
    match words with
    | [word] => if Settings.isOneOf shells word then .ok () else .error (.invalid word path)
    | _ => .error (.count 1 words.length)
  | _ => .ok ()

/-! ## Finding the command -/

/-- Whether a word is a flag whose value is the next word. -/
def takesNext (flags : List Flag) (word : Text) : Bool :=
  if word.elem (byte '=') then false
  else if (Text.ofString "--").isPrefixOf word then
    !((Flag.ofName? flags (word.drop 2)).map Flag.isSwitch).getD false
  else
    match word with
    | [dash, letter] =>
      dash == byte '-' && !((Flag.ofLetter? flags letter).map Flag.isSwitch).getD false
    | _ => false

/-- The first word that may name a command; `skip` says that the next word is the value of a flag.
Of a flag with just one word behind it nothing more is known. -/
def firstWord? (flags : List Flag) (skip : Bool) : List Text → Option Text
  | [] => none
  | word :: rest =>
    if skip then firstWord? flags false rest
    else if word = Text.ofString "--" then none
    else if takesNext flags word then
      if rest.length ≤ 1 then none else firstWord? flags true rest
    else if word.isEmpty ∨ word.head? = some (byte '-') then firstWord? flags false rest
    else some word

/-- The words without the first one that names a command. -/
def dropWord (flags : List Flag) (name : Text) (skip : Bool) : List Text → List Text
  | [] => []
  | word :: rest =>
    if skip then word :: dropWord flags name false rest
    else if word = Text.ofString "--" then word :: rest
    else if takesNext flags word then word :: dropWord flags name true rest
    else if word = name then rest
    else word :: dropWord flags name false rest

/-! ## Suggestions -/

/-- A row of edit distances from the one before: `diagonal` is the distance above and to the left,
`left` the one to the left. -/
def distanceRow (b : UInt8) (diagonal left : Nat) : Text → List Nat → List Nat
  | c :: cs, above :: row =>
    let here := min (min (left + 1) (above + 1)) (if b = c then diagonal else diagonal + 1)
    here :: distanceRow b above here cs row
  | _, _ => []

/-- The number of bytes to insert, remove or replace to turn one text into another. -/
def distance (s t : Text) : Nat :=
  let start := List.range (t.length + 1)
  let last := s.foldl (fun row b =>
    match row with
    | first :: rest => (first + 1) :: distanceRow b first (first + 1) t rest
    | [] => []) start
  last.getLast?.getD 0

/-- The commands that a word may have been meant for. -/
def suggestions (word : Text) : List Text :=
  let word := word.toLower
  ((all.filter (· != help)).map fun c => Text.ofString c.name).filter fun n =>
    decide (distance word n ≤ 2) || word.isPrefixOf n

/-- What to say of a word that is no command. -/
def unknownMessage (word : Text) : Text :=
  let names := suggestions word
  let hint : Text :=
    if names.isEmpty then []
    else "\n\nDid you mean this?\n" ++ (names.map fun n => ("\t" ++ n ++ "\n" : Text)).flatten
  "unknown command " ++ word.quoted ++ " for " ++ (Text.ofString program).quoted ++ hint

/-! ## Completions -/

/-- The values that are offered for a flag. -/
def offered (c? : Option Command) (name : Text) : Option (List String) :=
  if name = Text.ofString "output" then some ["auto", "text", "md", "json", "csv", "xml"]
  else if name = Text.ofString "driver" then some Settings.driverNames
  else if name = Text.ofString "log-level" then some Settings.logLevelNames
  else if name = Text.ofString "severity" ∧ c? = some lint then
    some ["error", "warning", "info", "hint"]
  else none

/-- The flag whose value is being typed: the last word with an equals sign, or the word before. -/
def typedFlag? (flags : List Flag) (words : List Text) : Option Flag :=
  match words.reverse with
  | [] => none
  | last :: before =>
    let named (word : Text) : Option Flag :=
      if (Text.ofString "--").isPrefixOf word then Flag.ofName? flags (word.drop 2)
      else
        match word with
        | [_, letter] => Flag.ofLetter? flags letter
        | _ => none
    match Text.cut (byte '=') last with
    | (start, some _) => if start.head? = some (byte '-') then named start else none
    | (_, none) =>
      match before with
      | word :: _ => if word.head? = some (byte '-') then named word else none
      | [] => none

/-- The values offered for the flag at the end of a command line. -/
def completions (words : List Text) : List Text :=
  let c? := (firstWord? commonFlags false words.dropLast).bind ofName?
  let flags := commonFlags ++ ((c?.map ownFlags).getD [])
  match typedFlag? flags words with
  | some f => (((offered c? f.name).getD []).map Text.ofString)
  | none => []

end Command

end TagFilter
