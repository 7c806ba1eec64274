import TagFilter.Text.Integer
import TagFilter.Text.Quoted
import TagFilter.Text.Record

/-!
# Flags

A command line is a list of words.  Words that start with a dash are flags: `--name value`,
`--name=value`, and short ones of one letter, which may be joined.  Switches need no value.  After
`--` no word is a flag.  `FlagReader` reads the words one by one; a flag that still needs its value
waits for the next word.
-/

namespace TagFilter

/-- The kinds of values that flags take. -/
inductive FlagKind where
  | text
  | switch
  | integer
  | texts
  deriving DecidableEq, Repr

/-- A flag: its name, its letter, and the kind of its value. -/
structure Flag where
  name : String
  letter? : Option Char := none
  kind : FlagKind := .text
  deriving DecidableEq, Repr

/-- The value of a flag. -/
inductive FlagValue where
  | text (t : Text)
  | switch (b : Bool)
  | integer (n : Int)
  | texts (ts : List Text)
  deriving DecidableEq, Repr

/-- What is wrong with flags. -/
inductive FlagError where
  | malformed (word : Text)
  | unknown (name : Text)
  | unknownLetter (letter : UInt8) (letters : Text)
  | needsValue (name : Text)
  | letterNeedsValue (letter : UInt8) (letters : Text)
  | badValue (flag : Flag) (value : Text) (reason : Text)
  | none (name : Text)
  deriving DecidableEq, Repr

/-- The names of a flag as they are shown. -/
def Flag.shown (f : Flag) : Text :=
  match f.letter? with
  | some c => "-" ++ Text.encode [c] ++ ", --" ++ f.name
  | none => "--" ++ f.name

/-- A letter between single quotes.  A byte beyond ASCII shows as the first byte of its encoding. -/
def quotedLetter (letter : UInt8) : Text :=
  let shown := (Text.encode [Char.ofNat letter.toNat]).headD letter
  Text.quotedChar (Char.ofNat shown.toNat)

/-- The error in words. -/
def FlagError.message : FlagError → Text
  | malformed word => "bad flag syntax: " ++ word
  | unknown name => "unknown flag: --" ++ name
  | unknownLetter letter letters =>
    "unknown shorthand flag: " ++ quotedLetter letter ++ " in -" ++ letters
  | needsValue name => "flag needs an argument: --" ++ name
  | letterNeedsValue letter letters =>
    "flag needs an argument: " ++ quotedLetter letter ++ " in -" ++ letters
  | badValue flag value reason =>
    "invalid argument " ++ value.quoted ++ " for " ++ flag.shown.quoted ++ " flag: " ++ reason
  | none name => "no such flag -" ++ name

namespace Flag

/-- Whether a flag stands for something without a value. -/
def isSwitch (f : Flag) : Bool := f.kind == .switch

/-- The flag of a name. -/
def ofName? (flags : List Flag) (name : Text) : Option Flag :=
  flags.find? fun f => (f.name : Text) == name

/-- The flag of a letter. -/
def ofLetter? (flags : List Flag) (letter : UInt8) : Option Flag :=
  flags.find? fun f => (f.letter?.map fun c => c.toNat) == some letter.toNat

/-- Reads the value of a flag. -/
def read (f : Flag) (t : Text) : Except FlagError FlagValue :=
  match f.kind with
  | .text => .ok (.text t)
  | .switch =>
    match t.toSwitch? with
    | some b => .ok (.switch b)
    | none =>
      .error (.badValue f t ("strconv.ParseBool: parsing " ++ t.quoted ++ ": invalid syntax"))
  | .integer =>
    match t.toPrefixedInteger with
    | .ok n => .ok (.integer n)
    | .error p =>
      .error (.badValue f t ("strconv.ParseInt: parsing " ++ t.quoted ++ ": " ++ p.message))
  | .texts =>
    if t.isEmpty then .ok (.texts [])
    else
      match t.toRecord with
      | .ok ts => .ok (.texts ts)
      | .error e => .error (.badValue f t e.message)

end Flag

/-- The values of flags, the last one given first. -/
abbrev FlagValues := List (String × FlagValue)

namespace FlagValues

/-- The text of a flag. -/
def text? (vs : FlagValues) (name : String) : Option Text :=
  match vs.lookup name with
  | some (.text t) => some t
  | _ => none

/-- Whether a switch is on. -/
def isOn (vs : FlagValues) (name : String) : Bool := vs.lookup name == some (.switch true)

/-- All texts given for a flag, in their order. -/
def texts (vs : FlagValues) (name : String) : List Text :=
  vs.reverse.flatMap fun (n, v) =>
    match v with
    | .texts ts => if n == name then ts else []
    | _ => []

/-- Sets a flag by its name. -/
def set (flags : List Flag) (vs : FlagValues) (name value : Text) : Except FlagError FlagValues :=
  match Flag.ofName? flags name with
  | some f => (f.read value).map fun v => (f.name, v) :: vs
  | none => .error (.none name)

end FlagValues

/-- A flag that waits for its value, with the error if none comes. -/
structure WaitingFlag where
  flag : Flag
  error : FlagError
  deriving Repr

/-- What has been read of a command line; the words that are no flags come last one first. -/
structure FlagReader where
  values : FlagValues := []
  words : List Text := []
  waiting? : Option WaitingFlag := none
  plain : Bool := false
  deriving Repr

namespace FlagReader

/-- Gives a flag a value. -/
def give (r : FlagReader) (f : Flag) (value : Text) : Except FlagError FlagReader := do
  return { r with values := (f.name, ← f.read value) :: r.values, waiting? := none }

/-- Reads a flag with a name. -/
def long (flags : List Flag) (r : FlagReader) (word : Text) : Except FlagError FlagReader :=
  let named := word.drop 2
  if named.head? = some (byte '-') ∨ named.head? = some (byte '=') then .error (.malformed word)
  else
    let (name, value?) := Text.cut (byte '=') named
    match Flag.ofName? flags name, value? with
    | none, _ => .error (.unknown name)
    | some f, some value => r.give f value
    | some f, none =>
      if f.isSwitch then r.give f "true"
      else .ok { r with waiting? := some ⟨f, .needsValue name⟩ }

/-- Whether letters are left to a test runner. -/
def isTestOption (letters : Text) : Bool := (Text.ofString "test.").isPrefixOf letters

/-- Reads flags of one letter each. -/
def short (flags : List Flag) (r : FlagReader) : Text → Except FlagError FlagReader
  | [] => .ok r
  | letter :: rest =>
    if isTestOption (letter :: rest) then .ok r
    else
      match Flag.ofLetter? flags letter with
      | none => .error (.unknownLetter letter (letter :: rest))
      | some f =>
        if rest.head? = some (byte '=') ∧ 1 < rest.length then r.give f rest.tail
        else if f.isSwitch then do (← r.give f "true").short flags rest
        else if !rest.isEmpty then r.give f rest
        else .ok { r with waiting? := some ⟨f, .letterNeedsValue letter (letter :: rest)⟩ }

/-- Reads a word. -/
def step (flags : List Flag) (r : FlagReader) (word : Text) : Except FlagError FlagReader :=
  match r.waiting? with
  | some waiting => r.give waiting.flag word
  | none =>
    if r.plain ∨ word.head? ≠ some (byte '-') ∨ word.length = 1 then
      .ok { r with words := word :: r.words }
    else if word = Text.ofString "--" then .ok { r with plain := true }
    else if (Text.ofString "--").isPrefixOf word then long flags r word
    else short flags r word.tail

/-- Reads a command line: the values of its flags and the other words. -/
def run (flags : List Flag) (words : List Text) : Except FlagError (FlagValues × List Text) := do
  let r ← words.foldlM (step flags) {}
  match r.waiting? with
  | some waiting => throw waiting.error
  | none => return (r.values, r.words.reverse)

end FlagReader

end TagFilter
