import TagFilter.Folder.Basic
import TagFilter.Settings.Basic
import TagFilter.Yaml.Decode
import TagFilter.Yaml.Reader

/-!
# Loading settings

Settings come in layers: the defaults, a file, the environment and the flags of the command line.
A later layer is laid over the earlier ones.  The joined layers are then decoded with some good
will: numbers and switches may stand for texts, words for switches, and one text for a list of one.
-/

namespace TagFilter.Settings

/-- Members of settings by name. -/
abbrev Layer := List (Text × Value)

/-- The layer with one value at a key of parts with points between. -/
def layerOf (entries : List (Text × Value)) : Layer :=
  entries.foldl (fun layer (key, value) =>
    match value.nest (key.splitOn (byte '.')) with
    | .record members => Value.merge layer members
    | _ => layer) []

/-- The defaults. -/
def defaultLayer : Layer :=
  let d : Settings := {}
  layerOf [("prefix", .text d.statement), ("date_mask", .text d.dateMask),
    ("output", .text d.output), ("verbose", .bool false), ("log_level", .text d.logLevel),
    ("history_file", .text d.historyFile), ("database.driver", .text d.driver),
    ("database.dsn", .text d.dsn)]

/-- The layer of the environment. -/
def environmentLayer (env : Environment) : Layer :=
  layerOf ((env.filter fun (name, _) => variablePrefix.isPrefixOf name).filterMap
    fun (name, value) =>
      let key := keyOfVariable name
      if key.isEmpty then none else some (key, .text value))

/-- The key of a flag. -/
def keyOfFlag (name : Text) : Text :=
  if name = Text.ofString "driver" then "database.driver"
  else if name = Text.ofString "dsn" then "database.dsn"
  else name.map fun b => if b = byte '-' then byte '_' else b

/-- The layer of the flags that were given. -/
def flagLayer (flags : List (Text × Value)) : Layer :=
  layerOf (flags.map fun (name, value) => (keyOfFlag name, value))

/-! ## Files -/

/-- The names of the files that are looked for. -/
def fileNames : List String := ["eavexpr.yaml", "eavexpr.yml"]

/-- The file to read: the given one, else the first that is there, else none. -/
def fileToRead (folder : Folder) (given : Text) : Text :=
  if !given.isEmpty then given
  else (((fileNames.map Text.ofString).find? folder.occupied).getD [])

/-- The layer of a node: nothing holds no settings. -/
def nodeLayer : Yaml → Decoding Layer
  | .mapping entries _ _ => Yaml.textMembers entries
  | node => do
    node.refuseValue "map[string]interface \x7b\x7d"
    return []

/-- The layer of a document. -/
def documentLayer (t : Text) : Except Text Layer := do
  match ← (Yaml.read t).mapError YamlError.message with
  | none => return []
  | some node => (nodeLayer node).result

/-- The layer of a file. -/
def fileLayer (folder : Folder) (path : Text) : Except Text Layer := do
  documentLayer (← (folder.read (Path.clean path)).mapError FileError.message)

/-! ## Decoding -/

/-- A decoded value with the problems found on the way. -/
structure Decoded (α : Type) where
  value : α
  problems : List Text := []

/-- A problem with the value at a path. -/
def problemAt (path : Text) (problem : Text) : Text := "'" ++ path ++ "' " ++ problem

/-- The kind of a value that cannot be made something else. -/
def kindName : Value → String
  | .null => "nil"
  | .bool _ => "bool"
  | .int n => if n < Text.int64Bound then "int" else "uint64"
  | .float _ => "float64"
  | .moment _ => "time.Time"
  | .text _ => "string"
  | .list _ => "[]interface \x7b\x7d"
  | .record _ => "map[string]interface \x7b\x7d"

/-- The family of kinds that a value belongs to. -/
def familyName : Value → String
  | .list _ => "slice"
  | .record _ => "map"
  | v => kindName v

/-- The problem that a value cannot be made one of another kind. -/
def unconvertible (path : Text) (expected : String) (v : Value) : Text :=
  problemAt path ("expected type '" ++ expected ++ "', got unconvertible type '" ++ kindName v ++
    "'")

/-- A value as a text. -/
def decodeText (path : Text) : Option Value → Decoded Text
  | none | some .null => ⟨[], []⟩
  | some (.text t) => ⟨t, []⟩
  | some (.bool b) => ⟨if b then "1" else "0", []⟩
  | some (.int n) => ⟨Text.ofInt n, []⟩
  | some (.float t) => ⟨t, []⟩
  | some v => ⟨[], [unconvertible path "string" v]⟩

/-- A value as a switch. -/
def decodeSwitch (path : Text) : Option Value → Decoded Bool
  | none | some .null => ⟨false, []⟩
  | some (.bool b) => ⟨b, []⟩
  | some (.int n) => ⟨n != 0, []⟩
  | some (.float t) => ⟨t != Text.ofString "0" && t != Text.ofString "-0", []⟩
  | some (.text t) =>
    match t.toSwitch? with
    | some b => ⟨b, []⟩
    | none =>
      if t.isEmpty then ⟨false, []⟩
      else ⟨false, [problemAt path
        "cannot parse value as 'bool': strconv.ParseBool: invalid syntax"]⟩
  | some v => ⟨false, [unconvertible path "bool" v]⟩

/-- The texts of a list. -/
def decodeItems (path : Text) (values : List Value) : Decoded (List Text) :=
  let items := (values.zipIdx).map fun (v, i) =>
    decodeText (path ++ "[" ++ Text.ofNat i ++ "]") (some v)
  ⟨items.map Decoded.value, items.flatMap Decoded.problems⟩

/-- A value as a list of texts. -/
def decodeTexts (path : Text) : Option Value → Decoded (List Text)
  | none | some .null => ⟨[], []⟩
  | some (.list values) => decodeItems path values
  | some (.record []) => ⟨[], []⟩
  | some v => decodeItems path [v]

/-- The named texts of a mapping. -/
def decodeMembers (path : Text) (members : List (Text × Value)) : Decoded (List (Text × Text)) :=
  let items := members.map fun (name, v) => (name, decodeText (path ++ "[" ++ name ++ "]") (some v))
  ⟨items.map fun (name, d) => (name, d.value), items.flatMap fun (_, d) => d.problems⟩

/-- Named texts laid over others. -/
def layTexts (old new : List (Text × Text)) : List (Text × Text) :=
  (old.filter fun (name, _) => (new.lookup name).isNone) ++ new

mutual

/-- A value as named texts: those of a mapping or of a list of mappings.  A moment has no parts with
names. -/
def decodeNamed (path : Text) : Value → Decoded (List (Text × Text))
  | .null | .moment _ => ⟨[], []⟩
  | .record members => decodeMembers path members
  | .list values => decodeNamedItems path 0 [] values
  | v => ⟨[], [problemAt path ("expected a map, got '" ++ familyName v ++ "'")]⟩

/-- The named texts of a list behind `n` others, laid over those found so far; the first problem
ends it. -/
def decodeNamedItems (path : Text) (n : Nat) (found : List (Text × Text)) :
    List Value → Decoded (List (Text × Text))
  | [] => ⟨found, []⟩
  | v :: values =>
    let item := decodeNamed (path ++ "[" ++ Text.ofNat n ++ "]") v
    let found := layTexts found item.value
    if item.problems.isEmpty then decodeNamedItems path (n + 1) found values
    else ⟨found, item.problems⟩

end

/-- A value as a group of settings. -/
def decodeGroup (path : Text) : Option Value → Decoded Layer
  | none | some .null | some (.moment _) => ⟨[], []⟩
  | some (.record members) => ⟨members, []⟩
  | some v => ⟨[], [problemAt path ("expected a map or struct, got \"" ++ familyName v ++ "\"")]⟩

/-- The settings of a layer, and what could not be decoded. -/
def decode (layer : Layer) : Decoded Settings :=
  let field (name : String) := Value.member? name layer
  let statement := decodeText "prefix" (field "prefix")
  let dateMask := decodeText "date_mask" (field "date_mask")
  let output := decodeText "output" (field "output")
  let verbose := decodeSwitch "verbose" (field "verbose")
  let logLevel := decodeText "log_level" (field "log_level")
  let historyFile := decodeText "history_file" (field "history_file")
  let database := decodeGroup "database" (field "database")
  let driver := decodeText "database.driver" (Value.member? "driver" database.value)
  let dsn := decodeText "database.dsn" (Value.member? "dsn" database.value)
  let lint := decodeGroup "lint" (field "lint")
  let disabled := decodeTexts "lint.disabled" (Value.member? "disabled" lint.value)
  let severities := decodeNamed "lint.severity"
    ((Value.member? "severity" lint.value).getD .null)
  { value := {
      statement := statement.value, dateMask := dateMask.value, output := output.value,
      verbose := verbose.value, logLevel := logLevel.value, historyFile := historyFile.value,
      driver := driver.value, dsn := dsn.value, disabled := disabled.value,
      severities := severities.value }
    problems := statement.problems ++ dateMask.problems ++ output.problems ++ verbose.problems ++
      logLevel.problems ++ historyFile.problems ++ database.problems ++ driver.problems ++
      dsn.problems ++ lint.problems ++ disabled.problems ++ severities.problems }

/-! ## Loading -/

/-- Why settings cannot be loaded. -/
inductive LoadError where
  | file (path reason : Text)
  | decoding (problems : List Text)
  | invalid (p : Problem)
  deriving Repr

/-- The error in words. -/
def LoadError.message : LoadError → Text
  | file path reason => "error reading config file " ++ path ++ ": " ++ reason
  | decoding problems =>
    "unable to decode config: decoding failed due to the following error(s):\n\n" ++
      Text.join "\n" problems
  | invalid p => "invalid configuration: " ++ p.message

/-- Loads the settings from a folder, an environment and flags, with the file that was read. -/
def load (folder : Folder) (env : Environment) (given : Text) (flags : List (Text × Value)) :
    Except LoadError (Settings × Text) := do
  let path := fileToRead folder given
  let fileLayer ← if path.isEmpty then .ok [] else (fileLayer folder path).mapError (.file path)
  let layer := [fileLayer, environmentLayer env, flagLayer flags].foldl Value.merge defaultLayer
  let decoded := decode layer
  if !decoded.problems.isEmpty then throw (.decoding decoded.problems)
  let settings := { decoded.value with dsn := expand env decoded.value.dsn }
  settings.check.mapError .invalid
  return (settings, path)

end TagFilter.Settings
