import TagFilter.Yaml.Value

/-!
# Decoding YAML nodes

Decoding makes something else of a node.  What does not fit is noted, and decoding goes on; a scalar
that is not what its tag says and an entry that cannot be merged end it.  `Yaml.toValue` decodes any
node, `Yaml.toText?` one that has to be a text, and `Yaml.foldFields` goes through the fields of a
mapping whose keys are known beforehand.
-/

namespace TagFilter

/-- Decoding keeps the problems that it goes on after. -/
abbrev Decoding := StateT (List Text) (Except Text)

/-- Notes problems. -/
def Decoding.note (problems : List Text) : Decoding Unit := modify (· ++ problems)

/-- The result of decoding, and what to say if there is none. -/
def Decoding.result {α : Type} (d : Decoding α) : Except Text α :=
  match d.run [] with
  | .error problem => .error ("yaml: " ++ problem)
  | .ok (a, []) => .ok a
  | .ok (_, problems) => .error ("yaml: unmarshal errors:\n  " ++ Text.join "\n  " problems)

namespace Yaml

/-! ## Problems -/

/-- The tag of a node: the one that was written, or else the one that fits. -/
def effectiveTag : Yaml → Text
  | scalar t style tag _ =>
    if !tag.isEmpty then tag
    else if style ≠ .plain then "!!str"
    else if t = Text.ofString "<<" then "!!merge"
    else (Value.ofPlain true t).tag
  | sequence _ tag _ | enclosing false tag _ => if tag.isEmpty then "!!seq" else tag
  | mapping _ tag _ | enclosing true tag _ => if tag.isEmpty then "!!map" else tag
  | reference _ _ _ => []

/-- What to say of a node that does not fit a kind of value. -/
def mismatch (node : Yaml) (kind : String) : Text :=
  let tag := node.effectiveTag
  let shown : Text :=
    if tag = Text.ofString "!!seq" || tag = Text.ofString "!!map" then []
    else if 10 < node.text.length then " `" ++ node.text.take 7 ++ "...`"
    else " `" ++ node.text ++ "`"
  "line " ++ Text.ofNat node.line ++ ": cannot unmarshal " ++ tag ++ shown ++ " into " ++ kind

/-- Whether two keys are the same: of one kind and with the same text. -/
def sameKey : Yaml → Yaml → Bool
  | scalar t _ _ _, scalar u _ _ _ => t == u
  | reference t _ _, reference u _ _ => t == u
  | sequence _ _ _, sequence _ _ _ => true
  | mapping _ _ _, mapping _ _ _ => true
  | _, _ => false

/-- The problems of a mapping that has keys twice, by their lines. -/
def repeatedKeys : List (Yaml × Yaml) → List Text
  | [] => []
  | (key, _) :: entries =>
    (entries.filter fun (other, _) => sameKey key other).map (fun (other, _) =>
      ("line " ++ Text.ofNat other.line ++ ": mapping key " ++
        (match other with
        | scalar t _ _ _ | reference t _ _ => t.quoted
        | _ => "\"\"") ++
        " already defined at line " ++ Text.ofNat key.line : Text)) ++ repeatedKeys entries

/-- Notes that a node does not fit a kind of value, or what is wrong with its keys. -/
def refuse (node : Yaml) (kind : String) : Decoding Unit :=
  match node with
  | mapping entries _ _ =>
    let problems := repeatedKeys entries
    Decoding.note (if problems.isEmpty then [node.mismatch kind] else problems)
  | _ => Decoding.note [node.mismatch kind]

/-- Notes that a node does not fit a kind of value, unless it means nothing. -/
def refuseValue (node : Yaml) (kind : String) : Decoding Unit := do
  match node with
  | scalar t style tag _ =>
    match ← (Value.ofScalar t style tag : Except Text Value) with
    | .null => return
    | _ => node.refuse kind
  | _ => node.refuse kind

/-- Whether a key asks for the entries of other mappings. -/
def isMerge : Yaml → Bool
  | scalar t style tag _ =>
    t == Text.ofString "<<" &&
      ((style == .plain && tag.isEmpty) || tag == Text.ofString "!!merge")
  | _ => false

/-- The problem with an entry that cannot be merged. -/
def cannotMerge : Text := "map merge requires map or sequence of maps as the value"

/-! ## Any value -/

/-- The text of a node that has to be one; nothing is no text. -/
def toText? : Yaml → Decoding (Option Text)
  | scalar t style tag _ => do
    match ← (Value.ofScalar t style tag : Except Text Value) with
    | .null => return none
    | .text u => return some u
    | _ => return some t
  | reference _ target _ => toText? target
  | node => do
    node.refuse "string"
    return none

/-- The members of a mapping: those that its entries make and, unless it has them, those that are
merged. -/
def joined (entries : List (Yaml × Yaml))
    (found : Decoding (List (Text × Value) × List (Text × Value))) :
    Decoding (List (Text × Value)) := do
  let problems := repeatedKeys entries
  if problems.isEmpty then
    let (own, merged) ← found
    let own := own.foldl (fun members m => Value.put m.1 m.2 members) []
    return merged.foldl (fun members m => Value.putNew m.1 m.2 members) own
  else
    Decoding.note problems
    return []

/-- The text of a value that is a key; a collection is none. -/
def keyText (v : Value) : Decoding Text := do
  match v with
  | .list _ | .record _ => throw ("invalid map key: " ++ v.shown)
  | _ => return v.keyText

mutual

/-- What a node means. -/
def toValue : Yaml → Decoding Value
  | scalar t style tag _ => (Value.ofScalar t style tag : Except Text Value)
  | sequence items _ _ => return .list (← itemValues items)
  | mapping entries _ _ => return .record (← joined entries (entryValues false entries))
  | reference name (enclosing _ _ _) _ => throw ("anchor '" ++ name ++ "' value contains itself")
  | reference _ target _ => toValue target
  | enclosing _ _ _ => return .null

/-- What the items of a sequence mean. -/
def itemValues : List Yaml → Decoding (List Value)
  | [] => return []
  | item :: items => return (← toValue item) :: (← itemValues items)

/-- The members that the entries of a mapping make, and those that are merged; `texts` says that
keys are texts as they are written. -/
def entryValues (texts : Bool) :
    List (Yaml × Yaml) → Decoding (List (Text × Value) × List (Text × Value))
  | [] => return ([], [])
  | (key, value) :: entries => do
    if isMerge key then
      let (own, merged) ← entryValues texts entries
      return (own, (← mergedMembers texts value) ++ merged)
    else
      let key? ← if texts then key.toText? else some <$> (toValue key >>= keyText)
      match key? with
      | none => entryValues texts entries
      | some name =>
        let member := (name, ← toValue value)
        let (own, merged) ← entryValues texts entries
        return (member :: own, merged)

/-- The members of the mappings that are merged into one. -/
def mergedMembers (texts : Bool) : Yaml → Decoding (List (Text × Value))
  | mapping entries _ _ => joined entries (entryValues texts entries)
  | reference _ (mapping entries _ _) _ => joined entries (entryValues texts entries)
  | sequence items _ _ => mergedItems texts items
  | _ => throw cannotMerge

/-- The members of the mappings in a sequence. -/
def mergedItems (texts : Bool) : List Yaml → Decoding (List (Text × Value))
  | [] => return []
  | mapping entries _ _ :: items =>
    return (← joined entries (entryValues texts entries)) ++ (← mergedItems texts items)
  | reference _ (mapping entries _ _) _ :: items =>
    return (← joined entries (entryValues texts entries)) ++ (← mergedItems texts items)
  | _ :: _ => throw cannotMerge

end

/-- The members of a mapping whose keys are texts. -/
def textMembers (entries : List (Yaml × Yaml)) : Decoding (List (Text × Value)) :=
  joined entries (entryValues true entries)

/-! ## Known fields -/

/-- A step through the fields of a mapping: a field of its own or one that is merged, problems, or
an entry that cannot be merged. -/
inductive FieldStep where
  | field (key value : Yaml) (merged : Bool)
  | problems (problems : List Text)
  | broken

/-- The steps through a mapping: its own fields and then those that are merged. -/
def stepsWith (merged : Bool) (entries : List (Yaml × Yaml)) (further : List FieldStep) :
    List FieldStep :=
  let problems := repeatedKeys entries
  if problems.isEmpty then
    (entries.filter fun (key, _) => !isMerge key).map (fun (key, value) =>
      .field key value merged) ++ further
  else [.problems problems]

mutual

/-- The steps through the mappings that entries merge. -/
def mergeSteps : List (Yaml × Yaml) → List FieldStep
  | [] => []
  | (key, value) :: entries =>
    (if isMerge key then nodeSteps value else []) ++ mergeSteps entries

/-- The steps through a node that is merged. -/
def nodeSteps : Yaml → List FieldStep
  | mapping entries _ _ => stepsWith true entries (mergeSteps entries)
  | reference _ (mapping entries _ _) _ => stepsWith true entries (mergeSteps entries)
  | sequence items _ _ => itemSteps items
  | _ => [.broken]

/-- The steps through the items of a sequence that is merged. -/
def itemSteps : List Yaml → List FieldStep
  | [] => []
  | mapping entries _ _ :: items => stepsWith true entries (mergeSteps entries) ++ itemSteps items
  | reference _ (mapping entries _ _) _ :: items =>
    stepsWith true entries (mergeSteps entries) ++ itemSteps items
  | _ :: _ => [.broken]

end

/-- Takes steps through fields: `set` is given each field of a known name, once, and `seen` holds
the names that have come. -/
def takeSteps {σ : Type} (kind : String) (known : List String)
    (set : σ → Text → Yaml → Decoding σ) (state : σ) (seen : List Text) :
    List FieldStep → Decoding σ
  | [] => return state
  | .problems problems :: steps => do
    Decoding.note problems
    takeSteps kind known set state seen steps
  | .broken :: _ => throw cannotMerge
  | .field key value merged :: steps => do
    match ← toText? key with
    | none => takeSteps kind known set state seen steps
    | some name =>
      let isKnown := known.any fun k => (k : Text) == name
      if seen.contains name then
        if isKnown && !merged then
          Decoding.note ["line " ++ Text.ofNat key.line ++ ": field " ++ name ++
            " already set in type " ++ kind]
        takeSteps kind known set state seen steps
      else
        let state ← if isKnown then set state name value else pure state
        takeSteps kind known set state (name :: seen) steps

/-- Goes through the fields of a mapping. -/
def foldFields {σ : Type} (kind : String) (known : List String)
    (set : σ → Text → Yaml → Decoding σ) (state : σ) (entries : List (Yaml × Yaml)) :
    Decoding σ :=
  takeSteps kind known set state [] (stepsWith false entries (mergeSteps entries))

end Yaml

end TagFilter
