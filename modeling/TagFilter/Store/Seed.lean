import TagFilter.Store.Row
import TagFilter.Yaml.Decode
import TagFilter.Yaml.Reader

/-!
# Seeds

A seed is a YAML document that lists entries.  Each has an id, unless it is to get a new one, and a
mapping of tag names to scalars.  `Seed.ofText` reads the entries, and `SeedEntry.tags` the tags of
one of them.
-/

namespace TagFilter

/-- An entry of a seed; its tags are still a node. -/
structure SeedEntry where
  id : Text := []
  tags? : Option Yaml := none
  deriving Repr

/-- A tag of a seed. -/
structure SeedTag where
  name : Text
  value : Text
  quoted : Bool
  deriving DecidableEq, Repr

/-- The literal that decides the column of a tag: a quoted scalar is one with quotes. -/
def SeedTag.literal (t : SeedTag) : Text := if t.quoted then "'" ++ t.value ++ "'" else t.value

/-- Why the tags of an entry are none. -/
inductive SeedProblem where
  | notMapping (line : Nat)
  | notScalar (name : Text) (line : Nat)
  deriving DecidableEq, Repr

/-- The problem in words. -/
def SeedProblem.message : SeedProblem → Text
  | notMapping line => "tags must be a mapping (line " ++ Text.ofNat line ++ ")"
  | notScalar name line =>
    "tag " ++ name ++ ": value must be a scalar (line " ++ Text.ofNat line ++ ")"

/-- The tags of the entries of a mapping. -/
def seedTags : List (Yaml × Yaml) → Except SeedProblem (List SeedTag)
  | [] => .ok []
  | (key, value) :: entries =>
    match value with
    | .scalar text style _ _ => do return ⟨key.text, text, style.isQuoted⟩ :: (← seedTags entries)
    | _ => .error (.notScalar key.text value.line)

/-- The tags of an entry, in the order of the document. -/
def SeedEntry.tags (e : SeedEntry) : Except SeedProblem (List SeedTag) :=
  match e.tags? with
  | none => .ok []
  | some (.mapping entries _ _) => seedTags entries
  | some node => .error (.notMapping node.line)

/-- A way to decode a seed: to its entries, to none if the text holds no document, or to the reason
why it is no seed. -/
abbrev SeedDecoder := Text → Except Text (Option (List SeedEntry))

namespace Seed

/-- Gives an entry a field. -/
def setField (e : SeedEntry) (name : Text) (value : Yaml) : Decoding SeedEntry := do
  if name = Text.ofString "id" then return { e with id := (← value.toText?).getD e.id }
  else return { e with tags? := some value }

/-- The entry that a node makes; nothing makes none. -/
def entry? : Yaml → Decoding (Option SeedEntry)
  | .mapping fields _ _ => do
    return some (← Yaml.foldFields "store.seedEntry" ["id", "tags"] setField {} fields)
  | .enclosing true _ _ => return some {}
  | .reference _ target _ => entry? target
  | node => do
    node.refuseValue "store.seedEntry"
    return none

/-- The entries that a node makes. -/
def entries : Yaml → Decoding (List SeedEntry)
  | .sequence items _ _ => return (← items.mapM entry?).filterMap id
  | .reference _ target _ => entries target
  | node => do
    node.refuseValue "[]store.seedEntry"
    return []

/-- The entries of a document. -/
def ofNode : Yaml → Decoding (List SeedEntry)
  | .mapping fields _ _ =>
    Yaml.foldFields "store.seedFile" ["entries"] (fun _ _ value => entries value) [] fields
  | node => do
    node.refuseValue "store.seedFile"
    return []

/-- The entries of a seed; none if the text holds no document. -/
def ofText : SeedDecoder := fun t => do
  match ← (Yaml.read t).mapError YamlError.message with
  | none => return none
  | some node => return some (← (ofNode node).result)

end Seed

end TagFilter
