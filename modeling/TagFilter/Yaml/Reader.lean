import TagFilter.Yaml.Source

/-!
# Reading YAML

`Yaml.read` puts the nodes of the first document of a text together from its lexemes.  What follows
that document is not read.  The reader descends into nested collections, and every lexeme belongs to
one step of it, so a depth bounded by the length of the text is enough.
-/

namespace TagFilter.Yaml

/-- What reading keeps: the source, a bound for the number of its lexemes, the nodes that have been
given names, the last one first, and what the handles of tags stand for. -/
structure ReadingState where
  source : Source
  bound : Nat
  names : List (Text × Yaml) := []
  handles : List (Text × Text) := []

/-- Reading nodes. -/
abbrev Reader := StateT ReadingState (Except YamlError)

/-- Looks at the next lexeme. -/
def peek : Reader Lexeme := do
  let state ← get
  let source ← state.source.fill state.bound
  set { state with source }
  return source.ahead.headD ⟨.streamEnd, source.mark⟩

/-- Moves past a lexeme. -/
def skip : Reader Unit := modify fun state => { state with source := state.source.drop }

/-- Moves past a lexeme and looks at the one behind it. -/
def skipPeek : Reader Lexeme := do
  skip
  peek

/-- The scalar that stands for a value left out at a lexeme. -/
def nothingAt (l : Lexeme) : Yaml := nothing (l.start.line + 1)

/-! ## Names and tags -/

/-- The node that a reference stands for. -/
def namedNode (name : Text) (line : Nat) : Reader Yaml := do
  match (← get).names.lookup name with
  | some target => return .reference name target line
  | none => throw ⟨none, "unknown anchor '" ++ name ++ "' referenced"⟩

/-- What stands in front of a node: an anchor, a tag, and where they start. -/
structure Properties where
  anchor? : Option Text := none
  tag? : Option Text := none
  start : Mark

/-- The tag that a handle and a suffix write. -/
def expandedTag (start : Mark) (l : Lexeme) (handle suffix : Text) : Reader Text := do
  if handle.isEmpty then return suffix
  match (← get).handles.lookup handle with
  | some uri => return uri ++ suffix
  | none => throw (nodeProblem start l.start "found undefined tag handle")

/-- Reads an anchor and a tag, in either order. -/
def properties : Reader Properties := do
  let first ← peek
  let start := first.start
  match first.kind with
  | .anchor name =>
    let second ← skipPeek
    match second.kind with
    | .tag handle suffix =>
      let _ ← skipPeek
      return ⟨name, ← expandedTag start second handle suffix, start⟩
    | _ => return ⟨name, none, start⟩
  | .tag handle suffix =>
    let second ← skipPeek
    match second.kind with
    | .anchor name =>
      let _ ← skipPeek
      return ⟨name, ← expandedTag start first handle suffix, start⟩
    | _ => return ⟨none, ← expandedTag start first handle suffix, start⟩
  | _ => return ⟨none, none, start⟩

/-- What the tags of the standard start with. -/
def standardTags : Text := "tag:yaml.org,2002:"

/-- The short form of the tag of a node; a lone exclamation mark says nothing. -/
def Properties.tag (p : Properties) : Text :=
  match p.tag? with
  | none => []
  | some tag =>
    if tag = Text.ofString "!" then []
    else
      match Text.dropPrefix? tag standardTags with
      | some name => "!!" ++ name
      | none => tag

/-- The line of a node. -/
def Properties.line (p : Properties) : Nat := p.start.line + 1

/-- Gives a node its name. -/
def Properties.name (p : Properties) (node : Yaml) : Reader Yaml := do
  match p.anchor? with
  | some name => modify fun state => { state with names := (name, node) :: state.names }
  | none => pure ()
  return node

/-- Reads a collection, which has its name before its items are read. -/
def Properties.collection (p : Properties) (isMapping : Bool) (read : Reader Yaml) :
    Reader Yaml := do
  let before := (← get).names.length
  let _ ← p.name (.enclosing isMapping p.tag p.line)
  let node ← read
  match p.anchor? with
  | some name => modify fun state =>
      { state with names := state.names.set (state.names.length - 1 - before) (name, node) }
  | none => pure ()
  return node

/-! ## Nodes -/

mutual

/-- Reads a node.  Blocks may only start outside brackets, and a sequence that is not indented only
as a key or a value. -/
def node (inBlock unindented : Bool) : Nat → Reader Yaml
  | 0 => do throw (nodeProblem {} (← peek).start "did not find expected node content")
  | fuel + 1 => do
    let first ← peek
    match first.kind with
    | .reference name => do
      skip
      namedNode name (first.start.line + 1)
    | _ => do
      let p ← properties
      let next ← peek
      let absent : Reader Yaml :=
        if p.anchor?.isSome || p.tag?.isSome then p.name (.scalar [] .plain p.tag p.line)
        else throw (nodeProblem p.start next.start "did not find expected node content")
      let sequenceOf (items : Reader (List Yaml)) : Reader Yaml :=
        p.collection false do return .sequence (← items) p.tag p.line
      let mappingOf (entries : Reader (List (Yaml × Yaml))) : Reader Yaml :=
        p.collection true do return .mapping (← entries) p.tag p.line
      match next.kind with
      | .dash => if unindented then sequenceOf (dashItems [] fuel) else absent
      | .scalar text style => do
        skip
        p.name (.scalar text style p.tag p.line)
      | .openBracket => sequenceOf do
          skip
          bracketItems next.start true [] fuel
      | .openBrace => mappingOf do
          skip
          braceEntries next.start true [] fuel
      | .sequenceStart =>
        if inBlock then sequenceOf do
          skip
          blockItems next.start [] fuel
        else absent
      | .mappingStart =>
        if inBlock then mappingOf do
          skip
          blockEntries next.start [] fuel
        else absent
      | _ => absent

/-- Reads the items of a sequence with dashes in the column of the mapping around it. -/
def dashItems (items : List Yaml) : Nat → Reader (List Yaml)
  | 0 => do throw (nodeProblem {} (← peek).start "did not find expected node content")
  | fuel + 1 => do
    let dash ← peek
    match dash.kind with
    | .dash => do
      let next ← skipPeek
      let item ← match next.kind with
        | .dash | .key | .value | .blockEnd => pure (nothingAt dash)
        | _ => node true false fuel
      dashItems (item :: items) fuel
    | _ => return items.reverse

/-- Reads the items of a block sequence. -/
def blockItems (start : Mark) (items : List Yaml) : Nat → Reader (List Yaml)
  | 0 => do throw (nodeProblem {} (← peek).start "did not find expected node content")
  | fuel + 1 => do
    let dash ← peek
    match dash.kind with
    | .dash => do
      let next ← skipPeek
      let item ← match next.kind with
        | .dash | .blockEnd => pure (nothingAt dash)
        | _ => node true false fuel
      blockItems start (item :: items) fuel
    | .blockEnd => do
      skip
      return items.reverse
    | _ => throw (nodeProblem start dash.start "did not find expected '-' indicator")

/-- Reads the entries of a block mapping. -/
def blockEntries (start : Mark) (entries : List (Yaml × Yaml)) :
    Nat → Reader (List (Yaml × Yaml))
  | 0 => do throw (nodeProblem {} (← peek).start "did not find expected node content")
  | fuel + 1 => do
    let first ← peek
    match first.kind with
    | .key => do
      let next ← skipPeek
      let key ← match next.kind with
        | .key | .value | .blockEnd => pure (nothingAt first)
        | _ => node true true fuel
      let colon ← peek
      let value ← match colon.kind with
        | .value => do
          let next ← skipPeek
          match next.kind with
          | .key | .value | .blockEnd => pure (nothingAt colon)
          | _ => node true true fuel
        | _ => pure (nothingAt colon)
      blockEntries start ((key, value) :: entries) fuel
    | .blockEnd => do
      skip
      return entries.reverse
    | _ => throw (nodeProblem start first.start "did not find expected key")

/-- Reads the items between brackets; before each but the first a comma is due. -/
def bracketItems (start : Mark) (isFirst : Bool) (items : List Yaml) : Nat → Reader (List Yaml)
  | 0 => do throw (nodeProblem {} (← peek).start "did not find expected node content")
  | fuel + 1 => do
    let first ← peek
    let next ← match first.kind with
      | .closeBracket => pure first
      | .comma => if isFirst then pure first else skipPeek
      | _ =>
        if isFirst then pure first
        else throw (nodeProblem start first.start "did not find expected ',' or ']'")
    match next.kind with
    | .closeBracket => do
      skip
      return items.reverse
    | .key => do
      let pair ← bracketPair (next.start.line + 1) fuel
      bracketItems start false (pair :: items) fuel
    | _ => do
      let item ← node false false fuel
      bracketItems start false (item :: items) fuel

/-- Reads a mapping of one entry that stands between brackets, from its key on. -/
def bracketPair (line : Nat) : Nat → Reader Yaml
  | 0 => do throw (nodeProblem {} (← peek).start "did not find expected node content")
  | fuel + 1 => do
    let next ← skipPeek
    let key ← match next.kind with
      | .value | .comma | .closeBracket => do
        skip
        pure (nothingAt next)
      | _ => node false false fuel
    let colon ← peek
    let value ← match colon.kind with
      | .value => do
        let next ← skipPeek
        match next.kind with
        | .comma | .closeBracket => pure (nothingAt colon)
        | _ => node false false fuel
      | _ => pure (nothingAt colon)
    return .mapping [(key, value)] [] line

/-- Reads the entries between braces; before each but the first a comma is due. -/
def braceEntries (start : Mark) (isFirst : Bool) (entries : List (Yaml × Yaml)) :
    Nat → Reader (List (Yaml × Yaml))
  | 0 => do throw (nodeProblem {} (← peek).start "did not find expected node content")
  | fuel + 1 => do
    let first ← peek
    let next ← match first.kind with
      | .closeBrace => pure first
      | .comma => if isFirst then pure first else skipPeek
      | _ =>
        if isFirst then pure first
        else throw (nodeProblem start first.start "did not find expected ',' or '\x7d'")
    match next.kind with
    | .closeBrace => do
      skip
      return entries.reverse
    | .key => do
      let next ← skipPeek
      let key ← match next.kind with
        | .value | .comma | .closeBrace => pure (nothingAt next)
        | _ => node false false fuel
      let colon ← peek
      let value ← match colon.kind with
        | .value => do
          let next ← skipPeek
          match next.kind with
          | .comma | .closeBrace => pure (nothingAt next)
          | _ => node false false fuel
        | _ => pure (nothingAt colon)
      braceEntries start false ((key, value) :: entries) fuel
    | _ => do
      let key ← node false false fuel
      let value := nothingAt (← peek)
      braceEntries start false ((key, value) :: entries) fuel

end

/-! ## Documents -/

/-- The handles that stand for something without a directive. -/
def standardHandles : List (Text × Text) := [("!", "!"), ("!!", standardTags)]

/-- Reads the directives in front of a document. -/
def directives (version : Bool) (handles : List (Text × Text)) : Nat → Reader Unit
  | 0 => return
  | fuel + 1 => do
    let l ← peek
    match l.kind with
    | .version major minor => do
      if version then throw (nodeProblem {} l.start "found duplicate %YAML directive")
      if major ≠ 1 || minor ≠ 1 then
        throw (nodeProblem {} l.start "found incompatible YAML document")
      skip
      directives true handles fuel
    | .handle name uri => do
      if (handles.lookup name).isSome then
        throw (nodeProblem {} l.start "found duplicate %TAG directive")
      skip
      directives version ((name, uri) :: handles) fuel
    | _ => modify fun state => { state with handles := handles ++ standardHandles }

/-- Reads a document: none if the text holds nothing but blanks and comments. -/
def document (fuel : Nat) : Reader (Option Yaml) := do
  let first ← peek
  match first.kind with
  | .streamEnd => return none
  | .version _ _ | .handle _ _ | .documentStart => do
    directives false [] fuel
    let start ← peek
    match start.kind with
    | .documentStart => skip
    | _ => throw (nodeProblem {} start.start "did not find expected <document start>")
    let next ← peek
    let root ← match next.kind with
      | .version _ _ | .handle _ _ | .documentStart | .documentEnd | .streamEnd =>
        pure (nothingAt next)
      | _ => node true false fuel
    let _ ← peek
    return some root
  | _ => do
    directives false [] fuel
    let root ← node true false fuel
    let _ ← peek
    return some root

/-- The characters with a return and a newline behind it as one line break. -/
def joinBreaks : List Char → List Char
  | [] => []
  | c :: rest => if c = '\r' ∧ rest.head? = some '\n' then joinBreaks rest else c :: joinBreaks rest

/-- The first document of a text. -/
def read (t : Text) : Except YamlError (Option Yaml) :=
  let chars := t.decode
  let chars := if chars.head?.map Char.toNat = some 0xFEFF then chars.tail else chars
  let chars := joinBreaks chars
  if chars.all isAllowed then
    let bound := 8 * chars.length + 16
    (document bound).run' { source := { cursor := { rest := chars } }, bound }
  else .error ⟨none, "control characters are not allowed"⟩

end TagFilter.Yaml
