import TagFilter.Folder.Basic
import TagFilter.Log
import TagFilter.Predicate
import TagFilter.Store.Database
import TagFilter.Store.Seed

/-!
# Stores

A store is a way to a database.  It may have been closed, or never have been opened.  Tags are put
into it one by one or loaded from a seed, and found again by statements that select.

Loading is all or nothing: a store is a value, and an operation that fails gives no new one.
-/

namespace TagFilter

/-- What a store leads to. -/
inductive Handle where
  | none
  | closed
  | opened (d : Database)
  deriving DecidableEq, Repr

/-- A way to a database, with the file that keeps it, if one does. -/
structure Store where
  handle : Handle := .none
  path? : Option Text := none
  deriving DecidableEq, Repr

/-- What goes wrong inside a database. -/
inductive DatabaseError where
  | closed
  | sql (f : Sql.Failure)
  deriving DecidableEq, Repr

/-- The error in words. -/
def DatabaseError.message : DatabaseError → Text
  | closed => "sql: database is closed"
  | sql f => f.message

/-- What goes wrong with a store. -/
inductive StoreError where
  | notOpened
  | driver (name : Text)
  | directory (e : FileError)
  | ping (driver reason : Text)
  | migration (e : DatabaseError)
  | version (e : DatabaseError)
  | tag (p : TagProblem)
  | insertion (name : Text) (e : DatabaseError)
  | seed (reason : Text)
  | transaction (e : DatabaseError)
  | tags (p : SeedProblem)
  | entry (index : Nat) (e : StoreError)
  | query (e : DatabaseError)
  deriving Repr

/-- The error in words. -/
def StoreError.message : StoreError → Text
  | notOpened => "database not opened"
  | driver name => "unsupported database driver: " ++ name.quoted
  | directory e => "failed to create database directory: " ++ e.message
  | ping name reason => "failed to ping " ++ name ++ " database: " ++ reason
  | migration e => "failed to run migrations: " ++ e.message ++ "; " ++ e.message
  | version e => e.message ++ "; " ++ e.message
  | tag p => p.message
  | insertion name e => "failed to insert tag " ++ name ++ ": " ++ e.message
  | seed reason => "failed to parse seed file: " ++ reason
  | transaction e => "failed to begin transaction: " ++ e.message
  | tags p => p.message
  | entry index e => "entry " ++ Text.ofNat index ++ ": " ++ e.message
  | query e => "query failed: " ++ e.message

namespace Store

/-! ## Opening and closing -/

/-- The name of the database that is not kept. -/
def memory : Text := ":memory:"

/-- The file of a database name. -/
def fileOf (dsn : Text) : Text :=
  let path := (dsn.dropPrefix? "file:").getD dsn
  (path.cut (byte '?')).1

/-- Whether the directory of a database is made for it. -/
def makesDirectory (dsn : Text) : Bool :=
  dsn != memory && !(Text.ofString "file:").isPrefixOf dsn && Path.parent dsn != Text.ofString "."

/-- The database in a file, or why it is none. -/
def openFile (folder : Folder) (path : Text) : Except Text Database :=
  if folder.isDirectory path ∨ folder.throughFile path ∨ !folder.isDirectory (Path.parent path) then
    .error "unable to open database file: out of memory (14)"
  else
    match Database.ofText? ((folder.file? path).getD []) with
    | some d => .ok d
    | none => .error "file is not a database (26)"

/-- Opens the database of a name, making its directory. -/
def connect (folder : Folder) (driver dsn : Text) : Except StoreError (Store × Folder) := do
  if driver = Text.ofString "sqlite" then
    let folder ←
      if makesDirectory dsn then
        (folder.makeDirectory (Path.parent dsn)).mapError .directory
      else .ok folder
    if dsn = memory then return (⟨.opened {}, none⟩, folder)
    else
      let path := fileOf dsn
      let d ← (openFile folder path).mapError (.ping driver)
      return (⟨.opened d, some path⟩, folder)
  else if driver = Text.ofString "pgx" then throw (.ping driver "no connection")
  else throw (.driver driver)

/-- Closes a store; one that was never opened stays as it is. -/
def close (s : Store) : Store :=
  match s.handle with
  | .none => s
  | _ => { s with handle := .closed }

/-- The folder with the database of a store in its file. -/
def save (s : Store) (folder : Folder) : Folder :=
  match s.handle, s.path? with
  | .opened d, some path => folder.write path d.toText
  | _, _ => folder

/-- The database of a store; `wrap` says what was tried on a closed one. -/
def database (s : Store) (wrap : DatabaseError → StoreError) : Except StoreError Database :=
  match s.handle with
  | .none => .error .notOpened
  | .closed => .error (wrap .closed)
  | .opened d => .ok d

/-- The store with another database. -/
def replace (s : Store) (d : Database) : Store := { s with handle := .opened d }

/-! ## Versions -/

/-- Makes the tag table, unless it is there. -/
def migrate (s : Store) : Except StoreError Store := do
  return s.replace (← s.database .migration).migrate

/-- The version of the schema. -/
def version (s : Store) : Except StoreError Nat := do
  return (← s.database .version).version

/-! ## Tags -/

/-- Adds a tag to a database. -/
def insertTag (d : Database) (t : NewTag) : Except StoreError Database := do
  let row ← t.row.mapError .tag
  (d.insert row).mapError fun p => .insertion t.name (.sql p)

/-- Puts a tag into a store. -/
def put (s : Store) (t : NewTag) : Except StoreError Store :=
  match s.handle with
  | .none => .error .notOpened
  | .closed =>
    match t.row with
    | .error p => .error (.tag p)
    | .ok _ => .error (.insertion t.name .closed)
  | .opened d => (insertTag d t).map s.replace

/-! ## Seeds -/

/-- The id that the `n`-th entry without one gets. -/
def freshId (n : Nat) : Text :=
  let digits := Text.hex 30 (n % Nat.pow 16 30)
  digits.take 8 ++ "-" ++ (digits.drop 8).take 4 ++ "-4" ++ (digits.drop 12).take 3 ++ "-8" ++
    (digits.drop 15).take 3 ++ "-" ++ digits.drop 18

/-- Adds the tags of one entry, and counts them. -/
def insertTags (classify : Text → Text) (entry : Text) (d : Database) :
    List SeedTag → Except StoreError Database
  | [] => .ok d
  | t :: ts => do
    insertTags classify entry (← insertTag d ⟨entry, t.name, classify t.literal, t.value⟩) ts

/-- Adds an entry: the database, the number of tags, and the number of ids that were given. -/
def insertEntry (classify : Text → Text) (issued : Nat) (d : Database) (e : SeedEntry) :
    Except StoreError (Database × Nat × Nat) := do
  let fresh := e.id.isEmpty
  let id := if fresh then freshId issued else e.id
  let tags ← e.tags.mapError .tags
  return (← insertTags classify id d tags, tags.length, if fresh then issued + 1 else issued)

/-- Adds entries, of which the first one has an index: the database, the number of tags, and the
number of ids that were given. -/
def insertEntries (classify : Text → Text) (index issued : Nat) (d : Database) :
    List SeedEntry → Except StoreError (Database × Nat × Nat)
  | [] => .ok (d, 0, issued)
  | e :: es => do
    let (d, n, issued) ← (insertEntry classify issued d e).mapError (.entry index)
    let (d, m, issued) ← insertEntries classify (index + 1) issued d es
    return (d, n + m, issued)

/-- What loading a seed gives. -/
structure Loaded where
  store : Store
  entries : Nat
  tags : Nat
  issued : Nat

/-- Loads a seed: all of its tags, or none if something is wrong with one.  `classify` names the
column of a literal, `issued` is the number of ids that have been given so far, and `decode` gives
the entries of a document. -/
def load (s : Store) (classify : Text → Text) (issued : Nat) (text : Text)
    (decode : SeedDecoder := Seed.ofText) : Except StoreError (Option Loaded) := do
  match s.handle with
  | .none => throw .notOpened
  | _ =>
    match ← (decode text).mapError .seed with
    | none => return none
    | some entries =>
      let d ← s.database .transaction
      let (d, n, issued) ← insertEntries classify 1 issued d entries
      return some ⟨s.replace d, entries.length, n, issued⟩

/-! ## Statements -/

/-- Runs a statement that selects. -/
def query (s : Store) (statement : Text) : Except StoreError Table := do
  let d ← s.database .query
  (d.select statement).mapError fun p => .query (.sql p)

/-- The statement with its placeholders in the way of a driver: `pgx` counts them. -/
def placeholders (driver : Text) (counted : Nat) : Text → Text
  | [] => []
  | b :: rest =>
    if driver = Text.ofString "pgx" ∧ b = byte '?' then
      "$" ++ Text.ofNat (counted + 1) ++ placeholders driver (counted + 1) rest
    else b :: placeholders driver counted rest

end Store

end TagFilter
