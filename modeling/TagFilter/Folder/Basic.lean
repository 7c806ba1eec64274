import TagFilter.Folder.Path

/-!
# Folders

A `Folder` is what lies below the place where the program runs: files with their content, and
directories.  A directory is there if it was made or if a file lies in it.
-/

namespace TagFilter

/-- Files and directories, named by their shortest paths. -/
structure Folder where
  files : List (Text × Text) := []
  directories : List Text := []
  deriving DecidableEq, Repr

/-- Why a file or directory cannot be used. -/
inductive FileProblem where
  | missing
  | notDirectory
  | isDirectory
  deriving DecidableEq, Repr

/-- The problem in words. -/
def FileProblem.message : FileProblem → String
  | missing => "no such file or directory"
  | notDirectory => "not a directory"
  | isDirectory => "is a directory"

/-- What was tried on which path, and why it did not work. -/
structure FileError where
  action : String
  path : Text
  problem : FileProblem
  deriving DecidableEq, Repr

/-- The error in words. -/
def FileError.message (e : FileError) : Text :=
  e.action ++ " " ++ e.path ++ ": " ++ e.problem.message

namespace Folder

/-- The folder with the given files. -/
def ofFiles (files : List (Text × Text)) : Folder :=
  { files := files.map fun (path, content) => (Path.clean path, content) }

/-- The content of a file. -/
def file? (f : Folder) (path : Text) : Option Text := f.files.lookup (Path.clean path)

/-- Whether a path names a directory. -/
def isDirectory (f : Folder) (path : Text) : Bool :=
  let path := Path.clean path
  path == Text.ofString "." || path == [Path.slash] || f.directories.elem path ||
    f.files.any fun (name, _) => (Path.ancestors name).dropLast.elem path

/-- Whether a path leads through a file. -/
def throughFile (f : Folder) (path : Text) : Bool :=
  (Path.ancestors path).dropLast.any fun p => (f.file? p).isSome

/-- Whether something has this path. -/
def occupied (f : Folder) (path : Text) : Bool :=
  !path.isEmpty && ((f.file? path).isSome || f.isDirectory path)

/-- Why a path that names neither a file nor a directory cannot be opened. -/
def openProblem (f : Folder) (path : Text) : FileProblem :=
  if f.throughFile path then .notDirectory else .missing

/-- Opens a file or a directory. -/
def access (f : Folder) (path : Text) : Except FileError Unit :=
  if f.occupied path then .ok () else .error ⟨"open", path, f.openProblem path⟩

/-- The content of a file that has been opened. -/
def content (f : Folder) (path : Text) : Except FileError Text :=
  match f.file? path with
  | some content => .ok content
  | none => .error ⟨"read", path, .isDirectory⟩

/-- Opens a file and reads it. -/
def read (f : Folder) (path : Text) : Except FileError Text := do
  f.access path
  f.content path

/-- Gives a file a content. -/
def write (f : Folder) (path content : Text) : Folder :=
  let path := Path.clean path
  { f with files := if f.files.any (·.1 == path)
      then f.files.map fun entry => if entry.1 == path then (path, content) else entry
      else f.files ++ [(path, content)] }

/-- Takes a file away. -/
def remove (f : Folder) (path : Text) : Folder :=
  { f with files := f.files.filter (·.1 != Path.clean path) }

/-- Makes the directories of a list, each inside the one before. -/
def makeAll (f : Folder) : List Text → Except FileError Folder
  | [] => .ok f
  | path :: paths =>
    if f.isDirectory path then f.makeAll paths
    else if (f.file? path).isSome then .error ⟨"mkdir", path, .notDirectory⟩
    else { f with directories := path :: f.directories }.makeAll paths

/-- Makes a directory and those that lead to it. -/
def makeDirectory (f : Folder) (path : Text) : Except FileError Folder :=
  f.makeAll (Path.ancestors path)

end Folder

end TagFilter
