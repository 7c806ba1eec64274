import TagFilter.Command.Run

/-!
# The program

The files and directories that a command line and its settings name are read into a folder, the
command runs on that folder, and what has changed in it is written back.
-/

namespace TagFilter.Main

/-- What a path leads to: a file, a directory, or nothing. -/
def look (folder : Folder) (path : Text) : IO Folder := do
  let some name := path.toString? | return folder
  if name.isEmpty then return folder
  try
    let content ← IO.FS.readBinFile name
    return folder.write path content.data.toList
  catch
    | .noFileOrDirectory .. => return folder
    | _ => return { folder with directories := Path.clean path :: folder.directories }

/-- Looks at paths and at what leads to them. -/
def lookAll (folder : Folder) (paths : List Text) : IO Folder :=
  (paths.flatMap Path.ancestors).foldlM look folder

/-- Writes what has changed in a folder. -/
def save (before after : Folder) : IO Unit := do
  for path in after.directories.reverse do
    if !before.directories.contains path then
      if let some name := path.toString? then IO.FS.createDirAll name
  for (path, content) in after.files do
    if before.files.lookup path != some content then
      if let some name := path.toString? then
        IO.FS.writeBinFile name ⟨content.toArray⟩

/-- Prints what a command has to say. -/
def tell (o : Output) : IO Unit := do
  let out ← IO.getStdout
  out.write ⟨o.out.toArray⟩
  out.flush
  let err ← IO.getStderr
  err.write ⟨o.err.toArray⟩
  err.flush

/-- The values of the environment variables. -/
def environment : IO Settings.Environment := do
  try
    let bytes ← IO.FS.readBinFile "/proc/self/environ"
    return (Text.splitOn 0 bytes.data.toList).filterMap fun entry =>
      match Text.cut (byte '=') entry with
      | (name, some value) => some (name, value)
      | (_, none) => none
  catch _ => return []

/-- Reads the rest of a stream. -/
partial def readAll (stream : IO.FS.Stream) (before : ByteArray) : IO ByteArray := do
  let part ← stream.read 65536
  if part.isEmpty then return before else readAll stream (before ++ part)

/-- Evaluates lines as they come. -/
partial def converse (input : IO.FS.Stream) (s : Session) : IO Session := do
  let line ← input.getLine
  if line.isEmpty then return s
  let reply := s.eval (Text.ofString line)
  tell reply.output
  if reply.quit then return reply.session else converse input reply.session

/-- Renders a batch whenever its file changes. -/
partial def keepWatch (w : Watch) (folder : Folder) : IO Unit := do
  IO.sleep 100
  let now ← look { folder with files := [] } w.path
  let changed := now.file? w.path != folder.file? w.path && (now.file? w.path).isSome
  let w := if changed then w.notice w.path .written else w
  let (w, output) := w.fire now
  tell output
  keepWatch w now

/-- Runs a command line; the exit code says whether it failed. -/
def run (args : List String) : IO UInt32 := do
  let words := args.map Text.ofString
  let env ← environment
  let named ← lookAll {} (Settings.fileNames.map Text.ofString ++ Program.pathsNamed words)
  let folder ← lookAll named (Program.pathsSet env words named)
  let stdin ← IO.getStdin
  let input ← if Program.readsInput words then readAll stdin .empty else pure .empty
  let seed := (← IO.getRandomBytes 15).data.foldl (fun n b => 256 * n + b.toNat) 0
  let program := Program.start env words input.data.toList
  let (result, p) := (ExceptT.run program).run ⟨folder, seed, {}⟩
  tell p.output
  save folder p.folder
  match result with
  | .error f =>
    tell (.errorLine ("Error: " ++ f.message))
    return 1
  | .ok (_, .done) => return 0
  | .ok (_, .session s) =>
    tell s.banner
    let s ← converse stdin s
    save p.folder s.folder
    return 0
  | .ok (_, .watching w) =>
    keepWatch w p.folder
    return 0

end TagFilter.Main

/-- Runs the command line of the program. -/
def main (args : List String) : IO UInt32 := TagFilter.Main.run args
