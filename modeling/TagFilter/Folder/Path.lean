import TagFilter.Text.Basic

/-!
# Paths

A path is a text with slashes.  `Path.clean` writes it in the shortest way that names the same
place: no empty parts, no single dots, and no part that a double dot takes back.
-/

namespace TagFilter.Path

/-- The byte between the parts of a path. -/
def slash : UInt8 := byte '/'

/-- Whether a path starts at the root. -/
def isRooted (path : Text) : Bool := path.head? == some slash

/-- Adds a part to the parts before it, the last one first. -/
def push (rooted : Bool) (parts : List Text) (part : Text) : List Text :=
  if part = [] ∨ part = Text.ofString "." then parts
  else if part = Text.ofString ".." then
    match parts with
    | [] => if rooted then [] else [part]
    | last :: before => if last = Text.ofString ".." then part :: parts else before
  else part :: parts

/-- The parts of a path in its shortest form. -/
def parts (path : Text) : List Text :=
  ((path.splitOn slash).foldl (push (isRooted path)) []).reverse

/-- The path with given parts. -/
def ofParts (rooted : Bool) (parts : List Text) : Text :=
  let joined := Text.join [slash] parts
  if rooted then slash :: joined else if parts.isEmpty then "." else joined

/-- The shortest form of a path. -/
def clean (path : Text) : Text := ofParts (isRooted path) (parts path)

/-- The directory that a path lies in. -/
def parent (path : Text) : Text :=
  clean ((path.reverse.dropWhile (· != slash)).reverse)

/-- The last part of a path. -/
def base (path : Text) : Text :=
  let trimmed := path.reverse.dropWhile (· == slash)
  if path.isEmpty then "."
  else if trimmed.isEmpty then [slash]
  else (trimmed.takeWhile (· != slash)).reverse

/-- The paths that lead to a place, the shortest first: of `a/b/c` these are `a`, `a/b` and `a/b/c`.
-/
def ancestors (path : Text) : List Text :=
  let parts := parts path
  (List.range parts.length).map fun i => ofParts (isRooted path) (parts.take (i + 1))

end TagFilter.Path
