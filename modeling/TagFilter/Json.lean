import TagFilter.Text.Quoted

/-!
# JSON documents

`Json` is a document, `Json.write` its text: one member a line, two blanks of indentation a level,
a newline at the end, and `{}` or `[]` for what is empty.  Inside strings the characters that
are markup in HTML and the two Unicode line separators are written as numbers.
-/

namespace TagFilter

/-- A JSON document; members keep their order. -/
inductive Json where
  | null
  | bool (b : Bool)
  | num (n : Int)
  | str (t : Text)
  | arr (items : List Json)
  | obj (members : List (Text × Json))
  deriving Inhabited

namespace Json

/-- How one piece of a text stands in a JSON string. -/
def escapePiece (piece : Char × Text) : Text :=
  let n := piece.1.toNat
  if Text.isStray piece then "\\ufffd"
  else if n == 0x22 || n == 0x5C then byte '\\' :: piece.2
  else if n == 8 then "\\b"
  else if n == 9 then "\\t"
  else if n == 10 then "\\n"
  else if n == 12 then "\\f"
  else if n == 13 then "\\r"
  else if n < 0x20 || n == 0x26 || n == 0x3C || n == 0x3E || n == 0x2028 || n == 0x2029 then
    "\\u" ++ Text.hex 4 n
  else piece.2

/-- A text as a JSON string. -/
def quote (t : Text) : Text := "\"" ++ t.pieces.flatMap escapePiece ++ "\""

/-- A new line at a level of indentation. -/
def newline (level : Nat) : Text := byte '\n' :: List.replicate (2 * level) (byte ' ')

mutual

/-- The text of a document at a level of indentation. -/
def writeAt (level : Nat) : Json → Text
  | null => "null"
  | bool b => if b then "true" else "false"
  | num n => Text.ofInt n
  | str t => quote t
  | arr [] => "[]"
  | arr items => "[" ++ writeItems (level + 1) items ++ newline level ++ "]"
  | obj [] => "\x7b\x7d"
  | obj members => "\x7b" ++ writeMembers (level + 1) members ++ newline level ++ "\x7d"

/-- The items of an array, each on lines of its own. -/
def writeItems (level : Nat) : List Json → Text
  | [] => []
  | [item] => newline level ++ writeAt level item
  | item :: items => newline level ++ writeAt level item ++ "," ++ writeItems level items

/-- The members of an object, each on lines of its own. -/
def writeMembers (level : Nat) : List (Text × Json) → Text
  | [] => []
  | [(key, value)] => newline level ++ quote key ++ ": " ++ writeAt level value
  | (key, value) :: members =>
    newline level ++ quote key ++ ": " ++ writeAt level value ++ "," ++ writeMembers level members

end

/-- The text of a document. -/
def write (j : Json) : Text := j.writeAt 0 ++ "\n"

end Json

end TagFilter
