import TagFilter.Json
import TagFilter.Tree.Basic

/-!
# Dumps of trees

`Tree.toXml` writes a tree as an XML document with one element a node and `Tree.toJson` as a JSON
document with one object a node.  In XML the text of a leaf has its markup, blanks and controls
escaped, and a backslash stands before each quote inside it that is the one it starts with.
-/

namespace TagFilter.Tree

/-! ## XML -/

/-- A character of a leaf in XML; `inner` says that it is neither the first nor the last. -/
def escapeXmlChar (quote : Char) (inner : Bool) (c : Char) : Text :=
  if c = '<' then "&lt;"
  else if c = '>' then "&gt;"
  else if c = '&' then "&amp;"
  else if c = '\'' ∨ c = '"' then
    if c = quote ∧ inner = true then byte '\\' :: Text.encode [c] else Text.encode [c]
  else if c.toNat ≤ 0x20 ∨ 0x80 ≤ c.toNat ∧ c.toNat ≤ 0xA0 then
    "&#" ++ Text.ofNat c.toNat ++ ";"
  else Text.encode [c]

/-- The characters after the first one of a leaf in XML. -/
def escapeXmlTail (quote : Char) : List Char → Text
  | [] => []
  | [c] => escapeXmlChar quote false c
  | c :: cs => escapeXmlChar quote true c ++ escapeXmlTail quote cs

/-- The text of a leaf in XML. -/
def escapeXml (t : Text) : Text :=
  match t.decode with
  | [] => []
  | c :: cs => escapeXmlChar c false c ++ escapeXmlTail c cs

/-- The indentation of a level. -/
def indent (level : Nat) : Text := List.replicate (2 * level) (byte ' ')

/-- The elements of a tree at a level of indentation. -/
def xmlAt (level : Nat) : Tree → Text
  | absent => []
  | leaf text => indent level ++ "<arg>" ++ escapeXml text ++ "</arg>\n"
  | node tag left right =>
    if tag = .op .nop then indent level ++ "<arg></arg>\n"
    else
      indent level ++ "<" ++ tag.name ++ ">\n" ++ left.xmlAt (level + 1) ++
        right.xmlAt (level + 1) ++ indent level ++ "</" ++ tag.name ++ ">\n"

/-- The XML document of a tree. -/
def toXml (t : Tree) : Text := "<query>\n" ++ t.xmlAt 1 ++ "</query>\n"

/-! ## JSON -/

/-- A member of an object, left out when the child is missing. -/
def childMember (key : String) : Tree → Json → List (Text × Json)
  | absent, _ => []
  | _, j => [((key : Text), j)]

/-- The JSON document of a tree. -/
def toJson : Tree → Json
  | absent => .null
  | leaf text =>
    .obj (("op", .str "nop") :: if text.isEmpty then [] else [("value", .str text)])
  | node tag left right =>
    .obj (("op", .str tag.name) ::
      (childMember "left" left left.toJson ++ childMember "right" right right.toJson))

end TagFilter.Tree
