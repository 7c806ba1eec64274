import TagFilter.Text.Utf8
import TagFilter.Text.Printable

/-!
# Quoted texts

`Text.quoted` writes a text between double quotes on one line, `Text.quotedChar` a character between
single ones.  Quotes and backslashes get a backslash, the usual controls their letter, and
everything else that does not print its number.
-/

namespace TagFilter.Text

/-- A number in lower-case hexadecimal digits, padded with zeros to a width. -/
def hex (width : Nat) (n : Nat) : Text :=
  let digits := ofString (String.ofList (Nat.toDigits 16 n))
  List.replicate (width - digits.length) (byte '0') ++ digits

/-- How one piece of a text stands between quotes. -/
def quotedPiece (quote : Char) (piece : Char × Text) : Text :=
  let n := piece.1.toNat
  if isStray piece then "\\x" ++ piece.2.flatMap fun b => hex 2 b.toNat
  else if piece.1 == quote || piece.1 == '\\' then byte '\\' :: piece.2
  else if isPrintable piece.1 then piece.2
  else
    match n with
    | 7 => "\\a"
    | 8 => "\\b"
    | 9 => "\\t"
    | 10 => "\\n"
    | 11 => "\\v"
    | 12 => "\\f"
    | 13 => "\\r"
    | _ =>
      if n < 0x20 || n == 0x7F then "\\x" ++ hex 2 n
      else if n < 0x10000 then "\\u" ++ hex 4 n
      else "\\U" ++ hex 8 n

/-- A text between double quotes, on one line and printable. -/
def quoted (t : Text) : Text := "\"" ++ t.pieces.flatMap (quotedPiece '"') ++ "\""

/-- A character between single quotes, on one line and printable. -/
def quotedChar (c : Char) : Text := "'" ++ quotedPiece '\'' (c, encode [c]) ++ "'"

end TagFilter.Text
