import TagFilter.Text.Utf8

/-!
# Blanks around a text

`isBlank` is the White_Space property of the Unicode character database: the ASCII blanks, the next
line control, the no-break space and the wide and thin spaces.  `Text.trim` takes blanks off both
ends.
-/

namespace TagFilter.Text

/-- Whether a character is white space. -/
def isBlank (c : Char) : Bool :=
  let n := c.toNat
  (9 ≤ n && n ≤ 13) || n == 0x20 || n == 0x85 || n == 0xA0 || n == 0x1680 ||
    (0x2000 ≤ n && n ≤ 0x200A) || n == 0x2028 || n == 0x2029 || n == 0x202F || n == 0x205F ||
    n == 0x3000

/-- The text without the white space in front. -/
def trimStart (t : Text) : Text :=
  ((t.pieces.dropWhile fun p => isBlank p.1).map Prod.snd).flatten

/-- The text without the white space at its end. -/
def trimEnd (t : Text) : Text :=
  ((t.pieces.reverse.dropWhile fun p => isBlank p.1).reverse.map Prod.snd).flatten

/-- The text without the white space at both ends. -/
def trim (t : Text) : Text := trimEnd (trimStart t)

end TagFilter.Text
