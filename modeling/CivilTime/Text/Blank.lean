/-!
# Blank characters

A character is blank if it has the White_Space property of the Unicode character database. Texts
shown to a reader are trimmed of blanks on both sides.
-/

set_option autoImplicit false

namespace CivilTime.Text

/-- The White_Space property. -/
def isBlank (c : Char) : Bool :=
  let n := c.toNat
  (0x9 ≤ n && n ≤ 0xD) || n == 0x20 || n == 0x85 || n == 0xA0 || n == 0x1680 ||
    (0x2000 ≤ n && n ≤ 0x200A) || n == 0x2028 || n == 0x2029 || n == 0x202F || n == 0x205F ||
    n == 0x3000

/-- The text without the blanks at its two ends. -/
def trim (text : List Char) : List Char :=
  ((text.dropWhile isBlank).reverse.dropWhile isBlank).reverse

example : trim "\u2003 a b\t".toList = "a b".toList := by decide

end CivilTime.Text
