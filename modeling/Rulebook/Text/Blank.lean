/-
This file holds the white space of texts: the characters of Unicode's `White_Space` class, and
the trimming of a text by them. Core's own class knows ASCII only.
-/

namespace Rulebook.Text

/-- The characters of the class `White_Space`. -/
def isBlank (character : Char) : Bool :=
  let code := character.toNat
  (9 ≤ code && code ≤ 13) || code == 0x20 || code == 0x85 || code == 0xA0 || code == 0x1680
    || (0x2000 ≤ code && code ≤ 0x200A) || code == 0x2028 || code == 0x2029 || code == 0x202F
    || code == 0x205F || code == 0x3000

/-- A text without the blanks at its two ends. -/
def trimChars (characters : List Char) : List Char :=
  ((characters.dropWhile isBlank).reverse.dropWhile isBlank).reverse

/-- A text without the blanks at its two ends. -/
def trim (text : String) : String := String.ofList (trimChars text.toList)

/-- A text with its ASCII letters in lower case. -/
def lower (text : String) : String := text.map Char.toLower

end Rulebook.Text
