/-
This file writes texts in double quotes, the way messages list names: quotes, backslashes and the
usual control characters get a backslash, and every character that cannot be seen on its own is
written by its code.
-/
import Rulebook.CharSet.Recent

namespace Rulebook.Text

/-- Characters that cannot be seen on their own: controls, formats, private and unassigned codes,
separators other than the plain blank, fillers, and marks that extend the character before them.
The two sound marks of half width are letters and can be seen. -/
def hidden : CharSet :=
  let unseen := (CharSet.ofCategories ["Cc", "Cf", "Cs", "Co", "Cn", "Zl", "Zp", "Zs"]).difference
    CharSet.recent
  let marks := (CharSet.graphemeExtend.union CharSet.recentMarks).difference ⟨[(0xFF9E, 0xFF9F)]⟩
  ((unseen.union marks).union CharSet.defaultIgnorableCodePoint).difference
    (CharSet.singleton ' ')

/-- One character between the quotes. -/
def quotedChar (character : Char) : List Char :=
  match character with
  | '\x00' => ['\\', '0']
  | '\t' => ['\\', 't']
  | '\n' => ['\\', 'n']
  | '\r' => ['\\', 'r']
  | '"' => ['\\', '"']
  | '\\' => ['\\', '\\']
  | _ =>
    if hidden.contains character then
      ['\\', 'u', '{'] ++ Nat.toDigits 16 character.toNat ++ ['}']
    else [character]

/-- A text in double quotes. -/
def quoted (text : String) : String :=
  String.ofList ('"' :: (text.toList.flatMap quotedChar ++ ['"']))

/-- Texts in double quotes between brackets. -/
def quotedList (texts : List String) : String :=
  "[" ++ ", ".intercalate (texts.map quoted) ++ "]"

end Rulebook.Text
