/-
This file reads the words of TOML: Booleans, integers in four bases, numbers with a fraction or an
exponent, and dates and times. A number may have underscores between its digits, and must fit: an
integer into 64 bits, and any other number below infinity, unless infinity is what it says.
-/
import Rulebook.Toml.Text
import Rulebook.Toml.Date

namespace Rulebook.Toml

/-! ### Numbers -/

/-- Digits with single underscores between them, taken out. -/
def plainDigits? (isDigit : Char → Bool) : List Char → Option (List Char)
  | [] => none
  | [digit] => if isDigit digit then some [digit] else none
  | digit :: '_' :: rest =>
    if isDigit digit then (plainDigits? isDigit rest).map (digit :: ·) else none
  | digit :: rest =>
    if isDigit digit then (plainDigits? isDigit rest).map (digit :: ·) else none

/-- An integer of 64 bits. -/
def integer? (value : Int) : Option Setting :=
  if Setting.isShort value then some (.integer value) else none

/-- The value of digits in a base that has letters for the digits above nine. -/
def baseValue? (base : Nat) (digits : List Char) : Option Nat :=
  digits.foldlM (fun value digit =>
    (Document.hexDigit? digit).bind fun unit =>
      if unit < base then some (base * value + unit) else none) 0

/-- An integer in another base. -/
def baseInteger? (base : Nat) (digits : List Char) : Option Setting := do
  let plain ← plainDigits? (fun digit => (Document.hexDigit? digit).isSome) digits
  let value ← baseValue? base plain
  integer? value

/-- The digits of a whole part, with no needless zero in front. Behind a sign an underscore may
come first, and then zeros may follow it. -/
def wholeDigits? (signed : Bool) : List Char → Option (List Char)
  | '_' :: digits => if signed then plainDigits? Char.isDigit digits else none
  | digits => (plainDigits? Char.isDigit digits).filter fun plain =>
    plain.length == 1 || plain.head? != some '0'

/-- The exponent of a number: nothing, or a mark with digits. -/
def plainExponent? : List Char → Option (List Char)
  | [] => some []
  | mark :: rest =>
    if mark = 'e' ∨ mark = 'E' then
      match rest with
      | '-' :: digits => (plainDigits? Char.isDigit digits).map ('e' :: '-' :: ·)
      | '+' :: digits => (plainDigits? Char.isDigit digits).map ('e' :: ·)
      | digits => (plainDigits? Char.isDigit digits).map ('e' :: ·)
    else none

/-- Characters of digits with underscores. -/
def isDigitOrGap (character : Char) : Bool := character.isDigit || character == '_'

/-- Whether a number is an infinity. -/
def isInfinite : Number → Bool
  | .infinite _ => true
  | _ => false

/-- A decimal number. -/
def decimal? (characters : List Char) : Option Setting := do
  let (negative, unsigned) := splitSign characters
  let signed := unsigned.length != characters.length
  let whole ← wholeDigits? signed (unsigned.takeWhile isDigitOrGap)
  let rest := unsigned.dropWhile isDigitOrGap
  if rest.isEmpty then
    let size : Int := digitsValue whole
    integer? (if negative then -size else size)
  else
    let (fraction, rest) ← match rest with
      | '.' :: rest => do
        let fraction ← plainDigits? Char.isDigit (rest.takeWhile isDigitOrGap)
        some ('.' :: fraction, rest.dropWhile isDigitOrGap)
      | rest => some ([], rest)
    let exponent ← plainExponent? rest
    let value ← Number.ofText? (String.ofList (whole ++ fraction ++ exponent))
    if isInfinite value then none else some (.real (if negative then value.neg else value))

/-! ### Words -/

/-- A Boolean, number, date or time, given all its characters. -/
def word? (characters : List Char) : Option Setting :=
  match characters with
  | ['t', 'r', 'u', 'e'] => some (.bool true)
  | ['f', 'a', 'l', 's', 'e'] => some (.bool false)
  | '0' :: 'x' :: digits => baseInteger? 16 digits
  | '0' :: 'o' :: digits => baseInteger? 8 digits
  | '0' :: 'b' :: digits => baseInteger? 2 digits
  | _ =>
    let (negative, unsigned) := splitSign characters
    match unsigned with
    | ['i', 'n', 'f'] => some (.real (.infinite negative))
    | ['n', 'a', 'n'] => some (.real .nan)
    | _ =>
      match moment? characters with
      | some moment => some (.text moment.display)
      | none => decimal? characters

/-- Characters of words. -/
def isWordCharacter (character : Char) : Bool :=
  Setting.isNameCharacter character || character == '+' || character == '.' || character == ':'

/-- The characters of a word at the front, and what follows. A single blank between a date and a
time belongs to the word. -/
def spanWord (characters : List Char) : List Char × List Char :=
  let word := characters.takeWhile isWordCharacter
  let rest := characters.dropWhile isWordCharacter
  match (readDate word).map Prod.snd, rest with
  | some [], ' ' :: next :: following =>
    if isWordCharacter next then
      (word ++ ' ' :: (next :: following).takeWhile isWordCharacter,
        (next :: following).dropWhile isWordCharacter)
    else (word, rest)
  | _, _ => (word, rest)

/-- A word at the front. -/
def readWord (characters : List Char) : Option (Setting × List Char) :=
  let (word, rest) := spanWord characters
  (word? word).map fun value => (value, rest)

end Rulebook.Toml
