/-
This file reads a double from a text, the way a number written in a rule is read: an optional
sign, then decimal digits with an optional point and exponent, or the name of an infinity or of
NaN in any case. The result is the double nearest to the decimal that is written.
-/
import Rulebook.Number.Decimal
import Rulebook.Text.Blank

namespace Rulebook

/-- The digits at the front of a text, and what follows them. -/
def spanDigits (characters : List Char) : List Char × List Char :=
  (characters.takeWhile Char.isDigit, characters.dropWhile Char.isDigit)

/-- The number that decimal digits spell. -/
def digitsValue (digits : List Char) : Nat :=
  digits.foldl (fun value digit => 10 * value + (digit.toNat - '0'.toNat)) 0

/-- A sign in front of a text, if there is one: whether it is a minus, and what follows. -/
def splitSign : List Char → Bool × List Char
  | '-' :: rest => (true, rest)
  | '+' :: rest => (false, rest)
  | characters => (false, characters)

namespace Number

/-- The exponent at the end of a decimal: nothing, or `e`, an optional sign and digits. -/
def exponentOf? : List Char → Option Int
  | [] => some 0
  | mark :: rest =>
    if mark = 'e' ∨ mark = 'E' then
      let (negative, digits) := splitSign rest
      if digits.isEmpty || !digits.all Char.isDigit then none
      else
        let size : Int := digitsValue digits
        some (if negative then -size else size)
    else none

/-- The fraction digits behind a decimal point, if there is one, and what follows. -/
def splitFraction : List Char → List Char × List Char
  | '.' :: rest => spanDigits rest
  | characters => ([], characters)

/-- A decimal without its sign: digits with an optional point and at least one digit, then an
optional exponent. -/
def decimalOf? (negative : Bool) (characters : List Char) : Option Number :=
  let (whole, afterWhole) := spanDigits characters
  let (fraction, afterFraction) := splitFraction afterWhole
  if whole.isEmpty && fraction.isEmpty then none
  else
    (exponentOf? afterFraction).map fun exponent =>
      ofDecimal negative (digitsValue (whole ++ fraction)) (exponent - fraction.length)

/-- The number a text spells, without blanks around it. -/
def ofText? (text : String) : Option Number :=
  let (negative, unsigned) := splitSign text.toList
  let word := unsigned.map Char.toLower
  if word = ['i', 'n', 'f'] ∨ word = ['i', 'n', 'f', 'i', 'n', 'i', 't', 'y'] then
    some (.infinite negative)
  else if word = ['n', 'a', 'n'] then some .nan
  else decimalOf? negative unsigned

end Number

end Rulebook
