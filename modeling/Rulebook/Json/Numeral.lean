/-
This file gives the numbers of JSON texts their meaning. A number without fraction and exponent
that fits 64 bits is an integer. Any other number is a double, and it is computed with two
roundings and not one: digits are taken into a 64-bit significand as long as they fit, the
significand becomes a double, and that double is multiplied or divided by a power of ten. So the
last bit of a long decimal may differ from the nearest double.
-/
import Rulebook.Number.Reading

namespace Rulebook

/-- A number as it stands in a JSON text. -/
structure WrittenNumber where
  negative : Bool
  /-- The digits in front of the decimal point. -/
  whole : List Char
  /-- The digits behind the decimal point; empty if there is no point. -/
  fraction : List Char
  /-- Whether the exponent is negative, and its digits. -/
  exponent : Option (Bool × List Char)
  deriving DecidableEq

/-- What a number of a JSON text means. -/
inductive Numeral where
  | integer (value : Int)
  | real (value : Number)
  deriving DecidableEq

namespace WrittenNumber

/-- Digits are taken into the significand while it stays below `2 ^ 64`; the rest is left. -/
def takeDigits (significand : Nat) : List Char → Nat × List Char
  | [] => (significand, [])
  | digit :: rest =>
    let longer := 10 * significand + (digit.toNat - '0'.toNat)
    if longer < Nat.pow 2 64 then takeDigits longer rest else (significand, digit :: rest)

/-- The double nearest to a power of ten. -/
def powerOfTen (exponent : Nat) : Number := Number.ofNat (Nat.pow 10 exponent)

/-- Division by a power of ten, in steps of at most `10 ^ 308`. -/
def scaleDown (value : Number) (exponent : Nat) : Number :=
  if exponent ≤ 308 then value.div (powerOfTen exponent)
  else if value.isZero then value
  else scaleDown (value.div (powerOfTen 308)) (exponent - 308)
termination_by exponent

/-- Multiplication by a power of ten; none if the result is too large for a double. -/
def scaleUp? (value : Number) (exponent : Nat) : Option Number :=
  if value.isZero then some value
  else if exponent ≤ 308 then
    let product := value.mul (powerOfTen exponent)
    if product.isFinite then some product else none
  else none

/-- The double for a significand and a power of ten. -/
def scaled? (significand : Nat) (exponent : Int) : Option Number :=
  let value := Number.ofNat significand
  if 0 ≤ exponent then scaleUp? value exponent.toNat
  else some (scaleDown value (-exponent).toNat)

/-- The exponent as an integer; zero if none is written. -/
def exponentValue (written : WrittenNumber) : Int :=
  match written.exponent with
  | none => 0
  | some (negative, digits) =>
    let size : Int := digitsValue digits
    if negative then -size else size

/-- The significand of a number that is not an integer, and the power of ten beside it. -/
def parts (written : WrittenNumber) : Nat × Int :=
  let (whole, wholeLeft) := takeDigits 0 written.whole
  let (significand, fractionLeft) := takeDigits whole written.fraction
  let taken := written.fraction.length - fractionLeft.length
  (significand, (wholeLeft.length : Int) - taken + written.exponentValue)

/-- The number as a double; none if it is too large. -/
def real? (written : WrittenNumber) : Option Number :=
  let (significand, exponent) := written.parts
  (scaled? significand exponent).map fun value =>
    if written.negative then value.neg else value

/-- The integer that is written, if it is one of 64 bits. Minus zero is not an integer. -/
def integer? (written : WrittenNumber) : Option Int :=
  if written.fraction.isEmpty && written.exponent.isNone then
    let size := digitsValue written.whole
    if written.negative then
      if 1 ≤ size ∧ size ≤ Nat.pow 2 63 then some (-(size : Int)) else none
    else
      if size < Nat.pow 2 64 then some size else none
  else none

/-- What the number means; none if it is too large for a double. -/
def numeral? (written : WrittenNumber) : Option Numeral :=
  match written.integer? with
  | some value => some (.integer value)
  | none => written.real?.map .real

end WrittenNumber

end Rulebook
