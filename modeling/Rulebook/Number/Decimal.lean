/-
This file relates doubles and decimal digits. Reading takes a decimal to the nearest double.
Writing chooses the fewest digits that read back as the same double and, among those, the digits
nearest to it. How the digits are laid out as text is left to a `Layout`.
-/
import Rulebook.Number

namespace Rulebook

namespace Number

/-! ### Reading -/

/-- The exponent `e` with `10 ^ (e - 1) ≤ numerator / denominator < 10 ^ e`, for a positive
quotient. -/
def decimalExponent (numerator denominator : Nat) : Int :=
  if denominator ≤ numerator then
    ((numerator / denominator).repr.length : Int)
  else
    1 - (((denominator - 1) / numerator).repr.length : Int)

/-- The double nearest to `digits * 10 ^ exponent`. Decimals from `10 ^ 310` on are infinite and
those below `10 ^ -330` are zero, so powers of ten stay small. -/
def ofDecimal (negative : Bool) (digits : Nat) (exponent : Int) : Number :=
  if digits == 0 then zero negative
  else
    let leading := exponent + digits.repr.length
    if 310 < leading then .infinite negative
    else if leading < -330 then zero negative
    else if 0 ≤ exponent then
      ofTicks negative (digits * Nat.pow 10 exponent.toNat * ticksPerOne) 1
    else
      ofTicks negative (digits * ticksPerOne) (Nat.pow 10 (-exponent).toNat)

/-! ### Choosing digits -/

/-- Which of two equally near decimals is written. -/
inductive Tie where
  | even
  | away
  deriving DecidableEq

/-- The distance between neighbouring doubles at this magnitude. -/
def spacing (ticks : Nat) : Nat := Nat.pow 2 (excessBits ticks)

/-- Four times the lower end of the reals that read as this magnitude. Below a power of two the
neighbour is half as far. -/
def lowerEnd (ticks : Nat) : Nat :=
  if 0 < excessBits ticks ∧ ticks = Nat.pow 2 ticks.log2 then 4 * ticks - spacing ticks
  else 4 * ticks - 2 * spacing ticks

/-- Four times the upper end of the reals that read as this magnitude. -/
def upperEnd (ticks : Nat) : Nat := 4 * ticks + 2 * spacing ticks

/-- Whether the real `numerator / denominator` ticks reads as this magnitude. The ends themselves
do when the significand is even. -/
def readsAs (ticks numerator denominator : Nat) : Bool :=
  let position := 4 * numerator
  let lower := lowerEnd ticks * denominator
  let upper := upperEnd ticks * denominator
  if ticks / spacing ticks % 2 == 0 then decide (lower ≤ position ∧ position ≤ upper)
  else decide (lower < position ∧ position < upper)

/-- The nearer of two neighbouring decimals `floor` and `floor + 1` to a quotient, once the tie is
settled. -/
def nearerDecimal (tie : Tie) (floor twiceRemainder denominator : Nat) : Nat :=
  if twiceRemainder < denominator then floor
  else if denominator < twiceRemainder then floor + 1
  else match tie with
    | .even => floor + floor % 2
    | .away => floor + 1

/-- The decimal with its last digit at `10 ^ place` that reads as this magnitude, if there is one;
of two, the nearer. -/
def decimalAt? (tie : Tie) (ticks : Nat) (place : Int) : Option Nat :=
  let numerator := ticks * Nat.pow 10 (-place).toNat
  let denominator := Nat.pow 10 place.toNat * ticksPerOne
  let reads (decimal : Nat) : Bool :=
    readsAs ticks (decimal * denominator) (Nat.pow 10 (-place).toNat)
  let floor := numerator / denominator
  match reads floor, reads (floor + 1) with
  | true, true => some (nearerDecimal tie floor (2 * (numerator % denominator)) denominator)
  | true, false => some floor
  | false, true => some (floor + 1)
  | false, false => none

/-- The first place that has a decimal, from coarse to fine; seventeen digits always suffice. -/
def shortestFrom (tie : Tie) (ticks : Nat) (place : Int) : Nat → Nat × Int
  | 0 => ((decimalAt? tie ticks place).getD 0, place)
  | more + 1 =>
    match decimalAt? tie ticks place with
    | some decimal => (decimal, place)
    | none => shortestFrom tie ticks (place - 1) more

/-- The fewest digits that read back as a positive magnitude, with the place of the last digit. -/
def shortest (tie : Tie) (ticks : Nat) : Nat × Int :=
  shortestFrom tie ticks (decimalExponent ticks ticksPerOne - 1) 17

/-- Digits without trailing zeros, and the number of digits in front of the decimal point: the
value is `0.DIGITS * 10 ^ point`. -/
def significantDigits (tie : Tie) (ticks : Nat) : List Char × Int :=
  let (decimal, place) := shortest tie ticks
  let written := decimal.repr.toList
  ((written.reverse.dropWhile (· == '0')).reverse, place + written.length)

/-! ### Laying digits out -/

/-- How the digits of a finite double become text. -/
structure Layout where
  /-- The choice between two equally near decimals. -/
  tie : Tie
  /-- What follows the digits of a whole number. -/
  wholeSuffix : List Char
  /-- Whether a value `0.DIGITS * 10 ^ point` is written without an exponent. -/
  positional : Int → Bool

/-- Digits written without an exponent. -/
def Layout.positionalText (layout : Layout) (digits : List Char) (point : Int) : List Char :=
  if point ≤ 0 then
    ['0', '.'] ++ List.replicate (-point).toNat '0' ++ digits
  else if digits.length ≤ point.toNat then
    digits ++ List.replicate (point.toNat - digits.length) '0' ++ layout.wholeSuffix
  else
    digits.take point.toNat ++ '.' :: digits.drop point.toNat

/-- Digits written as one digit, a fraction and an exponent. -/
def exponentText (digits : List Char) (point : Int) : List Char :=
  let fraction := digits.drop 1
  digits.take 1 ++ (if fraction.isEmpty then [] else '.' :: fraction)
    ++ 'e' :: (toString (point - 1)).toList

/-- The text of a magnitude. -/
def Layout.magnitudeText (layout : Layout) (ticks : Nat) : List Char :=
  if ticks == 0 then '0' :: layout.wholeSuffix
  else
    let (digits, point) := significantDigits layout.tie ticks
    if layout.positional point then layout.positionalText digits point
    else exponentText digits point

/-- The text of a finite double with its sign. -/
def Layout.finiteText (layout : Layout) (negative : Bool) (ticks : Nat) : String :=
  String.ofList ((if negative then ['-'] else []) ++ layout.magnitudeText ticks)

/-- Numbers shown to people have no exponent and no fraction of zero; a tie goes away from zero. -/
def displayLayout : Layout := ⟨.away, [], fun _ => true⟩

/-- The text of a number as it is shown in messages and compared with other text. -/
def display : Number → String
  | .nan => "NaN"
  | .infinite negative => if negative then "-inf" else "inf"
  | .finite negative ticks _ => displayLayout.finiteText negative ticks

end Number

end Rulebook
