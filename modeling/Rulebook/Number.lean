/-
This file holds the numbers of the rule language: IEEE doubles, kept exactly. Every finite
double is a whole number of ticks, where a tick is `2 ^ -1074`, the smallest positive double.
So a finite number is a sign and a natural number of ticks, and comparing, rounding and the
arithmetic below are statements about natural numbers.
-/

namespace Rulebook

/-- The number of ticks in one. -/
def ticksPerOne : Nat := Nat.pow 2 1074

/-- The number of ticks in `2 ^ 1024`, the first magnitude that is infinite. -/
def infiniteTicks : Nat := Nat.pow 2 2098

/-- The magnitudes a finite double can have, in ticks: at most 53 significant bits, below
`2 ^ 1024`. -/
def Representable (ticks : Nat) : Prop :=
  ticks < infiniteTicks ∧
    ∃ significand shift, significand ≤ Nat.pow 2 53 ∧ ticks = significand * Nat.pow 2 shift

/-- A double. Zero has two signs; there is one NaN. -/
inductive Number where
  | nan
  | infinite (negative : Bool)
  | finite (negative : Bool) (ticks : Nat) (representable : Representable ticks)
  deriving DecidableEq

namespace Number

theorem two_pow_pos (exponent : Nat) : 0 < Nat.pow 2 exponent := Nat.two_pow_pos exponent

theorem infiniteTicks_pos : 0 < infiniteTicks := by decide +kernel

theorem representable_zero : Representable 0 :=
  ⟨infiniteTicks_pos, 0, 0, by decide, rfl⟩

/-- Zero of the given sign. -/
def zero (negative : Bool) : Number := .finite negative 0 representable_zero

instance : Inhabited Number := ⟨zero false⟩

/-! ### Rounding -/

/-- The whole number nearest to a quotient; a half goes to the even neighbour. -/
def nearestEven (numerator denominator : Nat) : Nat :=
  let floor := numerator / denominator
  let twice := 2 * (numerator % denominator)
  if twice < denominator then floor
  else if denominator < twice then floor + 1
  else floor + floor % 2

theorem nearestEven_le (numerator denominator : Nat) :
    nearestEven numerator denominator ≤ numerator / denominator + 1 := by
  unfold nearestEven
  dsimp only
  split
  · omega
  · split <;> omega

/-- The number of low bits that do not fit beside the 53 significant ones. -/
def excessBits (floor : Nat) : Nat := floor.log2 + 1 - 53

theorem div_two_pow_excessBits_lt (floor : Nat) :
    floor / Nat.pow 2 (excessBits floor) < Nat.pow 2 53 := by
  have together : Nat.pow 2 53 * Nat.pow 2 (excessBits floor) =
      Nat.pow 2 (53 + excessBits floor) := (Nat.pow_add 2 53 _).symm
  have enough : floor.log2 + 1 ≤ 53 + excessBits floor := by
    unfold excessBits
    omega
  refine (Nat.div_lt_iff_lt_mul (two_pow_pos _)).mpr (Nat.lt_of_lt_of_eq ?_ together.symm)
  exact Nat.lt_of_lt_of_le Nat.lt_log2_self (Nat.pow_le_pow_right (by decide) enough)

/-- The significand kept for a quotient of ticks. -/
def keptSignificand (numerator denominator : Nat) : Nat :=
  nearestEven numerator (denominator * Nat.pow 2 (excessBits (numerator / denominator)))

theorem keptSignificand_le (numerator denominator : Nat) :
    keptSignificand numerator denominator ≤ Nat.pow 2 53 := by
  refine Nat.le_trans (nearestEven_le _ _) ?_
  rw [← Nat.div_div_eq_div_mul]
  exact div_two_pow_excessBits_lt _

/-- The double nearest to `numerator / denominator` ticks, ties to the even significand, infinite
from `2 ^ 1024` on. -/
def ofTicks (negative : Bool) (numerator denominator : Nat) : Number :=
  if bounded : keptSignificand numerator denominator
      * Nat.pow 2 (excessBits (numerator / denominator)) < infiniteTicks then
    .finite negative _ ⟨bounded, _, _, keptSignificand_le numerator denominator, rfl⟩
  else
    .infinite negative

/-- The double nearest to a whole number. -/
def ofNat (value : Nat) : Number := ofTicks false (value * ticksPerOne) 1

/-- The double nearest to an integer; the integer zero is the positive zero. -/
def ofInt (value : Int) : Number :=
  ofTicks (decide (value < 0)) (value.natAbs * ticksPerOne) 1

/-! ### Sign and size -/

/-- The number with the other sign. -/
def neg : Number → Number
  | .nan => .nan
  | .infinite negative => .infinite !negative
  | .finite negative ticks representable => .finite (!negative) ticks representable

/-- Zero of either sign. -/
def isZero : Number → Bool
  | .finite _ ticks _ => ticks == 0
  | _ => false

/-- Neither infinite nor NaN. -/
def isFinite : Number → Bool
  | .finite .. => true
  | _ => false

/-- The ticks of a finite number with its sign; the two zeros coincide. -/
def signedTicks (negative : Bool) (ticks : Nat) : Int :=
  if negative then -(ticks : Int) else ticks

/-- The order of the doubles: none where a NaN takes part, and the two zeros are equal. -/
def compare? : Number → Number → Option Ordering
  | .nan, _ => none
  | _, .nan => none
  | .infinite left, .infinite right => some (compare right.toNat left.toNat)
  | .infinite left, .finite .. => some (if left then .lt else .gt)
  | .finite .., .infinite right => some (if right then .gt else .lt)
  | .finite left leftTicks _, .finite right rightTicks _ =>
    some (compare (signedTicks left leftTicks) (signedTicks right rightTicks))

/-- Equality of doubles: the two zeros are equal and a NaN is equal to nothing. -/
def same (left right : Number) : Bool := compare? left right == some .eq

/-! ### Products and quotients -/

/-- The product, correctly rounded. -/
def mul : Number → Number → Number
  | .nan, _ => .nan
  | _, .nan => .nan
  | .infinite left, .infinite right => .infinite (left != right)
  | .infinite left, .finite right ticks _ => if ticks == 0 then .nan else .infinite (left != right)
  | .finite left ticks _, .infinite right => if ticks == 0 then .nan else .infinite (left != right)
  | .finite left leftTicks _, .finite right rightTicks _ =>
    ofTicks (left != right) (leftTicks * rightTicks) ticksPerOne

/-- The quotient, correctly rounded. -/
def div : Number → Number → Number
  | .nan, _ => .nan
  | _, .nan => .nan
  | .infinite _, .infinite _ => .nan
  | .infinite left, .finite right _ _ => .infinite (left != right)
  | .finite left _ _, .infinite right => zero (left != right)
  | .finite left leftTicks _, .finite right rightTicks _ =>
    if rightTicks == 0 then
      if leftTicks == 0 then .nan else .infinite (left != right)
    else
      ofTicks (left != right) (leftTicks * ticksPerOne) rightTicks

end Number

end Rulebook
