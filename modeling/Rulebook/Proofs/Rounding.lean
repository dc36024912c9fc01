/-
This file says what rounding to a double does to a quotient of ticks. The quotient is cut to the
bits that fit, and goes to the nearest multiple of what the last of them weighs. No magnitude that a
double can have is nearer: those with finer bits are too small to be, and the others are such
multiples. So a magnitude that a double can have is kept, and what counts is the quotient and not
how it is written.
-/
import Rulebook.Number.Decimal
import Mathlib.Tactic.Ring
import Mathlib.Algebra.Order.Ring.Nat

namespace Rulebook.Number

/-! ### The nearest whole number -/

theorem le_nearestEven (numerator denominator : Nat) :
    numerator / denominator ≤ nearestEven numerator denominator := by
  unfold nearestEven
  dsimp only
  split
  · exact Nat.le_refl _
  · split <;> omega

/-- A quotient may be reduced. -/
theorem nearestEven_mul_right (numerator denominator : Nat) {factor : Nat} (positive : 0 < factor) :
    nearestEven (numerator * factor) (denominator * factor) =
      nearestEven numerator denominator := by
  have twice : 2 * (numerator % denominator * factor) = 2 * (numerator % denominator) * factor :=
    (Nat.mul_assoc 2 _ factor).symm
  unfold nearestEven
  simp only [Nat.mul_div_mul_right _ _ positive, Nat.mul_mod_mul_right, twice,
    Nat.mul_lt_mul_right positive]

/-- A whole number is kept. -/
theorem nearestEven_mul_self (whole : Nat) {denominator : Nat} (positive : 0 < denominator) :
    nearestEven (whole * denominator) denominator = whole := by
  unfold nearestEven
  simp [Nat.mul_div_cancel _ positive, positive]

/-- A quotient is moved by a half at most. -/
theorem nearestEven_near (numerator : Nat) {denominator : Nat} (positive : 0 < denominator) :
    2 * numerator ≤ 2 * (nearestEven numerator denominator * denominator) + denominator ∧
      2 * (nearestEven numerator denominator * denominator) ≤ 2 * numerator + denominator := by
  have parts := Nat.div_add_mod' numerator denominator
  have small := Nat.mod_lt numerator positive
  have up : (numerator / denominator + 1) * denominator =
      numerator / denominator * denominator + denominator := Nat.succ_mul _ _
  unfold nearestEven
  dsimp only
  split
  · omega
  · split
    · omega
    · rcases Nat.mod_two_eq_zero_or_one (numerator / denominator) with even | odd
      · rw [even, Nat.add_zero]
        omega
      · rw [odd]
        omega

/-- Of the multiples of the denominator none is nearer to the numerator. -/
theorem nearestEven_nearest (numerator : Nat) {denominator : Nat} (positive : 0 < denominator)
    (other : Nat) :
    ((numerator : Int) - (nearestEven numerator denominator * denominator : Nat)).natAbs ≤
      ((numerator : Int) - (other * denominator : Nat)).natAbs := by
  have near := nearestEven_near numerator positive
  generalize nearestEven numerator denominator = nearest at near ⊢
  rcases Nat.lt_trichotomy other nearest with below | rfl | above
  · have apart := Nat.mul_le_mul_right denominator (Nat.succ_le_of_lt below)
    rw [Nat.succ_mul] at apart
    omega
  · exact Nat.le_refl _
  · have apart := Nat.mul_le_mul_right denominator (Nat.succ_le_of_lt above)
    rw [Nat.succ_mul] at apart
    omega

/-! ### Bits that do not fit -/

/-- If bits do not fit, 52 of those that do are below the highest one. -/
theorem two_pow_log2_of_excessBits_pos {floor : Nat} (excess : 0 < excessBits floor) :
    2 ^ floor.log2 = 2 ^ 52 * 2 ^ excessBits floor := by
  rw [← Nat.pow_add]
  unfold excessBits at excess ⊢
  congr 1
  omega

theorem le_of_excessBits_pos {floor : Nat} (excess : 0 < excessBits floor) :
    2 ^ 52 * 2 ^ excessBits floor ≤ floor := by
  have nonzero : floor ≠ 0 := by
    rintro rfl
    exact absurd excess (by decide)
  rw [← two_pow_log2_of_excessBits_pos excess]
  exact Nat.log2_self_le nonzero

/-- The weight of the last significant bit is small against the number. -/
theorem two_pow_excessBits_le (floor : Nat) :
    Nat.pow 2 (excessBits floor) ≤ floor / Nat.pow 2 52 + 1 := by
  rcases Nat.eq_zero_or_pos (excessBits floor) with none | excess
  · rw [none]
    exact Nat.le_add_left 1 _
  · refine Nat.le_add_right_of_le ((Nat.le_div_iff_mul_le (two_pow_pos 52)).mpr ?_)
    rw [Nat.mul_comm]
    exact le_of_excessBits_pos excess

/-- In a number of at most 53 significant bits those that do not fit are zeros. -/
theorem two_pow_excessBits_dvd {significand : Nat} (fits : significand ≤ 2 ^ 53) (shift : Nat) :
    2 ^ excessBits (significand * 2 ^ shift) ∣ significand * 2 ^ shift := by
  rcases Nat.lt_or_eq_of_le fits with short | rfl
  · -- There are at least as many zeros as are needed.
    refine Nat.dvd_mul_left_of_dvd (Nat.pow_dvd_pow 2 ?_) significand
    rcases Nat.eq_zero_or_pos significand with rfl | positive
    · rw [Nat.zero_mul]
      exact Nat.zero_le _
    · have nonzero : significand * 2 ^ shift ≠ 0 :=
        Nat.mul_ne_zero (Nat.ne_of_gt positive) (Nat.ne_of_gt (Nat.two_pow_pos shift))
      have bound : significand * 2 ^ shift < 2 ^ (53 + shift) := by
        rw [Nat.pow_add]
        exact Nat.mul_lt_mul_of_pos_right short (Nat.two_pow_pos shift)
      have few := (Nat.log2_lt nonzero).mpr bound
      unfold excessBits
      omega
  · -- A power of two has one significant bit.
    rw [← Nat.pow_add]
    refine Nat.pow_dvd_pow 2 ?_
    unfold excessBits
    rw [Nat.log2_two_pow]
    omega

/-! ### The nearest magnitude -/

/-- The magnitude that a quotient of ticks is rounded to, however large it is. -/
def rounded (numerator denominator : Nat) : Nat :=
  keptSignificand numerator denominator * Nat.pow 2 (excessBits (numerator / denominator))

/-- Rounding goes by the magnitude alone. -/
theorem ofTicks_congr (negative : Bool) {numerator denominator numerator' denominator' : Nat}
    (same : rounded numerator denominator = rounded numerator' denominator') :
    ofTicks negative numerator denominator = ofTicks negative numerator' denominator' := by
  unfold ofTicks
  unfold rounded at same
  simp only [same]

theorem ofTicks_of_lt (negative : Bool) {numerator denominator : Nat}
    (bounded : rounded numerator denominator < infiniteTicks) :
    ∃ representable, ofTicks negative numerator denominator =
      .finite negative (rounded numerator denominator) representable :=
  ⟨_, dif_pos bounded⟩

theorem ofTicks_of_le (negative : Bool) {numerator denominator : Nat}
    (large : infiniteTicks ≤ rounded numerator denominator) :
    ofTicks negative numerator denominator = .infinite negative :=
  dif_neg (Nat.not_lt.mpr large)

theorem neg_ofTicks (negative : Bool) (numerator denominator : Nat) :
    (ofTicks negative numerator denominator).neg = ofTicks (!negative) numerator denominator := by
  unfold ofTicks
  split <;> rfl

/-- A quotient may be reduced. -/
theorem rounded_mul_right (numerator denominator : Nat) {factor : Nat} (positive : 0 < factor) :
    rounded (numerator * factor) (denominator * factor) = rounded numerator denominator := by
  unfold rounded keptSignificand
  rw [Nat.mul_div_mul_right _ _ positive, Nat.mul_right_comm, nearestEven_mul_right _ _ positive]

theorem ofTicks_mul_right (negative : Bool) (numerator denominator : Nat) {factor : Nat}
    (positive : 0 < factor) :
    ofTicks negative (numerator * factor) (denominator * factor) =
      ofTicks negative numerator denominator :=
  ofTicks_congr negative (rounded_mul_right numerator denominator positive)

/-- Where the bits that do not fit are zeros nothing is lost. -/
theorem rounded_of_dvd {ticks : Nat} (zeros : 2 ^ excessBits ticks ∣ ticks) {denominator : Nat}
    (positive : 0 < denominator) : rounded (ticks * denominator) denominator = ticks := by
  obtain ⟨significand, whole⟩ := zeros
  unfold rounded keptSignificand
  rw [Nat.mul_div_cancel _ positive]
  have exact : nearestEven (ticks * denominator) (denominator * Nat.pow 2 (excessBits ticks)) =
      significand := by
    have multiple : ticks * denominator =
        significand * (denominator * Nat.pow 2 (excessBits ticks)) := by
      conv_lhs => rw [whole]
      show 2 ^ excessBits ticks * significand * denominator =
        significand * (denominator * 2 ^ excessBits ticks)
      ring
    rw [multiple]
    exact nearestEven_mul_self _ (Nat.mul_pos positive (two_pow_pos _))
  rw [exact, Nat.mul_comm]
  exact whole.symm

/-- A magnitude that a double can have is kept. -/
theorem rounded_of_representable {ticks : Nat} (representable : Representable ticks)
    {denominator : Nat} (positive : 0 < denominator) :
    rounded (ticks * denominator) denominator = ticks := by
  obtain ⟨-, significand, shift, fits, rfl⟩ := representable
  exact rounded_of_dvd (two_pow_excessBits_dvd fits shift) positive

theorem ofTicks_of_representable (negative : Bool) {ticks : Nat}
    (representable : Representable ticks) {denominator : Nat} (positive : 0 < denominator) :
    ofTicks negative (ticks * denominator) denominator = .finite negative ticks representable := by
  have kept := rounded_of_representable representable positive
  obtain ⟨_, made⟩ := ofTicks_of_lt negative (kept ▸ representable.1)
  simp only [made, kept]

theorem ofTicks_zero (negative : Bool) {denominator : Nat} (positive : 0 < denominator) :
    ofTicks negative 0 denominator = zero negative := by
  have made := ofTicks_of_representable negative representable_zero positive
  rwa [Nat.zero_mul] at made

/-- A power of two that a quotient reaches is reached by what it is rounded to. -/
theorem two_pow_le_rounded {numerator denominator exponent : Nat}
    (reached : 2 ^ exponent ≤ numerator / denominator) :
    2 ^ exponent ≤ rounded numerator denominator := by
  have nonzero : numerator / denominator ≠ 0 :=
    Nat.ne_of_gt (Nat.lt_of_lt_of_le (Nat.two_pow_pos exponent) reached)
  have kept := le_nearestEven numerator
    (denominator * Nat.pow 2 (excessBits (numerator / denominator)))
  rw [← Nat.div_div_eq_div_mul] at kept
  rcases Nat.eq_zero_or_pos (excessBits (numerator / denominator)) with none | excess
  · unfold rounded keptSignificand
    rw [none] at kept ⊢
    rw [show Nat.pow 2 0 = 1 from rfl, Nat.div_one] at kept
    rw [show Nat.pow 2 0 = 1 from rfl, Nat.mul_one (nearestEven _ _)]
    exact Nat.le_trans reached kept
  · have significand : 2 ^ 52 ≤
        numerator / denominator / Nat.pow 2 (excessBits (numerator / denominator)) :=
      (Nat.le_div_iff_mul_le (two_pow_pos _)).mpr (le_of_excessBits_pos excess)
    calc
      2 ^ exponent ≤ 2 ^ (numerator / denominator).log2 :=
        Nat.pow_le_pow_right (by decide) ((Nat.le_log2 nonzero).mpr reached)
      _ = 2 ^ 52 * 2 ^ excessBits (numerator / denominator) :=
        two_pow_log2_of_excessBits_pos excess
      _ ≤ rounded numerator denominator :=
        Nat.mul_le_mul_right _ (Nat.le_trans significand kept)

/-- What reaches infinity is rounded to something that does. -/
theorem infiniteTicks_le_rounded {numerator denominator : Nat}
    (large : infiniteTicks ≤ numerator / denominator) :
    infiniteTicks ≤ rounded numerator denominator := by
  obtain ⟨exponent, power⟩ : ∃ exponent, infiniteTicks = 2 ^ exponent := ⟨2098, by decide +kernel⟩
  rw [power] at large ⊢
  exact two_pow_le_rounded large

/-- Less than half a tick is rounded to nothing. -/
theorem rounded_eq_zero {numerator denominator : Nat} (small : 2 * numerator < denominator) :
    rounded numerator denominator = 0 := by
  have below : numerator < denominator := by omega
  have weight : Nat.pow 2 (excessBits 0) = 1 := rfl
  unfold rounded keptSignificand
  rw [Nat.div_eq_of_lt below, weight, Nat.mul_one denominator, Nat.mul_one]
  unfold nearestEven
  rw [Nat.mod_eq_of_lt below, if_pos small]
  exact Nat.div_eq_of_lt below

/-- The double of ticks that are neither few nor too many is neither zero nor infinite. -/
theorem ofTicks_finite {ticks limit : Nat} (many : 2 ≤ ticks) (few : ticks ≤ limit)
    (room : limit + (limit / Nat.pow 2 52 + 1) < infiniteTicks) :
    (ofTicks false ticks 1).isFinite = true ∧ (ofTicks false ticks 1).isZero = false := by
  have most := nearestEven_le ticks (1 * Nat.pow 2 (excessBits (ticks / 1)))
  have bounded : rounded ticks 1 < infiniteTicks := by
    unfold rounded keptSignificand
    rw [Nat.div_one, Nat.one_mul] at most ⊢
    calc
      _ ≤ (ticks / Nat.pow 2 (excessBits ticks) + 1) * Nat.pow 2 (excessBits ticks) :=
        Nat.mul_le_mul_right _ most
      _ ≤ ticks + Nat.pow 2 (excessBits ticks) := by
        rw [Nat.add_one_mul]
        exact Nat.add_le_add_right (Nat.div_mul_le_self ticks _) _
      _ ≤ limit + (limit / Nat.pow 2 52 + 1) :=
        Nat.add_le_add few (Nat.le_trans (two_pow_excessBits_le ticks)
          (Nat.succ_le_succ (Nat.div_le_div_right few)))
      _ < infiniteTicks := room
  have kept : 2 ^ 1 ≤ rounded ticks 1 := two_pow_le_rounded ((Nat.div_one ticks).symm ▸ many)
  obtain ⟨_, made⟩ := ofTicks_of_lt false bounded
  rw [made]
  exact ⟨rfl, beq_false_of_ne (Nat.ne_of_gt (Nat.lt_of_lt_of_le (by decide) kept))⟩

/-- Rounding goes to the nearest multiple of what the last significant bit weighs. -/
theorem rounded_mul_denominator (numerator denominator : Nat) :
    rounded numerator denominator * denominator =
      nearestEven numerator (denominator * Nat.pow 2 (excessBits (numerator / denominator))) *
        (denominator * Nat.pow 2 (excessBits (numerator / denominator))) := by
  unfold rounded keptSignificand
  ring

/-- Rounding moves a quotient by half of what the last significant bit weighs at most. -/
theorem rounded_near (numerator : Nat) {denominator : Nat} (positive : 0 < denominator) :
    2 * numerator ≤ 2 * (rounded numerator denominator * denominator) +
        denominator * Nat.pow 2 (excessBits (numerator / denominator)) ∧
      2 * (rounded numerator denominator * denominator) ≤ 2 * numerator +
        denominator * Nat.pow 2 (excessBits (numerator / denominator)) := by
  rw [rounded_mul_denominator]
  exact nearestEven_near numerator (Nat.mul_pos positive (two_pow_pos _))

/-- No magnitude that a double can have is nearer to a quotient than the one it is rounded to. -/
theorem rounded_nearest (numerator : Nat) {denominator : Nat} (positive : 0 < denominator)
    {other : Nat} (representable : Representable other) :
    ((numerator : Int) - (rounded numerator denominator * denominator : Nat)).natAbs ≤
      ((numerator : Int) - (other * denominator : Nat)).natAbs := by
  have step : 0 < denominator * Nat.pow 2 (excessBits (numerator / denominator)) :=
    Nat.mul_pos positive (two_pow_pos _)
  have nearest := nearestEven_nearest numerator step
  rw [rounded_mul_denominator]
  obtain ⟨-, significand, shift, fits, rfl⟩ := representable
  by_cases coarse : excessBits (numerator / denominator) ≤ shift
  · -- The other one is a multiple of the weight of the last bit, too.
    have multiple : significand * Nat.pow 2 shift * denominator =
        significand * Nat.pow 2 (shift - excessBits (numerator / denominator)) *
          (denominator * Nat.pow 2 (excessBits (numerator / denominator))) := by
      have weights : Nat.pow 2 shift = Nat.pow 2 (shift - excessBits (numerator / denominator)) *
          Nat.pow 2 (excessBits (numerator / denominator)) :=
        (Nat.pow_sub_mul_pow 2 coarse).symm
      rw [weights]
      ring
    rw [multiple]
    exact nearest _
  · -- The other one is at most the least number with so many bits, which is at most the quotient.
    have least : 2 ^ 52 * (denominator * Nat.pow 2 (excessBits (numerator / denominator))) ≤
        numerator := by
      have floor := le_of_excessBits_pos (Nat.zero_lt_of_lt (Nat.not_le.mp coarse))
      calc
        _ = 2 ^ 52 * 2 ^ excessBits (numerator / denominator) * denominator := by
          show 2 ^ 52 * (denominator * 2 ^ excessBits (numerator / denominator)) = _
          ring
        _ ≤ numerator / denominator * denominator := Nat.mul_le_mul_right _ floor
        _ ≤ numerator := Nat.div_mul_le_self _ _
    have below : significand * Nat.pow 2 shift * denominator ≤
        2 ^ 52 * (denominator * Nat.pow 2 (excessBits (numerator / denominator))) := by
      have finer : 2 ^ (shift + 1) ≤ 2 ^ excessBits (numerator / denominator) :=
        Nat.pow_le_pow_right (by decide) (Nat.not_le.mp coarse)
      calc
        _ ≤ 2 ^ 53 * 2 ^ shift * denominator :=
          Nat.mul_le_mul_right _ (Nat.mul_le_mul_right _ fits)
        _ = 2 ^ 52 * (denominator * 2 ^ (shift + 1)) := by ring
        _ ≤ _ := Nat.mul_le_mul_left _ (Nat.mul_le_mul_left _ finer)
    have bound := nearest (2 ^ 52)
    omega

end Rulebook.Number
