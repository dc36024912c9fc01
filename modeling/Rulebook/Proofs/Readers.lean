/-
This file compares the two ways in which the text of a number becomes a double. As a literal it
becomes the double nearest to the decimal that it spells. As JSON it becomes an integer, if it
spells one of 64 bits; else its digits become a double, and that double is multiplied by a power of
ten or divided by one. The second way rounds more than once. The two agree on integers of 64 bits,
on zeros, and where neither the digits nor the power of ten need to be rounded: if the digits make
53 significant bits at most, and the power of ten is between `10 ^ -22` and `10 ^ 22`. For other
decimals the last bit may differ, and then a number is not equal to its own text.
-/
import Rulebook.Proofs.Agreement
import Rulebook.Proofs.Integers

namespace Rulebook

/-! ### The nearest double -/

namespace Number

/-- The magnitude of a number with its sign, in ticks; that of an infinity is the first that is too
large. -/
def magnitude? : Number → Option (Bool × Nat)
  | .nan => none
  | .infinite negative => some (negative, infiniteTicks)
  | .finite negative ticks _ => some (negative, ticks)

/-- A number has a sign, and no magnitude that a double can have is nearer to a quotient of ticks
than its own. -/
def IsNearest (value : Number) (negative : Bool) (numerator denominator : Nat) : Prop :=
  ∃ ticks, value.magnitude? = some (negative, ticks) ∧ ∀ other, Representable other →
    ((numerator : Int) - (ticks * denominator : Nat)).natAbs ≤
      ((numerator : Int) - (other * denominator : Nat)).natAbs

theorem isNearest_ofTicks (negative : Bool) (numerator : Nat) {denominator : Nat}
    (positive : 0 < denominator) :
    (ofTicks negative numerator denominator).IsNearest negative numerator denominator := by
  rcases Nat.lt_or_ge (rounded numerator denominator) infiniteTicks with bounded | large
  · obtain ⟨_, made⟩ := ofTicks_of_lt negative bounded
    rw [made]
    exact ⟨_, rfl, fun other representable => rounded_nearest numerator positive representable⟩
  · rw [ofTicks_of_le negative large]
    refine ⟨_, rfl, fun other representable => ?_⟩
    -- Infinity lies between the other magnitude and what the quotient is rounded to.
    have nearest := rounded_nearest numerator positive representable
    have below := Nat.mul_le_mul_right denominator (Nat.le_of_lt representable.1)
    have above := Nat.mul_le_mul_right denominator large
    generalize rounded numerator denominator * denominator = reached at nearest above
    generalize other * denominator = least at nearest below ⊢
    generalize infiniteTicks * denominator = infinite at below above ⊢
    omega

theorem finite_div_finite (left right : Bool) {ticks divisor : Nat}
    (representable : Representable ticks) (divisorRepresentable : Representable divisor)
    (nonzero : divisor ≠ 0) :
    (finite left ticks representable).div (finite right divisor divisorRepresentable) =
      ofTicks (left != right) (ticks * ticksPerOne) divisor :=
  if_neg (by simpa using nonzero)

theorem exists_of_isFinite_ofTicks {negative : Bool} {numerator denominator : Nat}
    (finite : (ofTicks negative numerator denominator).isFinite = true) :
    ∃ representable, ofTicks negative numerator denominator =
      .finite negative (rounded numerator denominator) representable := by
  rcases Nat.lt_or_ge (rounded numerator denominator) infiniteTicks with bounded | large
  · exact ofTicks_of_lt negative bounded
  · rw [ofTicks_of_le negative large] at finite
    exact nomatch finite

theorem ofNat_of_exact {value : Nat} (exact : Exact value)
    (bounded : value * ticksPerOne < infiniteTicks) :
    ∃ representable, ofNat value = .finite false (value * ticksPerOne) representable := by
  obtain ⟨shift, one⟩ : ∃ shift, ticksPerOne = 2 ^ shift := ⟨1074, by decide +kernel⟩
  obtain ⟨significand, zeros, fits, whole⟩ := exact
  rw [Int.natAbs_natCast] at whole
  have representable : Representable (value * ticksPerOne) := by
    refine ⟨bounded, significand, zeros + shift, fits, ?_⟩
    rw [whole, one, Nat.mul_assoc, ← Nat.pow_add]
    rfl
  have made := ofTicks_of_representable false representable Nat.one_pos
  rw [Nat.mul_one] at made
  exact ⟨representable, made⟩

end Number

namespace WrittenNumber

open Number

/-! ### Digits that are taken -/

/-- A number with one more digit at its end. -/
def withDigit (value : Nat) (digit : Char) : Nat := 10 * value + (digit.toNat - '0'.toNat)

theorem le_foldl_withDigit (digits : List Char) (value : Nat) :
    value ≤ digits.foldl withDigit value := by
  induction digits generalizing value with
  | nil => exact Nat.le_refl _
  | cons digit rest inductionHypothesis =>
    refine Nat.le_trans ?_ (inductionHypothesis (withDigit value digit))
    unfold withDigit
    omega

/-- All digits are taken if they make a number of 64 bits. -/
theorem takeDigits_eq {digits : List Char} {value : Nat}
    (fits : digits.foldl withDigit value < 2 ^ 64) :
    takeDigits value digits = (digits.foldl withDigit value, []) := by
  induction digits generalizing value with
  | nil => rfl
  | cons digit rest inductionHypothesis =>
    have room : withDigit value digit < Nat.pow 2 64 :=
      Nat.lt_of_le_of_lt (le_foldl_withDigit rest _) fits
    exact (if_pos room).trans (inductionHypothesis fits)

variable {written : WrittenNumber}

theorem digits_eq (written : WrittenNumber) :
    written.digits = written.fraction.foldl withDigit (written.whole.foldl withDigit 0) :=
  List.foldl_append

theorem parts_eq (fits : written.digits < 2 ^ 64) :
    written.parts = (written.digits, written.power) := by
  rw [digits_eq] at fits
  have whole := takeDigits_eq (Nat.lt_of_le_of_lt (le_foldl_withDigit written.fraction _) fits)
  have fraction := takeDigits_eq fits
  unfold parts
  simp only [whole, fraction]
  refine Prod.ext written.digits_eq.symm ?_
  unfold power
  simp only [List.length_nil]
  omega

/-! ### Digits beside a power of ten -/

/-- The powers of ten that are doubles. -/
theorem powerOfTen_eq {exponent : Nat} (small : exponent ≤ 22) :
    ∃ representable, powerOfTen exponent =
      .finite false (10 ^ exponent * ticksPerOne) representable := by
  have bits : Exact (10 ^ exponent : Nat) := by
    refine ⟨5 ^ exponent, exponent, Nat.le_trans (Nat.pow_le_pow_right (by decide) small)
      (by decide), ?_⟩
    rw [Int.natAbs_natCast]
    exact Nat.mul_pow 5 2 exponent
  have power : 10 ^ exponent ≤ 10 ^ 22 := Nat.pow_le_pow_right (by decide) small
  have room : 10 ^ 22 * ticksPerOne < infiniteTicks := by decide +kernel
  exact ofNat_of_exact bits (Nat.lt_of_le_of_lt (Nat.mul_le_mul_right ticksPerOne power) room)

/-- Zero is read as a zero, whatever its power of ten. -/
theorem scaled?_zero {power : Int} {value : Number} (scaled : scaled? 0 power = some value) :
    value = .zero false := by
  have isZero : Number.ofNat 0 = .zero false := by
    rw [Number.ofNat, Nat.zero_mul]
    exact ofTicks_zero false Nat.one_pos
  unfold scaled? at scaled
  dsimp only at scaled
  rw [isZero] at scaled
  split at scaled
  · exact (Option.some.inj scaled).symm
  · obtain rfl := Option.some.inj scaled
    unfold scaleDown
    split
    · next small =>
      obtain ⟨finite, notZero⟩ := powerOfTen_finite small
      unfold powerOfTen Number.ofNat at finite notZero ⊢
      obtain ⟨representable, made⟩ := exists_of_isFinite_ofTicks finite
      rw [made] at notZero ⊢
      have positive := ne_of_beq_false notZero
      rw [Number.zero, finite_div_finite _ _ _ _ positive, Nat.zero_mul,
        ofTicks_zero _ (Nat.pos_of_ne_zero positive)]
      rfl
    · rfl

/-- Digits and a power of ten that need not be rounded are rounded together. -/
theorem scaled?_of_exact {digits : Nat} {power : Int} {value : Number} (nonzero : digits ≠ 0)
    (fits : digits < 2 ^ 64) (exact : Exact digits) (low : -22 ≤ power) (high : power ≤ 22)
    (scaled : scaled? digits power = some value) :
    value = ofTicks false (digits * 10 ^ power.toNat * ticksPerOne) (10 ^ (-power).toNat) := by
  have room : digits * ticksPerOne < infiniteTicks := by
    have most : 2 ^ 64 * ticksPerOne < infiniteTicks := by decide +kernel
    exact Nat.lt_trans (Nat.mul_lt_mul_of_pos_right fits ticksPerOne_pos) most
  obtain ⟨representable, isFinite⟩ := ofNat_of_exact exact room
  unfold scaled? at scaled
  dsimp only at scaled
  rw [isFinite] at scaled
  split at scaled
  · next whole =>
    have noFraction : (-power).toNat = 0 := by omega
    have small : power.toNat ≤ 22 := by omega
    obtain ⟨powerRepresentable, isPower⟩ := powerOfTen_eq small
    have notZero : ¬ (Number.finite false (digits * ticksPerOne) representable).isZero = true := by
      simpa [Number.isZero] using ⟨nonzero, Nat.ne_of_gt ticksPerOne_pos⟩
    -- Both factors are exact, so the product is rounded from the decimal itself.
    have product : (Number.finite false (digits * ticksPerOne) representable).mul
        (.finite false (10 ^ power.toNat * ticksPerOne) powerRepresentable) =
          ofTicks false (digits * 10 ^ power.toNat * ticksPerOne) 1 := by
      rw [← ofTicks_mul_right false _ 1 ticksPerOne_pos, Nat.one_mul]
      refine congrArg (ofTicks false · ticksPerOne) ?_
      ring
    unfold scaleUp? at scaled
    rw [if_neg notZero, if_pos (by omega), isPower, product] at scaled
    dsimp only at scaled
    split at scaled
    · rw [← Option.some.inj scaled, noFraction, Nat.pow_zero]
    · exact nomatch scaled
  · next fraction =>
    have noZeros : power.toNat = 0 := by omega
    have small : (-power).toNat ≤ 22 := by omega
    obtain ⟨powerRepresentable, isPower⟩ := powerOfTen_eq small
    have positive : 0 < 10 ^ (-power).toNat * ticksPerOne :=
      Nat.mul_pos (Nat.pow_pos (by decide)) ticksPerOne_pos
    rw [← Option.some.inj scaled, scaleDown, if_pos (by omega), isPower,
      finite_div_finite _ _ _ _ (Nat.ne_of_gt positive), noZeros, Nat.pow_zero, Nat.mul_one,
      ofTicks_mul_right _ _ _ ticksPerOne_pos]
    rfl

/-! ### Where the readers agree -/

/-- A zero, or a decimal whose digits and whose power of ten are doubles. -/
def Short (written : WrittenNumber) : Prop :=
  written.digits = 0 ∨
    (written.digits < 2 ^ 64 ∧ Exact written.digits ∧ -22 ≤ written.power ∧ written.power ≤ 22)

/-- An integer of 64 bits, or a short decimal. -/
def Moderate (written : WrittenNumber) : Prop :=
  written.integer?.isSome = true ∨ written.Short

theorem nearest_of_integer? {value : Int} (isInteger : written.integer? = some value) :
    written.nearest = .ofInt value := by
  obtain ⟨negative, whole, fraction, exponent⟩ := written
  unfold integer? at isInteger
  split at isInteger
  · next bare =>
    obtain ⟨noFraction, noExponent⟩ := Bool.and_eq_true_iff.mp bare
    obtain rfl : fraction = [] := List.isEmpty_iff.mp noFraction
    obtain rfl : exponent = none := Option.isNone_iff_eq_none.mp noExponent
    rw [nearest_whole, Number.ofInt]
    dsimp only at isInteger
    cases negative with
    | true =>
      obtain ⟨bounds, made⟩ := Option.ite_none_right_eq_some.mp isInteger
      obtain rfl := Option.some.inj made
      have below : decide (-(digitsValue whole : Int) < 0) = true := decide_eq_true (by omega)
      rw [below, Int.natAbs_neg, Int.natAbs_natCast]
    | false =>
      obtain ⟨bounds, made⟩ := Option.ite_none_right_eq_some.mp isInteger
      obtain rfl := Option.some.inj made
      have notBelow : decide ((digitsValue whole : Int) < 0) = false := decide_eq_false (by omega)
      rw [notBelow, Int.natAbs_natCast]
  · exact nomatch isInteger

/-- A short decimal is read as the double nearest to it. -/
theorem Short.eq_nearest {number : Number} (short : written.Short)
    (read : written.real? = some number) : number = written.nearest := by
  have fits : written.digits < 2 ^ 64 := by
    rcases short with zero | ⟨fits, -⟩
    · rw [zero]
      decide
    · exact fits
  unfold real? at read
  rw [parts_eq fits] at read
  obtain ⟨unsigned, scaled, rfl⟩ := Option.map_eq_some_iff.mp read
  have together : unsigned = .ofTicks false written.numerator written.denominator := by
    by_cases zero : written.digits = 0
    · rw [zero] at scaled
      rw [scaled?_zero scaled, numerator, zero, Nat.zero_mul, Nat.zero_mul]
      exact (ofTicks_zero false (Nat.pow_pos (by decide))).symm
    · obtain ⟨-, exact, low, high⟩ := short.resolve_left zero
      exact scaled?_of_exact zero fits exact low high scaled
  -- The sign is put in front of what was rounded, which is rounded like the negative decimal.
  unfold nearest
  rw [together]
  cases written.negative with
  | true => rw [if_pos rfl, neg_ofTicks, Bool.not_false]
  | false => rw [if_neg Bool.false_ne_true]

/-- What is read as JSON is then the double that is nearest to the decimal. -/
theorem Moderate.eq_nearest {number : Number} (moderate : written.Moderate)
    (read : written.numeral?.map Value.ofNumeral = some (.number number)) :
    number = written.nearest := by
  unfold numeral? at read
  cases isInteger : written.integer? with
  | some value =>
    rw [isInteger] at read
    obtain rfl := Value.number.inj (Option.some.inj read)
    exact (nearest_of_integer? isInteger).symm
  | none =>
    rw [isInteger] at read
    dsimp only at read
    rw [Option.map_map] at read
    obtain ⟨value, real, isNumber⟩ := Option.map_eq_some_iff.mp read
    obtain rfl := Value.number.inj isNumber
    refine Short.eq_nearest (moderate.resolve_left ?_) real
    rw [isInteger]
    exact Bool.false_ne_true

end WrittenNumber

/-! ### A number and its own text -/

namespace Operator

/-- What the operators on equality and on the order answer for two sides in some order. -/
def answersFor (order : Ordering) : List (String × Bool) := [
  ("eq", order == .eq), ("ne", order != .eq), ("lt", order == .lt), ("le", order != .gt),
  ("ge", order != .lt), ("gt", order == .gt)]

/-- The operators that are registered by default find two values in some order. -/
def FindInOrder (left right : Value) (order : Ordering) : Prop :=
  ∀ entry ∈ answersFor order, ∃ operator, OperatorRegistry.defaults.resolve entry.1 = .ok operator ∧
    operator.holds left right = .ok entry.2

/-- Beside a text all operators go by the one order. -/
theorem findInOrder_of_compared {left : Value} {characters : String} {order : Ordering}
    (compared : Compared left (.text characters) (some order)) :
    FindInOrder left (.text characters) order := by
  have finds (operator : Operator) {answer : Bool} (member : operator ∈ defaults)
      (holds : operator.holds left (.text characters) = .ok answer) :
      ∃ found, OperatorRegistry.defaults.resolve operator.id = .ok found ∧
        found.holds left (.text characters) = .ok answer :=
    ⟨operator, OperatorRegistry.resolve_default member rfl, holds⟩
  have equal := looselyEqual_text_of_compared compared
  have ordered (id : String) (wanted : Ordering → Bool) :=
    holds_ordering_of_compared id wanted compared
  unfold FindInOrder answersFor
  simp only [List.forall_mem_cons]
  exact ⟨finds equality (by simp [defaults, equality]) (congrArg Except.ok equal),
    finds inequality (by simp [defaults, inequality])
      (congrArg (fun answer => Except.ok !answer) equal),
    finds (ordering "lt" (· == .lt)) (by simp [defaults]) (ordered _ _),
    finds (ordering "le" (· != .gt)) (by simp [defaults]) (ordered _ _),
    finds (ordering "ge" (· != .lt)) (by simp [defaults]) (ordered _ _),
    finds (ordering "gt" (· == .gt)) (by simp [defaults]) (ordered _ _), nofun⟩

end Operator

theorem Value.exists_number_of_typeName {value : Value} (named : value.typeName = "number") :
    ∃ number, value = .number number := by
  cases value with
  | number number => exact ⟨number, rfl⟩
  | null | bool | text | list | map => exact absurd named (by simp [typeName])

/-- A number that was read from a JSON text is compared with the text, as a literal, by its order
beside the double nearest to the decimal that the text spells. So it is found to be equal to its own
text just if it is that double, up to the sign of a zero. It is if neither the digits of the decimal
nor its power of ten need to be rounded. -/
theorem Value.compares_with_own_text {text : String} {json : Json} {number : Number}
    (read : Json.ofText? text = some json) (isNumber : ofJson json = .number number) :
    ∃ written literal order,
      WrittenNumber.front? text = some written ∧ written.WrittenIn text ∧
      (Value.text text).asNumber? = some literal ∧
      literal.IsNearest written.negative written.numerator written.denominator ∧
      number.compare? literal = some order ∧
      Operator.FindInOrder (.number number) (.text text) order ∧
      (written.Moderate → number = literal ∧ order = .eq) := by
  obtain ⟨written, isFront, inside, value⟩ := Json.exists_writtenIn_of_ofText? read isNumber
  have literal := inside.asNumber?
  have nearest : written.nearest.IsNearest written.negative written.numerator written.denominator :=
    Number.isNearest_ofTicks _ _ (Nat.pow_pos (by decide))
  have numberNoNan : number ≠ .nan := by
    obtain ⟨numeral, found, made⟩ := Option.map_eq_some_iff.mp value
    cases numeral with
    | integer value => exact Value.number.inj made ▸ Number.ofInt_ne_nan value
    | real value =>
      obtain rfl := Value.number.inj made
      rintro rfl
      exact written.numeral?_ne_nan found
  have literalNoNan : written.nearest ≠ .nan := Number.ofTicks_ne_nan _ _ _
  obtain ⟨order, isOrder⟩ := Option.ne_none_iff_exists'.mp
    (mt Number.compare?_eq_none_iff.mp (not_or.mpr ⟨numberNoNan, literalNoNan⟩))
  have compared : Operator.Compared (.number number) (.text text) (some order) :=
    isOrder ▸ .asNumbers (.inl rfl) rfl literal
  refine ⟨written, written.nearest, order, isFront, inside, literal, nearest, isOrder,
    Operator.findInOrder_of_compared compared, fun moderate => ?_⟩
  have isNearest := moderate.eq_nearest value
  refine ⟨isNearest, ?_⟩
  have same := Number.same_self numberNoNan
  rw [← isNearest] at isOrder
  rw [Number.same, isOrder] at same
  exact Option.some.inj (beq_iff_eq.mp same)

/-- A price is equal to its own text. -/
theorem Value.compares_with_own_text_price :
    ∃ json number, Json.ofText? "-99.50" = some json ∧ ofJson json = .number number ∧
      Operator.FindInOrder (.number number) (.text "-99.50") .eq := by
  have isNumber : ((Json.ofText? "-99.50").map fun json => (ofJson json).typeName) =
      some "number" := by
    decide +kernel
  obtain ⟨json, read, named⟩ := Option.map_eq_some_iff.mp isNumber
  obtain ⟨number, shape⟩ := exists_number_of_typeName named
  obtain ⟨written, literal, order, isFront, -, -, -, -, finds, agrees⟩ :=
    compares_with_own_text read shape
  obtain rfl : ⟨true, ['9', '9'], ['5', '0'], none⟩ = written := Option.some.inj isFront
  obtain ⟨-, rfl⟩ := agrees (.inr (.inr ⟨by decide, Number.exact_of_small (by decide),
    by decide, by decide⟩))
  exact ⟨json, number, read, shape, finds⟩

/-- A number that is written with seventeen digits is greater than its own text. -/
theorem Value.greater_than_own_text :
    ∃ json number, Json.ofText? "449.49106478873813" = some json ∧ ofJson json = .number number ∧
      Operator.FindInOrder (.number number) (.text "449.49106478873813") .gt := by
  have found : ((Json.ofText? "449.49106478873813").map fun json => ((ofJson json).typeName,
      (Operator.order? (ofJson json) (.text "449.49106478873813")).toOption)) =
        some ("number", some (some .gt)) := by
    decide +kernel
  obtain ⟨json, read, both⟩ := Option.map_eq_some_iff.mp found
  obtain ⟨named, answered⟩ := Prod.mk.inj both
  obtain ⟨number, shape⟩ := exists_number_of_typeName named
  rw [shape] at answered
  have ordered : Operator.order? (.number number) (.text "449.49106478873813") =
      .ok (some .gt) := by
    revert answered
    cases Operator.order? (.number number) (.text "449.49106478873813") with
    | error mismatch => exact nofun
    | ok order => exact fun answered => congrArg Except.ok (Option.some.inj answered)
  exact ⟨json, number, read, shape,
    Operator.findInOrder_of_compared (Operator.order?_eq_ok_iff.mp ordered)⟩

end Rulebook
