/-
This file says how a number is spelled and what a literal that spells it is read as. A spelling is a
sign, digits, digits behind a point and an exponent; what the reader of JSON accepts at the front of
a text is the spelling of the number that it tells. A literal with such a spelling, between blanks,
is read as the double nearest to the decimal that is spelled, whatever its length and its exponent:
decimals that are answered without a computation are so large or so small that there is only one
answer.
-/
import Mathlib.Data.List.TakeWhile
import Rulebook.Proofs.Conversion
import Rulebook.Proofs.Rounding
import Rulebook.Proofs.Written

namespace Rulebook

/-! ### Decimals -/

namespace Number

/-- The digits of a number are as many as it takes to write it. -/
theorem pow_length_repr {digits : Nat} (nonzero : digits ≠ 0) :
    10 ^ (digits.repr.length - 1) ≤ digits ∧ digits < 10 ^ digits.repr.length := by
  have length : digits.repr.length = (Nat.toDigits 10 digits).length := by
    rw [← String.length_toList, Nat.toList_repr]
  rw [length]
  have some : 0 < (Nat.toDigits 10 digits).length := List.length_pos_iff.mpr Nat.toDigits_ne_nil
  refine ⟨Nat.le_of_not_lt fun fewer => ?_,
    (Nat.length_toDigits_le_iff (by decide) some).mp (Nat.le_refl _)⟩
  rcases Nat.eq_zero_or_pos ((Nat.toDigits 10 digits).length - 1) with one | more
  · rw [one] at fewer
    exact nonzero (Nat.lt_one_iff.mp fewer)
  · have short := (Nat.length_toDigits_le_iff (by decide) more).mpr fewer
    omega

/-- A decimal whose first digit stands far to the left is infinite. -/
theorem infiniteTicks_le_rounded_decimal {digits : Nat} (nonzero : digits ≠ 0) {exponent : Int}
    (large : 310 < exponent + digits.repr.length) :
    infiniteTicks ≤
      rounded (digits * 10 ^ exponent.toNat * ticksPerOne) (10 ^ (-exponent).toNat) := by
  -- The bound has a name, so that no power of it is computed on the way.
  obtain ⟨highest, isHighest⟩ : ∃ highest, highest = 310 := ⟨_, rfl⟩
  have infinite : infiniteTicks ≤ 10 ^ highest * ticksPerOne := by
    rw [isHighest]
    decide +kernel
  have places : highest + (-exponent).toNat ≤ digits.repr.length - 1 + exponent.toNat := by
    omega
  refine infiniteTicks_le_rounded
    ((Nat.le_div_iff_mul_le (Nat.pow_pos (by decide))).mpr ?_)
  calc
    infiniteTicks * 10 ^ (-exponent).toNat ≤
        10 ^ highest * ticksPerOne * 10 ^ (-exponent).toNat := Nat.mul_le_mul_right _ infinite
    _ = 10 ^ (highest + (-exponent).toNat) * ticksPerOne := by
      rw [Nat.mul_right_comm, ← Nat.pow_add]
    _ ≤ 10 ^ (digits.repr.length - 1 + exponent.toNat) * ticksPerOne :=
      Nat.mul_le_mul_right _ (Nat.pow_le_pow_right (by decide) places)
    _ = 10 ^ (digits.repr.length - 1) * 10 ^ exponent.toNat * ticksPerOne := by rw [Nat.pow_add]
    _ ≤ digits * 10 ^ exponent.toNat * ticksPerOne :=
      Nat.mul_le_mul_right _ (Nat.mul_le_mul_right _ (pow_length_repr nonzero).1)

/-- A decimal whose first digit stands far to the right is zero. -/
theorem rounded_decimal_eq_zero {digits : Nat} (nonzero : digits ≠ 0) {exponent : Int}
    (small : exponent + digits.repr.length < -330) :
    rounded (digits * 10 ^ exponent.toNat * ticksPerOne) (10 ^ (-exponent).toNat) = 0 := by
  obtain ⟨lowest, isLowest⟩ : ∃ lowest, lowest = 330 := ⟨_, rfl⟩
  have nothing : 2 * ticksPerOne ≤ 10 ^ lowest := by
    rw [isLowest]
    decide +kernel
  have places : digits.repr.length + exponent.toNat + lowest ≤ (-exponent).toNat := by omega
  refine rounded_eq_zero ?_
  calc
    2 * (digits * 10 ^ exponent.toNat * ticksPerOne) =
        digits * 10 ^ exponent.toNat * (2 * ticksPerOne) := Nat.mul_left_comm _ _ _
    _ ≤ digits * 10 ^ exponent.toNat * 10 ^ lowest := Nat.mul_le_mul_left _ nothing
    _ < 10 ^ digits.repr.length * 10 ^ exponent.toNat * 10 ^ lowest :=
      Nat.mul_lt_mul_of_pos_right (Nat.mul_lt_mul_of_pos_right (pow_length_repr nonzero).2
        (Nat.pow_pos (by decide))) (Nat.pow_pos (by decide))
    _ = 10 ^ (digits.repr.length + exponent.toNat + lowest) := by rw [Nat.pow_add, Nat.pow_add]
    _ ≤ 10 ^ (-exponent).toNat := Nat.pow_le_pow_right (by decide) places

/-- A decimal is rounded once. Those that are found to be infinite or zero by the place of their
first digit are rounded to this in any case. -/
theorem ofDecimal_eq_ofTicks (negative : Bool) (digits : Nat) (exponent : Int) :
    ofDecimal negative digits exponent =
      ofTicks negative (digits * 10 ^ exponent.toNat * ticksPerOne) (10 ^ (-exponent).toNat) := by
  unfold ofDecimal
  by_cases zero : digits = 0
  · rw [if_pos (beq_iff_eq.mpr zero), zero, Nat.zero_mul, Nat.zero_mul]
    exact (ofTicks_zero negative (Nat.pow_pos (by decide))).symm
  · rw [if_neg (mt beq_iff_eq.mp zero)]
    dsimp only
    split
    · next large =>
      exact (ofTicks_of_le negative (infiniteTicks_le_rounded_decimal zero large)).symm
    · split
      · next small =>
        have nothing := rounded_decimal_eq_zero zero small
        obtain ⟨representable, made⟩ := ofTicks_of_lt negative (nothing ▸ infiniteTicks_pos)
        rw [made]
        simp only [nothing]
        rfl
      · split
        · next whole =>
          have noFraction : (-exponent).toNat = 0 := by omega
          rw [noFraction]
          rfl
        · next fraction =>
          have noZeros : exponent.toNat = 0 := by omega
          rw [noZeros, Nat.pow_zero, Nat.mul_one]
          rfl

end Number

namespace WrittenNumber

/-- All digits of a number, those of the fraction included. -/
def digits (written : WrittenNumber) : Nat := digitsValue (written.whole ++ written.fraction)

/-- The power of ten that the last digit counts. -/
def power (written : WrittenNumber) : Int := written.exponentValue - written.fraction.length

/-- The decimal that is spelled, as a quotient of ticks: what stands above the line. -/
def numerator (written : WrittenNumber) : Nat :=
  written.digits * 10 ^ written.power.toNat * ticksPerOne

/-- What stands below the line. -/
def denominator (written : WrittenNumber) : Nat := 10 ^ (-written.power).toNat

/-- The double nearest to the decimal that is spelled. -/
def nearest (written : WrittenNumber) : Number :=
  .ofTicks written.negative written.numerator written.denominator

/-- Without a fraction and an exponent a whole number is spelled. -/
theorem nearest_whole (negative : Bool) (whole : List Char) :
    nearest ⟨negative, whole, [], none⟩ =
      .ofTicks negative (digitsValue whole * ticksPerOne) 1 := by
  unfold nearest numerator denominator digits power exponentValue
  simp only [List.append_nil, List.length_nil, Int.ofNat_zero, Int.sub_zero, Int.toNat_zero,
    Int.neg_zero, Nat.pow_zero, Nat.mul_one]

/-! ### Spellings -/

/-- How a sign is spelled. -/
def SpelledSign : Bool → List Char → Prop
  | true, sign => sign = ['-']
  | false, sign => sign = [] ∨ sign = ['+']

/-- Digits, at least one. -/
def Digits (characters : List Char) : Prop :=
  characters ≠ [] ∧ ∀ digit ∈ characters, digit.isDigit = true

/-- How the fraction is spelled: not at all, or by a point and digits. -/
def SpelledFraction (fraction characters : List Char) : Prop :=
  (fraction = [] ∧ characters = []) ∨ (Digits fraction ∧ characters = '.' :: fraction)

/-- How the exponent is spelled: not at all, or by its mark, a sign and digits. -/
def SpelledExponent : Option (Bool × List Char) → List Char → Prop
  | none, characters => characters = []
  | some (negative, digits), characters => ∃ mark sign, (mark = 'e' ∨ mark = 'E') ∧
      SpelledSign negative sign ∧ Digits digits ∧ characters = mark :: (sign ++ digits)

/-- How a number is spelled. -/
def Spelled (written : WrittenNumber) (characters : List Char) : Prop :=
  ∃ sign fraction exponent, SpelledSign written.negative sign ∧ Digits written.whole ∧
    SpelledFraction written.fraction fraction ∧ SpelledExponent written.exponent exponent ∧
    characters = sign ++ (written.whole ++ (fraction ++ exponent))

/-- The characters that numbers are spelled with. -/
def IsNumeric (character : Char) : Prop :=
  character.isDigit = true ∨ character ∈ ['-', '+', '.', 'e', 'E']

variable {written : WrittenNumber} {characters : List Char}

theorem SpelledSign.isNumeric {negative : Bool} {sign : List Char}
    (spelled : SpelledSign negative sign) : ∀ character ∈ sign, IsNumeric character := by
  unfold IsNumeric
  cases negative with
  | true =>
    obtain rfl := spelled
    simp
  | false => rcases spelled with rfl | rfl <;> simp

theorem Spelled.isNumeric (spelled : written.Spelled characters) :
    ∀ character ∈ characters, IsNumeric character := by
  obtain ⟨sign, fraction, exponent, signed, ⟨-, whole⟩, fractional, exponential, rfl⟩ := spelled
  have inFraction : ∀ character ∈ fraction, IsNumeric character := by
    rcases fractional with ⟨-, rfl⟩ | ⟨⟨-, digits⟩, rfl⟩
    · exact nofun
    · exact List.forall_mem_cons.mpr
        ⟨.inr (by decide), fun digit member => .inl (digits digit member)⟩
  have inExponent : ∀ character ∈ exponent, IsNumeric character := by
    rcases shape : written.exponent with _ | ⟨negative, digits⟩
    · rw [shape] at exponential
      obtain rfl := exponential
      exact nofun
    · rw [shape] at exponential
      obtain ⟨mark, sign, marks, signed, ⟨-, digits⟩, rfl⟩ := exponential
      refine List.forall_mem_cons.mpr ⟨?_, List.forall_mem_append.mpr
        ⟨signed.isNumeric, fun digit member => .inl (digits digit member)⟩⟩
      rcases marks with rfl | rfl <;> exact .inr (by decide)
  exact List.forall_mem_append.mpr ⟨signed.isNumeric, List.forall_mem_append.mpr
    ⟨fun digit member => .inl (whole digit member),
      List.forall_mem_append.mpr ⟨inFraction, inExponent⟩⟩⟩

/-! ### A spelling is read as the nearest double -/

/-- A sign is told from the digits behind it. -/
theorem splitSign_append {negative : Bool} {sign : List Char} (signed : SpelledSign negative sign)
    {digit : Char} (isDigit : digit.isDigit = true) (rest : List Char) :
    splitSign (sign ++ digit :: rest) = (negative, digit :: rest) := by
  cases negative with
  | true =>
    obtain rfl := signed
    rfl
  | false =>
    rcases signed with rfl | rfl
    · unfold splitSign
      split
      · next shape =>
        obtain ⟨rfl, -⟩ := List.cons.inj shape
        exact nomatch isDigit
      · next shape =>
        obtain ⟨rfl, -⟩ := List.cons.inj shape
        exact nomatch isDigit
      · rfl
    · rfl

/-- No digit stands at the front. -/
def NoDigitHead (characters : List Char) : Prop :=
  ∀ first ∈ characters.head?, first.isDigit = false

/-- Digits end where something else begins. -/
theorem spanDigits_append {digits rest : List Char} (all : ∀ digit ∈ digits, digit.isDigit = true)
    (ends : NoDigitHead rest) : spanDigits (digits ++ rest) = (digits, rest) := by
  unfold spanDigits
  rw [List.takeWhile_append_of_pos all, List.dropWhile_append_of_pos all]
  cases rest with
  | nil => rw [List.takeWhile_nil, List.dropWhile_nil, List.append_nil]
  | cons first others =>
    have notDigit : ¬ first.isDigit = true := Bool.eq_false_iff.mp (ends first rfl)
    rw [List.takeWhile_cons_of_neg notDigit, List.dropWhile_cons_of_neg notDigit, List.append_nil]

theorem exponentOf?_of_spelled (spelled : SpelledExponent written.exponent characters) :
    Number.exponentOf? characters = some written.exponentValue := by
  unfold exponentValue
  rcases shape : written.exponent with _ | ⟨negative, digits⟩
  · rw [shape] at spelled
    obtain rfl := spelled
    rfl
  · rw [shape] at spelled
    obtain ⟨mark, sign, marks, signed, ⟨nonempty, all⟩, rfl⟩ := spelled
    obtain ⟨digit, others, rfl⟩ := List.exists_cons_of_ne_nil nonempty
    have noOther : (!(digit :: others).all Char.isDigit) = false := by
      rw [List.all_eq_true.mpr all]
      rfl
    unfold Number.exponentOf?
    dsimp only
    rw [if_pos marks, splitSign_append signed (all digit List.mem_cons_self) others]
    dsimp only
    rw [noOther]
    rfl

/-- An exponent begins with its mark, and so neither with a digit nor with a point. -/
theorem head?_of_spelledExponent (spelled : SpelledExponent written.exponent characters) :
    ∀ first ∈ characters.head?, first = 'e' ∨ first = 'E' := by
  rcases shape : written.exponent with _ | ⟨negative, digits⟩
  · rw [shape] at spelled
    obtain rfl := spelled
    exact nofun
  · rw [shape] at spelled
    obtain ⟨mark, sign, marks, -, -, rfl⟩ := spelled
    rintro _ ⟨⟩
    exact marks

theorem noDigitHead_of_spelledExponent (spelled : SpelledExponent written.exponent characters) :
    NoDigitHead characters := by
  intro first isFirst
  rcases head?_of_spelledExponent spelled first isFirst with rfl | rfl <;> rfl

theorem splitFraction_of_spelled {fraction exponent : List Char}
    (fractional : SpelledFraction written.fraction fraction)
    (exponential : SpelledExponent written.exponent exponent) :
    Number.splitFraction (fraction ++ exponent) = (written.fraction, exponent) := by
  rcases fractional with ⟨none, rfl⟩ | ⟨⟨-, all⟩, rfl⟩
  · rw [none, List.nil_append]
    unfold Number.splitFraction
    split
    · next rest =>
      exact absurd (head?_of_spelledExponent exponential '.' rfl) (by decide)
    · rfl
  · exact spanDigits_append all (noDigitHead_of_spelledExponent exponential)

/-- What is spelled without its sign is read as the nearest double. -/
theorem decimalOf?_of_spelled {fraction exponent : List Char} (whole : Digits written.whole)
    (fractional : SpelledFraction written.fraction fraction)
    (exponential : SpelledExponent written.exponent exponent) :
    Number.decimalOf? written.negative (written.whole ++ (fraction ++ exponent)) =
      some written.nearest := by
  have ends : NoDigitHead (fraction ++ exponent) := by
    rcases fractional with ⟨-, rfl⟩ | ⟨-, rfl⟩
    · exact noDigitHead_of_spelledExponent exponential
    · rintro _ ⟨⟩
      rfl
  have someDigits : (written.whole.isEmpty && written.fraction.isEmpty) = false := by
    rw [List.isEmpty_eq_false_iff.mpr whole.1, Bool.false_and]
  unfold Number.decimalOf?
  rw [spanDigits_append whole.2 ends]
  dsimp only
  rw [splitFraction_of_spelled fractional exponential]
  dsimp only
  rw [someDigits, exponentOf?_of_spelled exponential]
  exact congrArg some (Number.ofDecimal_eq_ofTicks _ _ _)

/-- No digit is a capital letter. -/
theorem toLower_of_isDigit {digit : Char} (isDigit : digit.isDigit = true) :
    digit.toLower = digit := by
  unfold Char.toLower
  refine dif_neg fun capital => ?_
  have low := (Bool.and_eq_true_iff.mp isDigit).2
  have high := capital.1
  have together := UInt32.le_trans high (of_decide_eq_true low)
  exact absurd together (by decide)

/-- The number that a text spells is the double nearest to it. -/
theorem ofText?_of_spelled (spelled : written.Spelled characters) :
    Number.ofText? (String.ofList characters) = some written.nearest := by
  obtain ⟨sign, fraction, exponent, signed, whole, fractional, exponential, rfl⟩ := spelled
  have read := decimalOf?_of_spelled whole fractional exponential
  obtain ⟨digit, others, shape⟩ := List.exists_cons_of_ne_nil whole.1
  have isDigit : digit.isDigit = true := whole.2 digit (shape ▸ List.mem_cons_self)
  rw [shape, List.cons_append] at read ⊢
  -- The first digit keeps the text from being the name of an infinity or of NaN.
  have noName {letter : Char} {letters : List Char} (noDigit : letter.isDigit = false) :
      (digit :: (others ++ (fraction ++ exponent))).map Char.toLower ≠ letter :: letters := by
    intro same
    obtain ⟨isLetter, -⟩ := List.cons.inj same
    rw [toLower_of_isDigit isDigit] at isLetter
    rw [isLetter, noDigit] at isDigit
    exact nomatch isDigit
  unfold Number.ofText?
  rw [String.toList_ofList, splitSign_append signed isDigit]
  dsimp only
  rw [if_neg (not_or.mpr ⟨noName rfl, noName rfl⟩), if_neg (noName rfl)]
  exact read

end WrittenNumber

/-! ### Blanks around a spelling -/

namespace Text

theorem dropWhile_isBlank_append {blanks characters : List Char}
    (blank : ∀ character ∈ blanks, isBlank character = true)
    (solid : ∀ character ∈ characters, isBlank character = false) (nonempty : characters ≠ [])
    (rest : List Char) :
    (blanks ++ (characters ++ rest)).dropWhile isBlank = characters ++ rest := by
  obtain ⟨first, others, rfl⟩ := List.exists_cons_of_ne_nil nonempty
  rw [List.dropWhile_append_of_pos blank, List.cons_append]
  exact List.dropWhile_cons_of_neg (Bool.eq_false_iff.mp (solid first List.mem_cons_self))

/-- Blanks at the two ends are taken away. -/
theorem trimChars_append {before characters after : List Char}
    (blankBefore : ∀ character ∈ before, isBlank character = true)
    (solid : ∀ character ∈ characters, isBlank character = false)
    (nonempty : characters ≠ [])
    (blankAfter : ∀ character ∈ after, isBlank character = true) :
    trimChars (before ++ (characters ++ after)) = characters := by
  unfold trimChars
  rw [dropWhile_isBlank_append blankBefore solid nonempty, List.reverse_append]
  have reversed : (after.reverse ++ (characters.reverse ++ [])).dropWhile isBlank =
      characters.reverse ++ [] :=
    dropWhile_isBlank_append
      (fun character member => blankAfter character (List.mem_reverse.mp member))
      (fun character member => solid character (List.mem_reverse.mp member))
      (mt List.reverse_eq_nil_iff.mp nonempty) []
  rw [List.append_nil] at reversed
  rw [reversed, List.reverse_reverse]

end Text

namespace WrittenNumber

/-- The number that stands at the front of a text, blanks before it skipped. -/
def front? (text : String) : Option WrittenNumber :=
  (Document.readNumber (Document.skipSpace text.toList)).map (·.1)

/-- A number is written in a text, with nothing around it but blanks. -/
def WrittenIn (written : WrittenNumber) (text : String) : Prop :=
  ∃ before characters after, text.toList = before ++ (characters ++ after) ∧
    (∀ character ∈ before, Document.isSpace character = true) ∧ written.Spelled characters ∧
    ∀ character ∈ after, Document.isSpace character = true

theorem isBlank_of_isSpace {character : Char} (space : Document.isSpace character = true) :
    Text.isBlank character = true := by
  simp only [Document.isSpace, Bool.or_eq_true, beq_iff_eq] at space
  rcases space with ((rfl | rfl) | rfl) | rfl <;> rfl

theorem IsNumeric.isBlank_eq_false {character : Char} (numeric : IsNumeric character) :
    Text.isBlank character = false := by
  rcases numeric with isDigit | mark
  · obtain ⟨low, high⟩ := Bool.and_eq_true_iff.mp isDigit
    have least : 48 ≤ character.toNat := of_decide_eq_true low
    have most : character.toNat ≤ 57 := of_decide_eq_true high
    simp [Text.isBlank]
    omega
  · simp only [List.mem_cons, List.not_mem_nil, or_false] at mark
    rcases mark with rfl | rfl | rfl | rfl | rfl <;> rfl

variable {written : WrittenNumber} {characters : List Char}

theorem Spelled.ne_nil (spelled : written.Spelled characters) : characters ≠ [] := by
  obtain ⟨_, _, _, -, ⟨nonempty, -⟩, -, -, rfl⟩ := spelled
  intro empty
  exact nonempty (List.append_eq_nil_iff.mp (List.append_eq_nil_iff.mp empty).2).1

/-- A literal in which a number is written is read as the double nearest to it. -/
theorem WrittenIn.asNumber? {text : String} (inside : written.WrittenIn text) :
    (Value.text text).asNumber? = some written.nearest := by
  obtain ⟨before, characters, after, parts, blankBefore, spelled, blankAfter⟩ := inside
  have trimmed : Text.trim text = String.ofList characters := by
    unfold Text.trim
    rw [parts, Text.trimChars_append
      (fun character member => isBlank_of_isSpace (blankBefore character member))
      (fun character member => (spelled.isNumeric character member).isBlank_eq_false) spelled.ne_nil
      (fun character member => isBlank_of_isSpace (blankAfter character member))]
  show Number.ofText? (Text.trim text) = _
  rw [trimmed]
  exact ofText?_of_spelled spelled

end WrittenNumber

/-! ### Numbers in JSON texts -/

namespace Document

open WrittenNumber

theorem exists_append_of_readDigits {characters digits rest : List Char}
    (read : readDigits characters = some (digits, rest)) :
    Digits digits ∧ characters = digits ++ rest := by
  unfold readDigits spanDigits at read
  split at read
  · exact nomatch read
  · next nonempty =>
    obtain ⟨rfl, rfl⟩ := Prod.mk.inj (Option.some.inj read)
    exact ⟨⟨fun none => nonempty _ (Prod.ext none rfl), fun _ => List.mem_takeWhile_imp⟩,
      List.takeWhile_append_dropWhile.symm⟩

theorem exists_append_of_readFraction {characters fraction rest : List Char}
    (read : readFraction characters = some (fraction, rest)) :
    ∃ front, SpelledFraction fraction front ∧ characters = front ++ rest := by
  unfold readFraction at read
  split at read
  · obtain ⟨digits, rfl⟩ := exists_append_of_readDigits read
    exact ⟨'.' :: fraction, .inr ⟨digits, rfl⟩, rfl⟩
  · obtain ⟨rfl, rfl⟩ := Prod.mk.inj (Option.some.inj read)
    exact ⟨[], .inl ⟨rfl, rfl⟩, rfl⟩

theorem exists_append_of_splitSign (characters : List Char) :
    ∃ sign, SpelledSign (splitSign characters).1 sign ∧
      characters = sign ++ (splitSign characters).2 := by
  unfold splitSign
  split
  · exact ⟨['-'], rfl, rfl⟩
  · exact ⟨['+'], .inr rfl, rfl⟩
  · exact ⟨[], .inl rfl, rfl⟩

theorem exists_append_of_readMinus (characters : List Char) :
    ∃ sign, SpelledSign (readMinus characters).1 sign ∧
      characters = sign ++ (readMinus characters).2 := by
  unfold readMinus
  split
  · exact ⟨['-'], rfl, rfl⟩
  · exact ⟨[], .inl rfl, rfl⟩

theorem exists_append_of_readExponent {characters rest : List Char}
    {exponent : Option (Bool × List Char)}
    (read : readExponent characters = some (exponent, rest)) :
    ∃ front, SpelledExponent exponent front ∧ characters = front ++ rest := by
  unfold readExponent at read
  split at read
  · obtain ⟨rfl, rfl⟩ := Prod.mk.inj (Option.some.inj read)
    exact ⟨[], rfl, rfl⟩
  · next mark behind =>
    split at read
    · next marks =>
      obtain ⟨sign, signed, parts⟩ := exists_append_of_splitSign behind
      generalize splitSign behind = split at signed parts read
      obtain ⟨⟨digits, after⟩, readInside, made⟩ := Option.bind_eq_some_iff.mp read
      obtain ⟨rfl, rfl⟩ := Prod.mk.inj (Option.some.inj made)
      obtain ⟨all, unsigned⟩ := exists_append_of_readDigits readInside
      refine ⟨mark :: (sign ++ digits), ⟨mark, sign, marks, signed, all, rfl⟩, ?_⟩
      rw [parts, unsigned, List.cons_append, List.append_assoc]
    · obtain ⟨rfl, rfl⟩ := Prod.mk.inj (Option.some.inj read)
      exact ⟨[], rfl, rfl⟩

/-- What is read as a number spells it. -/
theorem exists_append_of_readNumber {characters rest : List Char} {written : WrittenNumber}
    (read : readNumber characters = some (written, rest)) :
    ∃ front, written.Spelled front ∧ characters = front ++ rest := by
  unfold readNumber at read
  obtain ⟨sign, signed, parts⟩ := exists_append_of_readMinus characters
  generalize readMinus characters = split at signed parts read
  obtain ⟨⟨whole, afterWhole⟩, readWhole, read⟩ := Option.bind_eq_some_iff.mp read
  dsimp only at read
  split at read
  · exact nomatch read
  · obtain ⟨⟨fraction, afterFraction⟩, readPoint, read⟩ := Option.bind_eq_some_iff.mp read
    obtain ⟨⟨exponent, after⟩, readMark, made⟩ := Option.bind_eq_some_iff.mp read
    obtain ⟨rfl, rfl⟩ := Prod.mk.inj (Option.some.inj made)
    obtain ⟨digits, unsigned⟩ := exists_append_of_readDigits readWhole
    obtain ⟨point, fractional, rfl⟩ := exists_append_of_readFraction readPoint
    obtain ⟨mark, exponential, rfl⟩ := exists_append_of_readExponent readMark
    refine ⟨sign ++ (whole ++ (point ++ mark)),
      ⟨sign, point, mark, signed, digits, fractional, exponential, rfl⟩, ?_⟩
    rw [parts, unsigned]
    simp only [List.append_assoc]

theorem exists_readNumber_of_readValue {fuel : Nat} {characters rest : List Char}
    {numeral : Option Numeral} (read : readValue fuel characters = some (.number numeral, rest)) :
    ∃ written : WrittenNumber, readNumber (skipSpace characters) = some (written, rest) ∧
      numeral = written.numeral? := by
  cases fuel with
  | zero => cases read
  | succ fuel =>
    unfold readValue at read
    split at read
    case h_1 | h_2 | h_3 => cases read
    case h_4 =>
      obtain ⟨_, -, made⟩ := Option.map_eq_some_iff.mp read
      cases made
    case h_5 | h_6 =>
      split at read
      · cases read
      · obtain ⟨_, -, made⟩ := Option.map_eq_some_iff.mp read
        cases made
    case h_7 =>
      obtain ⟨⟨written, after⟩, readInside, made⟩ := Option.map_eq_some_iff.mp read
      obtain ⟨isNumber, rfl⟩ := Prod.mk.inj made
      exact ⟨written, readInside, (Document.number.inj isNumber).symm⟩

/-- A document that is a number is a text in which one is written. -/
theorem exists_writtenIn_of_ofText? {text : String} {numeral : Option Numeral}
    (read : ofText? text = some (.number numeral)) :
    ∃ written, WrittenNumber.front? text = some written ∧ written.WrittenIn text ∧
      numeral = written.numeral? := by
  unfold ofText? ofChars? at read
  split at read
  · next document rest found =>
    split at read
    · next nothing =>
      obtain rfl := Option.some.inj read
      obtain ⟨written, readInside, isNumeral⟩ := exists_readNumber_of_readValue found
      obtain ⟨front, spelled, behind⟩ := exists_append_of_readNumber readInside
      refine ⟨written, ?_, ⟨text.toList.takeWhile isSpace, front, rest, ?_,
        fun _ => List.mem_takeWhile_imp, spelled, ?_⟩, isNumeral⟩
      · rw [WrittenNumber.front?, readInside]
        rfl
      · rw [← behind]
        exact List.takeWhile_append_dropWhile.symm
      · exact List.dropWhile_eq_nil_iff.mp (List.isEmpty_iff.mp nothing)
    · exact nomatch read
  · exact nomatch read

end Document

/-- A JSON text that becomes a number is one in which the number is written. -/
theorem Json.exists_writtenIn_of_ofText? {text : String} {json : Json} {number : Number}
    (read : Json.ofText? text = some json) (isNumber : Value.ofJson json = .number number) :
    ∃ written, WrittenNumber.front? text = some written ∧ written.WrittenIn text ∧
      written.numeral?.map Value.ofNumeral = some (.number number) := by
  obtain ⟨document, readDocument, made⟩ := Option.bind_eq_some_iff.mp read
  have numeric : ∃ numeral, document = .number numeral ∧
      numeral.map Value.ofNumeral = some (.number number) := by
    cases document with
    | null =>
      obtain rfl := Option.some.inj made
      exact nomatch isNumber
    | bool value =>
      obtain rfl := Option.some.inj made
      exact nomatch isNumber
    | number numeral =>
      obtain ⟨inside, rfl, rfl⟩ := Option.map_eq_some_iff.mp made
      refine ⟨_, rfl, ?_⟩
      rw [← isNumber, Value.ofJson_ofNumeral]
      rfl
    | text characters =>
      obtain ⟨_, -, rfl⟩ := Option.map_eq_some_iff.mp made
      exact nomatch isNumber
    | list items =>
      obtain ⟨_, -, rfl⟩ := Option.map_eq_some_iff.mp made
      exact nomatch isNumber
    | object entries =>
      obtain ⟨_, -, rfl⟩ := Option.map_eq_some_iff.mp made
      exact nomatch isNumber
  obtain ⟨numeral, rfl, value⟩ := numeric
  obtain ⟨written, isFront, inside, rfl⟩ := Document.exists_writtenIn_of_ofText? readDocument
  exact ⟨written, isFront, inside, value⟩

end Rulebook
