/-
This file says how integers are compared. An argument of an event keeps an integer of 64 bits as it
is; a value holds the double nearest to it, and so does a condition whose literal spells an integer.
So what is compared is what a double keeps of an integer: its 53 highest bits, the last of them
rounded. Two integers are told apart if they have no more bits than that, or if one of them is below
`2 ^ 53`; others that differ by `2 ^ 11` at most may be taken for each other.
-/
import Rulebook.Proofs.Composition
import Rulebook.Proofs.Equality
import Rulebook.Proofs.Literals
import Rulebook.Proofs.Spelling

namespace Rulebook

namespace Number

theorem ticksPerOne_pos : 0 < ticksPerOne := by decide +kernel

/-! ### Whole numbers -/

theorem excessBits_mul_two_pow {size : Nat} (excess : 0 < excessBits size) (shift : Nat) :
    excessBits (size * 2 ^ shift) = excessBits size + shift := by
  have nonzero : size ≠ 0 := by
    rintro rfl
    exact absurd excess (by decide)
  have moved : (size * 2 ^ shift).log2 = size.log2 + shift := by
    refine (Nat.log2_eq_iff (Nat.mul_ne_zero nonzero (Nat.ne_of_gt (Nat.two_pow_pos shift)))).mpr
      ⟨?_, ?_⟩
    · rw [Nat.pow_add]
      exact Nat.mul_le_mul_right _ (Nat.log2_self_le nonzero)
    · rw [Nat.add_right_comm, Nat.pow_add]
      exact Nat.mul_lt_mul_of_pos_right Nat.lt_log2_self (Nat.two_pow_pos shift)
  unfold excessBits at excess ⊢
  omega

/-- Where all bits fit nothing is lost. -/
theorem rounded_of_excessBits_eq_zero {size : Nat} (none : excessBits size = 0) :
    rounded size 1 = size := by
  have zeros : 2 ^ excessBits size ∣ size := by
    rw [none]
    exact Nat.one_dvd size
  have kept := rounded_of_dvd zeros Nat.one_pos
  rwa [Nat.mul_one] at kept

/-- A whole number is rounded just as so many ones are rounded as ticks. -/
theorem rounded_mul_two_pow (size shift : Nat) :
    rounded (size * 2 ^ shift) 1 = rounded size 1 * 2 ^ shift := by
  -- Either all bits fit on both sides, or as many more are cut off as zeros were added.
  rcases Nat.eq_zero_or_pos (excessBits size) with none | excess
  · have short : size ≤ 2 ^ 53 := by
      refine Nat.le_of_lt (Nat.lt_of_lt_of_le Nat.lt_log2_self
        (Nat.pow_le_pow_right (by decide) ?_))
      unfold excessBits at none
      omega
    have kept := rounded_of_dvd (two_pow_excessBits_dvd short shift) Nat.one_pos
    rw [Nat.mul_one] at kept
    rw [kept, rounded_of_excessBits_eq_zero none]
  · have bits := excessBits_mul_two_pow excess shift
    unfold rounded keptSignificand
    rw [Nat.div_one, Nat.div_one, bits]
    show nearestEven (size * 2 ^ shift) (1 * 2 ^ (excessBits size + shift)) *
      2 ^ (excessBits size + shift) = nearestEven size (1 * 2 ^ excessBits size) *
        2 ^ excessBits size * 2 ^ shift
    rw [Nat.one_mul, Nat.one_mul, Nat.pow_add, nearestEven_mul_right _ _ (Nat.two_pow_pos shift),
      Nat.mul_assoc]

/-! ### What a double keeps of an integer -/

/-- What is left of an integer when it becomes a double. -/
def kept (value : Int) : Int :=
  if value < 0 then -(rounded value.natAbs 1 : Int) else rounded value.natAbs 1

/-- Integers of 64 bits, with a sign or without. -/
def FitsWord (value : Int) : Prop := -(2 ^ 63) ≤ value ∧ value < 2 ^ 64

instance (value : Int) : Decidable (FitsWord value) := inferInstanceAs (Decidable (_ ∧ _))

/-- At most eleven bits of an integer do not fit. -/
theorem FitsWord.two_pow_excessBits_le {value : Int} (fits : FitsWord value) :
    Nat.pow 2 (excessBits value.natAbs) ≤ 2 ^ 11 := by
  refine Nat.pow_le_pow_right (by decide) ?_
  rcases Nat.eq_zero_or_pos value.natAbs with zero | positive
  · rw [zero]
    decide
  · have size : value.natAbs < 2 ^ 64 := by
      obtain ⟨low, high⟩ := fits
      omega
    have few := (Nat.log2_lt (Nat.ne_of_gt positive)).mpr size
    unfold excessBits
    omega

/-- What is left of an integer differs from it by half a step of the doubles around it. -/
theorem FitsWord.kept_near {value : Int} (fits : FitsWord value) :
    (kept value - value).natAbs ≤ 2 ^ 10 := by
  have near := rounded_near value.natAbs Nat.one_pos
  have weight := fits.two_pow_excessBits_le
  rw [Nat.div_one, Nat.mul_one, Nat.one_mul] at near
  unfold kept
  split <;> omega

/-- Where the double of an integer stands. -/
theorem place?_ofInt {value : Int} (fits : FitsWord value) :
    (ofInt value).place? = some (.inr (kept value * ticksPerOne)) := by
  have scaled : rounded (value.natAbs * ticksPerOne) 1 = rounded value.natAbs 1 * ticksPerOne := by
    obtain ⟨shift, one⟩ : ∃ shift, ticksPerOne = 2 ^ shift := ⟨1074, by decide +kernel⟩
    rw [one]
    exact rounded_mul_two_pow _ shift
  have bounded : rounded (value.natAbs * ticksPerOne) 1 < infiniteTicks := by
    have size : rounded value.natAbs 1 < 2 ^ 65 := by
      have near := (rounded_near value.natAbs Nat.one_pos).2
      have weight := fits.two_pow_excessBits_le
      rw [Nat.div_one, Nat.mul_one, Nat.one_mul] at near
      obtain ⟨low, high⟩ := fits
      omega
    have room : 2 ^ 65 * ticksPerOne < infiniteTicks := by decide +kernel
    rw [scaled]
    exact Nat.lt_trans (Nat.mul_lt_mul_of_pos_right size ticksPerOne_pos) room
  obtain ⟨representable, made⟩ := ofTicks_of_lt (decide (value < 0)) bounded
  unfold ofInt kept
  rw [made, place?, signedTicks, scaled]
  by_cases negative : value < 0
  · rw [if_pos (decide_eq_true negative), if_pos negative, Int.neg_mul, Int.natCast_mul]
  · rw [if_neg (by simpa using negative), if_neg negative, Int.natCast_mul]

/-- The doubles of two integers are the same if the same is left of the integers. -/
theorem same_ofInt_iff {first second : Int} (firstFits : FitsWord first)
    (secondFits : FitsWord second) :
    (ofInt first).same (ofInt second) = true ↔ kept first = kept second := by
  have unit : (ticksPerOne : Int) ≠ 0 := Int.natCast_ne_zero.mpr (Nat.ne_of_gt ticksPerOne_pos)
  rw [same_iff, place?_ofInt firstFits, place?_ofInt secondFits]
  simp only [Option.some.injEq, exists_eq_left', Sum.inr.injEq]
  rw [Int.mul_eq_mul_right_iff unit]
  exact eq_comm

/-! ### Which integers are told apart -/

/-- An integer of at most 53 significant bits. -/
def Exact (value : Int) : Prop :=
  ∃ significand shift, significand ≤ 2 ^ 53 ∧ value.natAbs = significand * 2 ^ shift

/-- Nothing is lost of an integer of at most 53 significant bits. -/
theorem Exact.kept_eq {value : Int} (exact : Exact value) : kept value = value := by
  have whole : rounded value.natAbs 1 = value.natAbs := by
    obtain ⟨significand, shift, fits, size⟩ := exact
    have kept := rounded_of_dvd (two_pow_excessBits_dvd fits shift) Nat.one_pos
    rwa [Nat.mul_one, ← size] at kept
  unfold kept
  rw [whole]
  split <;> omega

theorem exact_of_small {value : Int} (small : value.natAbs < 2 ^ 53) : Exact value :=
  ⟨value.natAbs, 0, Nat.le_of_lt small, (Nat.mul_one _).symm⟩

/-- What is left of a large integer is large. -/
theorem small_of_kept {value : Int} (small : (kept value).natAbs < 2 ^ 53) :
    value.natAbs < 2 ^ 53 := by
  refine Nat.lt_of_not_le fun large => ?_
  have kept : 2 ^ 53 ≤ rounded value.natAbs 1 :=
    two_pow_le_rounded ((Nat.div_one value.natAbs).symm ▸ large)
  unfold Number.kept at small
  split at small <;> omega

/-- An integer below `2 ^ 53` is told apart from all others. -/
theorem kept_eq_iff_of_small {first second : Int} (small : first.natAbs < 2 ^ 53) :
    kept first = kept second ↔ first = second := by
  refine ⟨fun same => ?_, congrArg kept⟩
  have keptFirst := (exact_of_small small).kept_eq
  have others : second.natAbs < 2 ^ 53 := by
    refine small_of_kept ?_
    rw [← same, keptFirst]
    exact small
  rw [← keptFirst, same, (exact_of_small others).kept_eq]

end Number

/-! ### Integers that are written -/

namespace WrittenNumber

theorem nearest_ofInt (value : Int) : (ofInt value).nearest = .ofInt value := by
  have size : digitsValue (Nat.toDigits 10 value.natAbs) = value.natAbs :=
    Nat.ofDigitChars_ten_toDigits
  unfold ofInt
  rw [nearest_whole, size]
  rfl

/-- The text of an integer is one in which it is written. -/
theorem writtenIn_toString (value : Int) : (ofInt value).WrittenIn (toString value) := by
  have read : Document.readNumber ((toString value).toList ++ []) = some (.ofInt value, []) :=
    Document.readNumber_ofInt value trivial
  obtain ⟨front, spelled, whole⟩ := Document.exists_append_of_readNumber read
  rw [List.append_nil, List.append_nil] at whole
  exact ⟨[], front, [], by rw [whole, List.append_nil, List.nil_append], nofun, spelled, nofun⟩

end WrittenNumber

/-- A literal that spells an integer is read as the double nearest to it, whatever its size. -/
theorem Value.asNumber?_toString (value : Int) :
    (Value.text (toString value)).asNumber? = some (.ofInt value) := by
  rw [(WrittenNumber.writtenIn_toString value).asNumber?, WrittenNumber.nearest_ofInt]

/-- A JSON text that spells an integer of 64 bits is read as this integer. -/
theorem Json.ofText?_toString {value : Int} (fits : Number.FitsWord value) :
    Json.ofText? (toString value) = some (.integer value) := by
  have read := Json.ofText?_render (.integer value) trivial
  have text : (Json.integer value).render = toString value := String.ofList_toList
  unfold Json.ofText?
  rw [← text, read, Json.document, WrittenNumber.numeral?_ofInt fits.1 fits.2]
  rfl

/-! ### Integers that are compared -/

open Number

variable {first second : Int}

/-- Beside the text of an integer a value that was an integer is equal to it if the same is left of
both. -/
theorem Operator.looselyEqual_ofInt (first second : Int) :
    Operator.looselyEqual (.number (.ofInt second)) (.text (toString first)) =
      (ofInt second).same (ofInt first) := by
  have literal := Value.asNumber?_toString first
  unfold Operator.looselyEqual
  dsimp only
  rw [literal]

/-- An integer at a path of the arguments is compared with another one: by conditions whose property
has the value at the path and whose literal is the other one's text, and by a demand that the other
one is at the path. -/
structure EventArgs.ComparesInteger (args : EventArgs) (path : String) (other : Int)
    (answer : Bool) : Prop where
  eq : Condition.Gives "eq" (toString other) (args.value path) answer
  ne : Condition.Gives "ne" (toString other) (args.value path) (!answer)
  demand : ∀ (World : Type) (ruleSet : CompiledRuleSet World) (room : Nat),
    (Document.object [(some path, .number (some (.integer other)))]).asKwargs? room =
      some ruleSet.signalKwargs → ruleSet.accepts args = answer

theorem EventArgs.comparesInteger {args : EventArgs} {path : String}
    (found : args.field? path = some (.integer second)) :
    args.ComparesInteger path first ((ofInt second).same (ofInt first)) := by
  have value : args.value path = .number (ofInt second) := by
    unfold EventArgs.value
    rw [found]
    rfl
  have equal := Operator.looselyEqual_ofInt first second
  refine ⟨?_, ?_, fun World ruleSet room demanded => ?_⟩
  · rw [value]
    exact Condition.gives_of_holds .equality
      (OperatorRegistry.resolve_default (by simp [Operator.defaults, Operator.equality]) rfl)
      (by decide) (congrArg Except.ok equal)
  · rw [value]
    exact Condition.gives_of_holds .inequality
      (OperatorRegistry.resolve_default (by simp [Operator.defaults, Operator.inequality]) rfl)
      (by decide) (congrArg (fun answer => Except.ok !answer) equal)
  · have kwargs : ruleSet.signalKwargs = [(path, .number (ofInt first))] := by
      obtain ⟨fields, isJson, kwargs⟩ := Document.asKwargs?_eq_some_iff.mp demanded
      cases room with
      | zero => cases isJson
      | succ room =>
        obtain rfl := Json.map.inj (Option.some.inj isJson)
        exact kwargs
    unfold CompiledRuleSet.accepts
    rw [kwargs, List.all_cons, List.all_nil, Bool.and_true]
    show (args.value path).same (.number (ofInt first)) = _
    rw [value]
    rfl

/-- An argument that is an integer of 64 bits is compared with another one by what doubles keep of
the two. So each is found to be equal to itself, and two that are found to be equal are not far
apart; an integer of at most 53 significant bits is found to be different from all others of this
kind, and one below `2 ^ 53` from all others. -/
theorem EventArgs.compares_kept_integers {args : EventArgs} {path : String}
    (firstFits : FitsWord first) (secondFits : FitsWord second)
    (found : args.field? path = some (.integer second)) :
    Json.ofText? (toString first) = some (.integer first) ∧
    Json.ofText? (toString second) = some (.integer second) ∧
    ∃ answer : Bool, args.ComparesInteger path first answer ∧
      (answer = true ↔ kept second = kept first) ∧
      (second = first → answer = true) ∧
      (answer = true → (second - first).natAbs ≤ 2 ^ 11) ∧
      (Exact second → Exact first → (answer = true ↔ second = first)) ∧
      (second.natAbs < 2 ^ 53 ∨ first.natAbs < 2 ^ 53 → (answer = true ↔ second = first)) := by
  have same := same_ofInt_iff secondFits firstFits
  refine ⟨Json.ofText?_toString firstFits, Json.ofText?_toString secondFits, _,
    comparesInteger found, same, fun equal => same.mpr (congrArg kept equal), fun holds => ?_,
    fun secondExact firstExact => ?_, fun small => same.trans ?_⟩
  · -- Both are half a step at most from what is left of them.
    have together := same.mp holds
    have secondNear := secondFits.kept_near
    have firstNear := firstFits.kept_near
    omega
  · rw [same, secondExact.kept_eq, firstExact.kept_eq]
  · rcases small with secondSmall | firstSmall
    · exact kept_eq_iff_of_small secondSmall
    · rw [eq_comm, kept_eq_iff_of_small firstSmall, eq_comm]

/-- An event of the sales that tells the spot. -/
def EventArgs.ofSpot (spot : Int) : EventArgs :=
  ⟨.map [("instance", .map [("spot", .map [("id", .integer spot)])])]⟩

/-- Two neighbours of 54 bits that end in a zero are told apart. -/
theorem EventArgs.compares_kept_integers_even :
    (ofSpot 9007199254740994).ComparesInteger "instance.spot.id" 9007199254740992 false := by
  have exact {value : Int} (significand : Nat) (small : significand ≤ 2 ^ 53)
      (twice : value.natAbs = significand * 2 ^ 1) : Exact value := ⟨significand, 1, small, twice⟩
  have firstFits : FitsWord 9007199254740992 := by decide
  have secondFits : FitsWord 9007199254740994 := by decide
  have found : (ofSpot 9007199254740994).field? "instance.spot.id" =
    some (.integer 9007199254740994) := rfl
  obtain ⟨-, -, answer, compares, -, -, -, told, -⟩ :=
    compares_kept_integers firstFits secondFits found
  have apart := told (exact 4503599627370497 (by decide) (by decide))
    (exact 4503599627370496 (by decide) (by decide))
  obtain rfl : answer = false := by
    refine Bool.eq_false_iff.mpr fun holds => ?_
    exact absurd (apart.mp holds) (by decide)
  exact compares

/-- A condition on the spot. -/
def Condition.onSpot (operator literal : String) : Condition :=
  ⟨"spot", "get_spot_id", [], operator, some literal⟩

/-- Two other neighbours are taken for each other: a condition on the spot that compares with one of
them holds where the spot is the other, and a demand for the one is met by the other. -/
theorem EventArgs.takes_neighbours_for_each_other :
    (9007199254740993 : Int) ≠ 9007199254740992 ∧
    FitsWord 9007199254740993 ∧ FitsWord 9007199254740992 ∧
    (ofSpot 9007199254740993).field? "instance.spot.id" = some (.integer 9007199254740993) ∧
    (ofSpot 9007199254740993).ComparesInteger "instance.spot.id" 9007199254740992 true ∧
    ∃ transition compiled, Sales.transition? (ofSpot 9007199254740993) = some transition ∧
      (Condition.onSpot "eq" (toString (9007199254740992 : Int))).compile .defaults Sales.catalog
        {} = .ok compiled ∧
      ∀ place (before : Sales.Outbox),
        (compiled.evaluate (Sales.variablesTable.instanceOf transition) place).perform before =
          (.ok true, before) := by
  have same : (ofInt 9007199254740993).same (ofInt 9007199254740992) = true :=
    (same_ofInt_iff (by decide) (by decide)).mpr (by decide +kernel)
  have found : (ofSpot 9007199254740993).field? "instance.spot.id" =
    some (.integer 9007199254740993) := rfl
  have compares : (ofSpot 9007199254740993).ComparesInteger "instance.spot.id" 9007199254740992 _ :=
    comparesInteger found
  rw [same] at compares
  have accepts : ((Condition.onSpot "eq" (toString (9007199254740992 : Int))).compile .defaults
      Sales.catalog {}).isOk = true := by
    decide +kernel
  obtain ⟨compiled, accepted⟩ := exists_of_isOk accepts
  have described : Sales.transition? (ofSpot 9007199254740993) = some _ :=
    Sales.transition?_of_field? rfl
  refine ⟨by decide, by decide, by decide, rfl, compares, _, compiled, described, accepted,
    fun place before => ?_⟩
  refine compares.eq _ _ _ _ rfl rfl accepted _ _ _ _ _ ?_
  obtain ⟨_, _, _, _, _, _, _, rfl⟩ := Condition.compile_eq_ok_iff.mp accepted
  obtain ⟨-, -, properties⟩ := Sales.readsInside described
  obtain ⟨path, atPath, read⟩ := properties "get_spot_id" ⟨"get_spot_id", some ["eq", "ne"]⟩ rfl
  obtain rfl := Option.some.inj atPath
  exact read [] before

end Rulebook
