/-
This file says that equality and the order agree on what conditions compare with. The right side of
a condition is a literal, which is a text or null. The order and equality read it in two ways of
their own: the order looks at the kinds of both sides, equality converts the right side to the kind
of the left one. Null has no order. A text beside a number is read as a number by both, and where
this is a NaN nothing is equal and nothing is less; a text beside a text is taken as it stands by
both.

With a number on the right the two do not agree: equality then shows the number as a text, and the
order reads the left side as a number.
-/
import Rulebook.Proofs.Order
import Rulebook.Proofs.Record

namespace Rulebook

/-! ### Literals -/

/-- A literal is a text or null. -/
def Value.IsLiteral (value : Value) : Prop :=
  value = .null ∨ ∃ characters, value = .text characters

theorem Condition.isLiteral_literal (condition : Condition) : condition.literal.IsLiteral := by
  unfold literal
  cases condition.value with
  | none => exact .inl rfl
  | some characters => exact .inr ⟨characters, rfl⟩

/-- What a compiled condition compares with is a literal. -/
theorem Condition.isLiteral_of_compile {condition : Condition} {operators : OperatorRegistry}
    {catalog : Catalog} {location : Location} {compiled : CompiledCondition}
    (accepted : condition.compile operators catalog location = .ok compiled) :
    compiled.value.IsLiteral := by
  obtain ⟨_, _, _, _, _, _, _, rfl⟩ := Condition.compile_eq_ok_iff.mp accepted
  exact condition.isLiteral_literal

/-- The conditions with an identifier of a default operator and a literal give an answer where their
property has a value, and do no more than read it. -/
def Condition.Gives (identifier literal : String) (value : Value) (answer : Bool) : Prop :=
  ∀ (condition : Condition) (catalog : Catalog) (location : Location)
    (compiled : CompiledCondition),
    condition.comparisonOperator = identifier → condition.value = some literal →
    condition.compile .defaults catalog location = .ok compiled →
    ∀ (World : Type) (vars : VariablesInstance World) (place : Location) (before after : World),
      (vars.get compiled.property compiled.kwargs).perform before = (.ok value, after) →
      (compiled.evaluate vars place).perform before = (.ok answer, after)

/-- A condition gives the answer of its operator. -/
theorem Condition.gives_of_holds (operator : Operator) {literal : String} {value : Value}
    {answer : Bool} (resolved : OperatorRegistry.defaults.resolve operator.id = .ok operator)
    (noPattern : operator.id ≠ Operator.matchesId)
    (holds : operator.holds value (.text literal) = .ok answer) :
    Condition.Gives operator.id literal value answer := by
  intro condition catalog location compiled isOperator isLiteral accepted World vars place before
    after read
  obtain ⟨property, found, bound, -, isFound, -, bind, rfl⟩ :=
    Condition.compile_eq_ok_iff.mp accepted
  rw [OperatorRegistry.resolve, ← isOperator, isFound] at resolved
  obtain rfl := Except.ok.inj resolved
  rw [Operator.bind_eq_ok_iff, if_neg noPattern] at bind
  have compares : condition.literal = .text literal := by
    unfold Condition.literal
    rw [isLiteral]
  refine CompiledCondition.evaluate_eq_ok_iff.mpr ⟨value, read, ?_⟩
  rw [bind, compares]
  exact holds

/-! ### Equality beside the order -/

namespace Operator

/-- The operator on equality that is registered by default. -/
def equality : Operator := ⟨"eq", fun left right => .ok (looselyEqual left right)⟩

/-- The operator on inequality that is registered by default. -/
def inequality : Operator := ⟨"ne", fun left right => .ok (!looselyEqual left right)⟩

variable {left right : Value} {order : Option Ordering}

/-- A value that has an order beside a text is equal to it just if it is neither less nor greater.
-/
theorem looselyEqual_text_of_compared {characters : String}
    (compared : Compared left (.text characters) order) :
    looselyEqual left (.text characters) = (order == some .eq) := by
  cases compared with
  | asNumbers number leftNumber rightNumber =>
    -- The text is no number, so the left side is.
    cases left with
    | number first =>
      obtain rfl := Option.some.inj leftNumber
      unfold looselyEqual
      dsimp only
      rw [rightNumber]
      rfl
    | null | bool | text | list | map => exact number.elim nofun nofun
  | asTexts first second =>
    show (first == characters) = (some (compare first characters) == some .eq)
    rw [Option.some_beq_some, Bool.eq_iff_iff, beq_iff_eq, beq_iff_eq, Std.compare_eq_iff_eq]

/-- A literal that has an order beside a value is a text. -/
theorem exists_text_of_compared (literal : right.IsLiteral) (compared : Compared left right order) :
    ∃ characters, right = .text characters := by
  obtain rfl | isText := literal
  · cases compared with
    | asNumbers number leftNumber rightNumber => exact nomatch rightNumber
  · exact isText

/-- Equality and inequality agree with the order of two values. -/
structure EqualityAgrees (eq ne lt le ge gt : Operator) (left right : Value) : Prop where
  /-- Two values are equal if neither is greater. -/
  eq_iff : eq.HoldsOf left right ↔ le.HoldsOf left right ∧ ge.HoldsOf left right
  /-- Inequality answers the opposite of equality. -/
  ne_negates : ∃ answer, eq.holds left right = .ok answer ∧ ne.holds left right = .ok (!answer)
  /-- One is less than the other if it is not greater and they differ. -/
  lt_iff : lt.HoldsOf left right ↔ le.HoldsOf left right ∧ ne.HoldsOf left right
  /-- One is greater than the other if it is not less and they differ. -/
  gt_iff : gt.HoldsOf left right ↔ ge.HoldsOf left right ∧ ne.HoldsOf left right

theorem equalityAgrees (literal : right.IsLiteral) (compared : Compared left right order) :
    EqualityAgrees equality inequality (ordering "lt" (· == .lt)) (ordering "le" (· != .gt))
      (ordering "ge" (· != .lt)) (ordering "gt" (· == .gt)) left right := by
  obtain ⟨characters, rfl⟩ := exists_text_of_compared literal compared
  have equal : equality.holds left (.text characters) = .ok (order == some .eq) :=
    congrArg Except.ok (looselyEqual_text_of_compared compared)
  have different : inequality.holds left (.text characters) = .ok (!(order == some .eq)) :=
    congrArg (fun answer => Except.ok !answer) (looselyEqual_text_of_compared compared)
  refine ⟨?_, ⟨_, equal, different⟩, ?_, ?_⟩
  all_goals
    simp only [holdsOf_ordering_iff compared]
    simp only [HoldsOf, equal, different, Except.ok.injEq]
    rcases order with _ | _ | _ | _ <;> decide

end Operator

namespace OperatorRegistry

/-- Whatever a compiled condition compares with is a literal, and on literals the default operators
on equality agree with those on the order, wherever a value has an order beside the literal. -/
theorem equality_agrees_with_order : ∃ eq ne lt le ge gt,
    OperatorRegistry.defaults.resolve "eq" = .ok eq ∧
    OperatorRegistry.defaults.resolve "ne" = .ok ne ∧
    OperatorRegistry.defaults.resolve "lt" = .ok lt ∧
    OperatorRegistry.defaults.resolve "le" = .ok le ∧
    OperatorRegistry.defaults.resolve "ge" = .ok ge ∧
    OperatorRegistry.defaults.resolve "gt" = .ok gt ∧
    (∀ (condition : Condition) (operators : OperatorRegistry) (catalog : Catalog)
      (location : Location) (compiled : CompiledCondition),
      condition.compile operators catalog location = .ok compiled → compiled.value.IsLiteral) ∧
    ∀ left right, right.IsLiteral → lt.Takes left right →
      Operator.EqualityAgrees eq ne lt le ge gt left right := by
  refine ⟨.equality, .inequality, .ordering "lt" (· == .lt), .ordering "le" (· != .gt),
    .ordering "ge" (· != .lt), .ordering "gt" (· == .gt), ?_, ?_, ?_, ?_, ?_, ?_,
    fun _ _ _ _ _ => Condition.isLiteral_of_compile, fun left right literal takes => ?_⟩
  case refine_7 =>
    obtain ⟨order, compared⟩ := Operator.takes_ordering_iff.mp takes
    exact Operator.equalityAgrees literal compared
  all_goals
    exact resolve_default (by simp [Operator.defaults, Operator.equality, Operator.inequality]) rfl

/-- A condition on a mail address compares with a literal, and beside the text of a positive zero
equality agrees with the order on the negative zero. -/
theorem equality_agrees_with_order_zero : ∃ eq ne lt le ge gt,
    OperatorRegistry.defaults.resolve "lt" = .ok lt ∧
    (∃ compiled, (Condition.onMail "eq").compile .defaults .ofMail {} = .ok compiled ∧
      compiled.value.IsLiteral) ∧
    lt.Takes (.number (.zero true)) (.text "+0") ∧
    Operator.EqualityAgrees eq ne lt le ge gt (.number (.zero true)) (.text "+0") := by
  obtain ⟨eq, ne, lt, le, ge, gt, -, -, isLt, -, -, -, literals, agrees⟩ :=
    equality_agrees_with_order
  have spelled : (Value.text "+0").asNumber? = some (.zero false) := by decide +kernel
  have takes : (Operator.ordering "lt" (· == .lt)).Takes (.number (.zero true)) (.text "+0") :=
    Operator.takes_ordering_iff.mpr ⟨_, .asNumbers (.inl rfl) rfl spelled⟩
  have isOrdering : OperatorRegistry.defaults.resolve "lt" =
      .ok (.ordering "lt" (· == .lt)) := resolve_default (by simp [Operator.defaults]) rfl
  obtain rfl := Except.ok.inj (isLt.symm.trans isOrdering)
  have accepts : ((Condition.onMail "eq").compile .defaults .ofMail {}).isOk = true := by
    decide +kernel
  obtain ⟨compiled, accepted⟩ := exists_of_isOk accepts
  exact ⟨eq, ne, _, le, ge, gt, isLt, ⟨compiled, accepted, literals _ _ _ _ _ accepted⟩, takes,
    agrees _ _ (.inr ⟨"+0", rfl⟩) takes⟩

-- The text and the number one in the other order: neither is less, and they are not equal.
example : Operator.order? (.text "1.0") (.number (.ofNat 1)) = .ok (some .eq) ∧
    Operator.looselyEqual (.text "1.0") (.number (.ofNat 1)) = false := by
  decide +kernel

end OperatorRegistry

end Rulebook
