/-
This file says that the four operators on the order of values fit together. What they go by treats its
sides differently: a number looks at the other side as a number, a text looks first at what kind the
other side is. Told for both sides at once it is simple. Two values have an order as numbers if one of
them is a number and the other is one or spells one, and as texts if both are texts; other values have
none. Exchanging the sides turns the order around.

Two doubles have no order if one of them is a NaN. Then none of the four operators holds; otherwise
exactly one of `lt`, `gt`, and `le` together with `ge` does.
-/
import Rulebook.Proofs.Choices
import Rulebook.Proofs.Namesakes

namespace Rulebook

/-! ### The order of doubles -/

namespace Number

/-- With the sides exchanged the order is turned around, and there is none where there was none. -/
theorem compare?_swap (left right : Number) :
    (left.compare? right).map Ordering.swap = right.compare? left := by
  cases left with
  | nan => cases right <;> rfl
  | infinite negative =>
    cases right with
    | nan => rfl
    | infinite other => exact congrArg some Std.OrientedOrd.eq_swap.symm
    | finite other ticks representable => cases negative <;> rfl
  | finite negative ticks representable =>
    cases right with
    | nan => rfl
    | infinite other => cases other <;> rfl
    | finite other otherTicks otherRepresentable =>
      exact congrArg some Std.OrientedOrd.eq_swap.symm

theorem compare?_eq_none_iff {left right : Number} :
    left.compare? right = none ↔ left = .nan ∨ right = .nan := by
  cases left <;> cases right <;> simp [compare?]

end Number

/-! ### The order of values -/

/-- Whether a value is a number, and not only spells one. -/
def Value.isNumber : Value → Bool
  | .number _ => true
  | _ => false

namespace Operator

/-- Two values have an order as numbers if one of them is a number and the other is one or spells one,
and as texts if both are texts. -/
inductive Compared : Value → Value → Option Ordering → Prop where
  | asNumbers {left right : Value} {first second : Number}
      (number : left.isNumber = true ∨ right.isNumber = true)
      (leftNumber : left.asNumber? = some first) (rightNumber : right.asNumber? = some second) :
      Compared left right (first.compare? second)
  | asTexts (first second : String) :
      Compared (.text first) (.text second) (some (compare first second))

/-- Two values are compared as numbers, and one of them is a NaN as a number. -/
def MeetsNan (left right : Value) : Prop :=
  (left.isNumber = true ∨ right.isNumber = true) ∧
    (left.asNumber? = some .nan ∨ right.asNumber? = some .nan)

variable {left right : Value} {order : Option Ordering}

theorem Compared.swap (compared : Compared left right order) :
    Compared right left (order.map Ordering.swap) := by
  cases compared with
  | asNumbers number leftNumber rightNumber =>
    rw [Number.compare?_swap]
    exact .asNumbers number.symm rightNumber leftNumber
  | asTexts first second =>
    rw [Option.map_some, ← Std.OrientedOrd.eq_swap]
    exact .asTexts second first

theorem Compared.eq_none_iff (compared : Compared left right order) :
    order = none ↔ MeetsNan left right := by
  cases compared with
  | asNumbers number leftNumber rightNumber =>
    rw [Number.compare?_eq_none_iff, MeetsNan, leftNumber, rightNumber, Option.some_inj,
      Option.some_inj]
    exact (and_iff_right number).symm
  | asTexts first second => exact iff_of_false nofun fun meets => meets.1.elim nofun nofun

theorem order?_number_eq_ok_iff {first : Number} :
    order? (.number first) right = .ok order ↔
      ∃ second, right.asNumber? = some second ∧ first.compare? second = order := by
  unfold order?
  dsimp only
  cases right.asNumber? <;> simp

theorem order?_text_number_eq_ok_iff {first : String} {second : Number} :
    order? (.text first) (.number second) = .ok order ↔
      ∃ number, (Value.text first).asNumber? = some number ∧ number.compare? second = order := by
  unfold order?
  dsimp only
  cases (Value.text first).asNumber? <;> simp

/-- What the operators go by is the order that is told for both sides at once. -/
theorem order?_eq_ok_iff : order? left right = .ok order ↔ Compared left right order := by
  constructor
  · intro ordered
    cases left with
    | number first =>
      obtain ⟨second, rightNumber, rfl⟩ := order?_number_eq_ok_iff.mp ordered
      exact .asNumbers (.inl rfl) rfl rightNumber
    | text first =>
      cases right with
      | number second =>
        obtain ⟨number, leftNumber, rfl⟩ := order?_text_number_eq_ok_iff.mp ordered
        exact .asNumbers (.inr rfl) leftNumber rfl
      | text second =>
        obtain rfl := Except.ok.inj ordered
        exact .asTexts first second
      | null | bool | list | map => exact nomatch ordered
    | null | bool | list | map => exact nomatch ordered
  · intro compared
    cases compared with
    | asTexts first second => rfl
    | asNumbers number leftNumber rightNumber =>
      cases left with
      | number first =>
        obtain rfl := Option.some.inj leftNumber
        exact order?_number_eq_ok_iff.mpr ⟨_, rightNumber, rfl⟩
      | text first =>
        -- A text does not make the comparison one of numbers, so the other side must be a number.
        cases right with
        | number second =>
          obtain rfl := Option.some.inj rightNumber
          exact order?_text_number_eq_ok_iff.mpr ⟨_, leftNumber, rfl⟩
        | null | bool | text | list | map => exact number.elim nofun nofun
      | null | bool | list | map => exact nomatch leftNumber

/-! ### What the operators answer -/

/-- An operator takes two values if it answers. -/
def Takes (operator : Operator) (left right : Value) : Prop :=
  ∃ answer, operator.holds left right = .ok answer

/-- An operator holds of two values if it answers so. -/
def HoldsOf (operator : Operator) (left right : Value) : Prop :=
  operator.holds left right = .ok true

variable {id : String} {wanted : Ordering → Bool}

theorem holds_ordering (id : String) (wanted : Ordering → Bool) (left right : Value) :
    (ordering id wanted).holds left right = (order? left right).map (·.any wanted) := by
  unfold ordering
  dsimp only
  rcases order? left right with mismatch | _ | order <;> rfl

theorem holds_ordering_of_compared (id : String) (wanted : Ordering → Bool)
    (compared : Compared left right order) :
    (ordering id wanted).holds left right = .ok (order.any wanted) := by
  rw [holds_ordering, order?_eq_ok_iff.mpr compared]
  rfl

/-- All operators on the order take the same values. -/
theorem takes_ordering_iff :
    (ordering id wanted).Takes left right ↔ ∃ order, Compared left right order := by
  unfold Takes
  rw [holds_ordering]
  simp only [← order?_eq_ok_iff]
  cases order? left right with
  | error mismatch => exact iff_of_false nofun nofun
  | ok order => exact iff_of_true ⟨_, rfl⟩ ⟨_, rfl⟩

theorem holdsOf_ordering_iff (compared : Compared left right order) :
    (ordering id wanted).HoldsOf left right ↔ order.any wanted = true := by
  unfold HoldsOf
  rw [holds_ordering_of_compared id wanted compared, Except.ok.injEq]

/-- Four operators fit together as `lt`, `le`, `ge` and `gt` do. -/
structure FitTogether (lt le ge gt : Operator) : Prop where
  /-- They take the same values, and tell the same mismatch of others. -/
  alike : ∀ left right, (∀ operator ∈ [lt, le, ge, gt], operator.Takes left right) ∨
    ∃ mismatch, ∀ operator ∈ [lt, le, ge, gt], operator.holds left right = .error mismatch
  /-- Whether they take two values does not depend on the sides. -/
  takes_swap : ∀ operator ∈ [lt, le, ge, gt], ∀ left right,
    operator.Takes left right ↔ operator.Takes right left
  /-- They answer for the one order as their opposites do for the other. -/
  mirrored : ∀ left right, lt.Takes left right →
    lt.holds left right = gt.holds right left ∧ le.holds left right = ge.holds right left
  /-- What is not greater is less or neither. -/
  le_iff : ∀ left right, lt.Takes left right →
    (le.HoldsOf left right ↔
      lt.HoldsOf left right ∨ (le.HoldsOf left right ∧ ge.HoldsOf left right))
  /-- One is less, or greater, or neither, and not two of these. -/
  exactly_one : ∀ left right, lt.Takes left right → ¬ MeetsNan left right →
    (lt.HoldsOf left right ∧ ¬ gt.HoldsOf left right ∧
      ¬ (le.HoldsOf left right ∧ ge.HoldsOf left right)) ∨
    (¬ lt.HoldsOf left right ∧ gt.HoldsOf left right ∧
      ¬ (le.HoldsOf left right ∧ ge.HoldsOf left right)) ∨
    (¬ lt.HoldsOf left right ∧ ¬ gt.HoldsOf left right ∧
      (le.HoldsOf left right ∧ ge.HoldsOf left right))
  /-- Nothing holds of a NaN. -/
  nan : ∀ left right, lt.Takes left right → MeetsNan left right →
    ∀ operator ∈ [lt, le, ge, gt], operator.holds left right = .ok false

/-- The four operators that ask for the order fit together: all they tell they tell by it. -/
theorem fitTogether_ordering : FitTogether (ordering "lt" (· == .lt)) (ordering "le" (· != .gt))
    (ordering "ge" (· != .lt)) (ordering "gt" (· == .gt)) := by
  have four {kind : Operator → Prop} (all : ∀ id wanted, kind (ordering id wanted)) :
      ∀ operator ∈ [ordering "lt" (· == .lt), ordering "le" (· != .gt),
        ordering "ge" (· != .lt), ordering "gt" (· == .gt)], kind operator := by
    simp [all]
  constructor
  case alike =>
    intro left right
    cases ordered : order? left right with
    | ok order =>
      exact .inl (four fun id wanted => takes_ordering_iff.mpr ⟨order, order?_eq_ok_iff.mp ordered⟩)
    | error mismatch =>
      refine .inr ⟨mismatch, four fun id wanted => ?_⟩
      rw [holds_ordering, ordered]
      rfl
  case takes_swap =>
    refine four fun id wanted left right => ?_
    rw [takes_ordering_iff, takes_ordering_iff]
    exact ⟨fun ⟨_, compared⟩ => ⟨_, compared.swap⟩, fun ⟨_, compared⟩ => ⟨_, compared.swap⟩⟩
  case mirrored =>
    intro left right takes
    obtain ⟨order, compared⟩ := takes_ordering_iff.mp takes
    rw [holds_ordering_of_compared _ _ compared, holds_ordering_of_compared _ _ compared,
      holds_ordering_of_compared _ _ compared.swap, holds_ordering_of_compared _ _ compared.swap]
    rcases order with _ | _ | _ | _ <;> exact ⟨rfl, rfl⟩
  case le_iff =>
    intro left right takes
    obtain ⟨order, compared⟩ := takes_ordering_iff.mp takes
    simp only [holdsOf_ordering_iff compared]
    rcases order with _ | _ | _ | _ <;> decide
  case exactly_one =>
    intro left right takes noNan
    obtain ⟨order, compared⟩ := takes_ordering_iff.mp takes
    rw [← compared.eq_none_iff] at noNan
    simp only [holdsOf_ordering_iff compared]
    rcases order with _ | _ | _ | _
    · exact absurd rfl noNan
    all_goals decide
  case nan =>
    intro left right takes nan
    obtain ⟨order, compared⟩ := takes_ordering_iff.mp takes
    obtain rfl := compared.eq_none_iff.mpr nan
    exact four fun id wanted => holds_ordering_of_compared id wanted compared

end Operator

/-! ### The operators that are registered by default -/

namespace OperatorRegistry

/-- A default operator is found under its own identifier. -/
theorem resolve_default {operator : Operator} {id : String}
    (isDefault : operator ∈ Operator.defaults) (named : operator.id = id) :
    OperatorRegistry.defaults.resolve id = .ok operator := by
  subst named
  obtain ⟨found, isFound, sameId⟩ :=
    exists_find?_of_mem_defaultIds (List.mem_map_of_mem isDefault)
  have same := Operator.eq_of_mem_defaults isDefault
    (FindsOnly.defaults (fun _ member => member) _ _ isFound) sameId.symm
  unfold resolve
  rw [isFound, same]

/-- The operators on the order that are registered by default fit together: they take the same values
on either side, mirror each other, and unless a NaN is compared exactly one of less, greater and
neither holds. -/
theorem defaults_fit_together : ∃ lt le ge gt,
    OperatorRegistry.defaults.resolve "lt" = .ok lt ∧
    OperatorRegistry.defaults.resolve "le" = .ok le ∧
    OperatorRegistry.defaults.resolve "ge" = .ok ge ∧
    OperatorRegistry.defaults.resolve "gt" = .ok gt ∧ Operator.FitTogether lt le ge gt := by
  refine ⟨_, _, _, _, ?_, ?_, ?_, ?_, Operator.fitTogether_ordering⟩
  all_goals exact resolve_default (by simp [Operator.defaults]) rfl

end OperatorRegistry

end Rulebook
