/-
This file says how the two equalities of values behave. Strict equality compares kinds and contents
all the way down. Doubles are its leaves, and a NaN is equal to nothing, so it is not reflexive: a
value is equal to itself if no number in it is a NaN, at any depth. Apart from this it is an
equality, symmetric and transitive.

Loose equality converts the right side to the kind of the left one. What is equal strictly needs no
conversion and is equal loosely too, and where there is nothing to convert to, for null, lists and
maps on the left, the two are one.

Doubles are compared by their places on the extended line. A NaN has no place there, and the two
zeros have the same.
-/
import Rulebook.Proofs.Literals
import Rulebook.Proofs.Restored

namespace Rulebook

/-! ### Places of doubles -/

namespace Number

/-- Where a number stands: at an infinity, or at so many ticks. A NaN stands nowhere. -/
def place? : Number → Option (Bool ⊕ Int)
  | .nan => none
  | .infinite negative => some (.inl negative)
  | .finite negative ticks _ => some (.inr (signedTicks negative ticks))

/-- Two numbers are the same if they stand at the same place. -/
theorem same_iff {left right : Number} :
    left.same right = true ↔ ∃ place, left.place? = some place ∧ right.place? = some place := by
  unfold same
  rw [beq_iff_eq]
  cases left with
  | nan => simp [compare?, place?]
  | infinite negative =>
    cases right with
    | nan => simp [compare?, place?]
    | infinite other => cases negative <;> cases other <;> simp [compare?, place?]
    | finite other ticks representable => cases negative <;> simp [compare?, place?]
  | finite negative ticks representable =>
    cases right with
    | nan => simp [compare?, place?]
    | infinite other => cases other <;> simp [compare?, place?]
    | finite other otherTicks otherRepresentable =>
      simp only [compare?, place?, Option.some.injEq, Std.compare_eq_iff_eq, exists_eq_left',
        Sum.inr.injEq]
      exact eq_comm

theorem same_comm (left right : Number) : left.same right = right.same left := by
  rw [Bool.eq_iff_iff, same_iff, same_iff]
  exact exists_congr fun place => and_comm

theorem same_trans {first second third : Number} (front : first.same second = true)
    (back : second.same third = true) : first.same third = true := by
  obtain ⟨place, firstPlace, secondPlace⟩ := same_iff.mp front
  obtain ⟨other, samePlace, thirdPlace⟩ := same_iff.mp back
  obtain rfl := Option.some.inj (secondPlace.symm.trans samePlace)
  exact same_iff.mpr ⟨place, firstPlace, thirdPlace⟩

theorem same_self_iff {value : Number} : value.same value = true ↔ value ≠ .nan := by
  constructor
  · rintro same rfl
    exact nomatch same
  · exact same_self

end Number

/-! ### Strict equality -/

namespace Value

mutual

/-- Strict equality does not depend on the sides. -/
theorem same_comm : ∀ left right : Value, same left right = same right left
  | .null, right => by cases right <;> rfl
  | .bool left, right => by
    cases right with
    | bool right => exact BEq.comm
    | _ => rfl
  | .number left, right => by
    cases right with
    | number right => exact Number.same_comm left right
    | _ => rfl
  | .text left, right => by
    cases right with
    | text right => exact BEq.comm
    | _ => rfl
  | .list lefts, right => by
    cases right with
    | list rights => exact sameItems_comm lefts rights
    | _ => rfl
  | .map lefts, right => by
    cases right with
    | map rights => exact sameFields_comm lefts rights
    | _ => rfl

/-- Nor does it for items. -/
theorem sameItems_comm : ∀ lefts rights : List Value,
    sameItems lefts rights = sameItems rights lefts
  | [], rights => by cases rights <;> rfl
  | left :: lefts, [] => rfl
  | left :: lefts, right :: rights => by
    unfold sameItems
    rw [same_comm left right, sameItems_comm lefts rights]

/-- Nor does it for entries. -/
theorem sameFields_comm : ∀ lefts rights : List (String × Value),
    sameFields lefts rights = sameFields rights lefts
  | [], rights => by cases rights <;> rfl
  | (leftName, left) :: lefts, [] => rfl
  | (leftName, left) :: lefts, (rightName, right) :: rights => by
    unfold sameFields
    rw [same_comm left right, sameFields_comm lefts rights, BEq.comm (a := leftName)]

end

mutual

/-- What is equal to the same value is equal. -/
theorem same_trans : ∀ {first second third : Value}, same first second = true →
    same second third = true → same first third = true
  | .null, second, third, front, back => by
    cases second with
    | null => exact back
    | _ => exact nomatch front
  | .bool first, second, third, front, back => by
    cases second with
    | bool second => exact eq_of_beq front ▸ back
    | _ => exact nomatch front
  | .number first, second, third, front, back => by
    cases second with
    | number second =>
      cases third with
      | number third => exact Number.same_trans front back
      | _ => exact nomatch back
    | _ => exact nomatch front
  | .text first, second, third, front, back => by
    cases second with
    | text second => exact eq_of_beq front ▸ back
    | _ => exact nomatch front
  | .list firsts, second, third, front, back => by
    cases second with
    | list seconds =>
      cases third with
      | list thirds =>
        show sameItems firsts thirds = true
        exact sameItems_trans front back
      | _ => exact nomatch back
    | _ => exact nomatch front
  | .map firsts, second, third, front, back => by
    cases second with
    | map seconds =>
      cases third with
      | map thirds =>
        show sameFields firsts thirds = true
        exact sameFields_trans front back
      | _ => exact nomatch back
    | _ => exact nomatch front

/-- So are items. -/
theorem sameItems_trans : ∀ {firsts seconds thirds : List Value},
    sameItems firsts seconds = true → sameItems seconds thirds = true →
      sameItems firsts thirds = true
  | [], seconds, thirds, front, back => by
    cases seconds with
    | nil => exact back
    | cons => exact nomatch front
  | first :: firsts, [], thirds, front, _ => nomatch front
  | first :: firsts, second :: seconds, [], _, back => nomatch back
  | first :: firsts, second :: seconds, third :: thirds, front, back => by
    unfold sameItems at front back ⊢
    rw [Bool.and_eq_true] at front back ⊢
    exact ⟨same_trans front.1 back.1, sameItems_trans front.2 back.2⟩

/-- So are entries. -/
theorem sameFields_trans : ∀ {firsts seconds thirds : List (String × Value)},
    sameFields firsts seconds = true → sameFields seconds thirds = true →
      sameFields firsts thirds = true
  | [], seconds, thirds, front, back => by
    cases seconds with
    | nil => exact back
    | cons => exact nomatch front
  | (firstName, first) :: firsts, [], thirds, front, _ => nomatch front
  | (firstName, first) :: firsts, (secondName, second) :: seconds, [], _, back => nomatch back
  | (firstName, first) :: firsts, (secondName, second) :: seconds, (thirdName, third) :: thirds,
      front, back => by
    unfold sameFields at front back ⊢
    rw [Bool.and_eq_true, Bool.and_eq_true, beq_iff_eq] at front back ⊢
    exact ⟨⟨front.1.1.trans back.1.1, same_trans front.1.2 back.1.2⟩,
      sameFields_trans front.2 back.2⟩

end

mutual

/-- A value is equal to itself if no number in it is a NaN. -/
theorem same_self_iff : ∀ value : Value,
    same value value = true ↔ value.EveryNumber (· ≠ .nan)
  | .null => iff_of_true rfl trivial
  | .bool _ => iff_of_true (beq_self_eq_true _) trivial
  | .number _ => Number.same_self_iff
  | .text _ => iff_of_true (beq_self_eq_true _) trivial
  | .list items => sameItems_self_iff items
  | .map fields => sameFields_self_iff fields

/-- So are items. -/
theorem sameItems_self_iff : ∀ items : List Value,
    sameItems items items = true ↔ EveryItemNumber (· ≠ .nan) items
  | [] => iff_of_true rfl trivial
  | item :: rest => by
    unfold sameItems EveryItemNumber
    rw [Bool.and_eq_true, same_self_iff item, sameItems_self_iff rest]

/-- So are entries. -/
theorem sameFields_self_iff : ∀ fields : List (String × Value),
    sameFields fields fields = true ↔ EveryFieldNumber (· ≠ .nan) fields
  | [] => iff_of_true rfl trivial
  | (name, value) :: rest => by
    unfold sameFields EveryFieldNumber
    rw [beq_self_eq_true, Bool.true_and, Bool.and_eq_true, same_self_iff value,
      sameFields_self_iff rest]

end

theorem everyItemNumber_iff {holds : Number → Prop} {items : List Value} :
    EveryItemNumber holds items ↔ ∀ item ∈ items, item.EveryNumber holds := by
  induction items with
  | nil => exact iff_of_true trivial (List.forall_mem_nil _)
  | cons item rest inductionHypothesis =>
    rw [EveryItemNumber, List.forall_mem_cons, inductionHypothesis]

/-- Null, a list or a map: the kinds of values that nothing is converted to. -/
def IsPlain : Value → Prop
  | .null | .list _ | .map _ => True
  | .bool _ | .number _ | .text _ => False

end Value

/-! ### Loose equality beside it -/

namespace Operator

/-- What is equal strictly is equal loosely: it has the kind that it would be converted to. -/
theorem looselyEqual_of_same {left right : Value} (same : left.same right = true) :
    looselyEqual left right = true := by
  cases left with
  | null => cases right <;> first | rfl | exact nomatch same
  | bool left =>
    cases right with
    | bool right => exact beq_iff_eq.mpr (congrArg some (eq_of_beq same).symm)
    | _ => exact nomatch same
  | number left =>
    cases right with
    | number right => exact same
    | _ => exact nomatch same
  | text left =>
    cases right with
    | text right => exact same
    | _ => exact nomatch same
  | list lefts =>
    cases right with
    | list rights => exact same
    | _ => exact nomatch same
  | map lefts =>
    cases right with
    | map rights => exact same
    | _ => exact nomatch same

/-- With nothing to convert to the two equalities are one. -/
theorem looselyEqual_of_isPlain {left : Value} (plain : left.IsPlain) (right : Value) :
    looselyEqual left right = left.same right := by
  cases left with
  | bool | number | text => exact absurd plain not_false
  | null | list | map => cases right <;> rfl

theorem looselyEqual_self_iff (value : Value) :
    looselyEqual value value = true ↔ value.EveryNumber (· ≠ .nan) := by
  rw [← value.same_self_iff]
  refine ⟨fun equal => ?_, looselyEqual_of_same⟩
  cases value with
  | null => rfl
  | bool | text => exact beq_self_eq_true _
  | number | list | map => exact equal

/-- The operator on strict equality that is registered by default. -/
def identity : Operator := ⟨"is", fun left right => .ok (left.same right)⟩

/-- The operator that negates it. -/
def difference : Operator := ⟨"isNot", fun left right => .ok (!left.same right)⟩

/-- The operator on members and parts that is registered by default. -/
def membership : Operator := ⟨"contains", containing⟩

/-- One operator answers the opposite of another, and both take all values. -/
def Negates (negated operator : Operator) : Prop :=
  ∀ left right, ∃ answer, operator.holds left right = .ok answer ∧
    negated.holds left right = .ok (!answer)

/-- Operators fit together as strict and loose equality, their negations and membership do. -/
structure EqualitiesFit (is isNot eq ne contains : Operator) : Prop where
  is_symm : ∀ {left right}, is.HoldsOf left right → is.HoldsOf right left
  is_trans : ∀ {first second third},
    is.HoldsOf first second → is.HoldsOf second third → is.HoldsOf first third
  is_self_iff : ∀ value : Value, is.HoldsOf value value ↔ value.EveryNumber (· ≠ .nan)
  eq_self_iff : ∀ value : Value, eq.HoldsOf value value ↔ value.EveryNumber (· ≠ .nan)
  eq_of_is : ∀ {left right}, is.HoldsOf left right → eq.HoldsOf left right
  eq_iff_is : ∀ {left : Value}, left.IsPlain →
    ∀ right, eq.HoldsOf left right ↔ is.HoldsOf left right
  isNot_negates : isNot.Negates is
  ne_negates : ne.Negates eq
  /-- A list without a NaN contains its items. -/
  contains_item : ∀ {items : List Value}, (Value.list items).EveryNumber (· ≠ .nan) →
    ∀ item ∈ items, contains.HoldsOf (.list items) item

theorem identity_holdsOf_iff {left right : Value} :
    identity.HoldsOf left right ↔ left.same right = true := by
  unfold HoldsOf identity
  rw [Except.ok.injEq]

theorem equality_holdsOf_iff {left right : Value} :
    equality.HoldsOf left right ↔ looselyEqual left right = true := by
  unfold HoldsOf equality
  rw [Except.ok.injEq]

theorem equalitiesFit : EqualitiesFit identity difference equality inequality membership where
  is_symm := by
    intro left right same
    rw [identity_holdsOf_iff] at same ⊢
    exact (Value.same_comm right left).trans same
  is_trans := by
    intro first second third front back
    rw [identity_holdsOf_iff] at front back ⊢
    exact Value.same_trans front back
  is_self_iff value := identity_holdsOf_iff.trans value.same_self_iff
  eq_self_iff value := equality_holdsOf_iff.trans (looselyEqual_self_iff value)
  eq_of_is same :=
    equality_holdsOf_iff.mpr (looselyEqual_of_same (identity_holdsOf_iff.mp same))
  eq_iff_is plain right := by
    rw [equality_holdsOf_iff, identity_holdsOf_iff, looselyEqual_of_isPlain plain]
  isNot_negates _ _ := ⟨_, rfl, rfl⟩
  ne_negates _ _ := ⟨_, rfl, rfl⟩
  contains_item := by
    intro items numbers item member
    have same := (looselyEqual_self_iff item).mpr (Value.everyItemNumber_iff.mp numbers item member)
    exact congrArg Except.ok (List.any_eq_true.mpr ⟨item, member, same⟩)

end Operator

namespace OperatorRegistry

/-- Of the operators that are registered by default, strict equality is symmetric and transitive,
both equalities hold of a value and itself just if it is free of NaN, strict equality implies the
loose one, and they are one where nothing is converted; a list that is free of NaN contains its
items. -/
theorem equalities_fit_together : ∃ is isNot eq ne contains,
    OperatorRegistry.defaults.resolve "is" = .ok is ∧
    OperatorRegistry.defaults.resolve "isNot" = .ok isNot ∧
    OperatorRegistry.defaults.resolve "eq" = .ok eq ∧
    OperatorRegistry.defaults.resolve "ne" = .ok ne ∧
    OperatorRegistry.defaults.resolve "contains" = .ok contains ∧
    Operator.EqualitiesFit is isNot eq ne contains := by
  refine ⟨_, _, _, _, _, ?_, ?_, ?_, ?_, ?_, Operator.equalitiesFit⟩
  all_goals
    exact resolve_default (by simp [Operator.defaults, Operator.identity, Operator.difference,
      Operator.equality, Operator.inequality, Operator.membership]) rfl

-- The two zeros are equal inside a list, and a NaN inside a map makes it differ from itself.
example : Value.same (.list [.number (.zero true)]) (.list [.number (.zero false)]) = true ∧
    Value.same (.map [("a", .list [.number .nan])]) (.map [("a", .list [.number .nan])]) = false := by
  decide +kernel

end OperatorRegistry

end Rulebook
