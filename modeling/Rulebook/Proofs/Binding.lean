/-
This file compares the operator of a compiled condition with the one that the registry holds under the
identifier which the condition stores. A registry is made from the default operators by registering
further ones, in place of others or not, and by adding identifiers for those it has.

The compiler takes the operator as it finds it, unless its canonical identifier is that of the operator
on patterns. Then it puts in its place the default operator on the pattern that the condition compares
with, whatever was registered. On the text of the condition this compares as the default operator on
patterns does, so it makes no difference as long as that one is still registered, under whatever
identifiers; but an operator that was registered in its place is never asked.
-/
import Rulebook.Proofs.Meaning

namespace Rulebook

/-! ### Registries that are extended -/

/-- What is done to a registry of operators. -/
inductive OperatorRegistry.Extension where
  | register (operator : Operator)
  | addAlias (id target : String)

namespace OperatorRegistry

/-- The registry after an extension. -/
def Extension.perform (registry : OperatorRegistry) : Extension → OperatorRegistry
  | .register operator => registry.register operator
  | .addAlias id target => registry.addAlias id target

/-- The registry after some extensions, the first of them first. -/
def extended (registry : OperatorRegistry) (extensions : List Extension) : OperatorRegistry :=
  extensions.foldl Extension.perform registry

/-- An operator that was registered last is found under its identifier. -/
theorem find?_extended_register (registry : OperatorRegistry) (earlier : List Extension)
    (operator : Operator) :
    (registry.extended (earlier ++ [.register operator])).find? operator.id = some operator := by
  unfold extended
  rw [List.foldl_append, List.foldl_cons, List.foldl_nil]
  exact Fields.find?_insert_self _ operator.id operator

/-- As long as nothing else is registered under the identifier of the operator on patterns, it stays
the one that reads a pattern when it compares. -/
theorem ReadsPatterns.extended {registry : OperatorRegistry} (reads : registry.ReadsPatterns)
    {extensions : List Extension} (honest : ∀ operator, .register operator ∈ extensions →
      operator.id = Operator.matchesId → operator.holds = Operator.matching) :
    (registry.extended extensions).ReadsPatterns := by
  refine List.foldlRecOn extensions _ reads fun reached stillReads extension member => ?_
  cases extension with
  | register operator => exact stillReads.insert operator.id (honest operator member)
  | addAlias id target => exact stillReads.addAlias id target

end OperatorRegistry

/-! ### Operators that are bound -/

namespace Operator

variable {operator bound : Operator} {literal : Value} {location : Location}

theorem bind_of_other (other : operator.id ≠ matchesId)
    (boundTo : operator.bind literal location = .ok bound) : bound = operator := by
  rw [Operator.bind_eq_ok_iff, if_neg other] at boundTo
  exact boundTo

/-- What is bound to a pattern compares with the text of the pattern as the default operator on
patterns does, whatever the operator was that it stands for. -/
theorem holds_of_bind_pattern (onPatterns : operator.id = matchesId)
    (boundTo : operator.bind literal location = .ok bound) (left : Value) :
    bound.holds left literal = matching left literal := by
  have boundDefault : Operator.bind ⟨matchesId, matching⟩ literal location = .ok bound := by
    rw [Operator.bind_eq_ok_iff, if_pos onPatterns] at boundTo
    rw [Operator.bind_eq_ok_iff, if_pos rfl]
    exact boundTo
  exact (holds_of_bind (fun _ => rfl) boundDefault).2 left

end Operator

/-- A compiled condition compares as the operator that its identifier finds in the registry, if that
one is not the operator on patterns or compares with the text of the condition as the default operator
on patterns does; and not otherwise. So it does if no other operator on patterns was registered. An
operator that was registered last and is no operator on patterns is the very one that is used. -/
theorem Condition.compile_agrees_iff {extensions : List OperatorRegistry.Extension}
    {catalog : Catalog} {location : Location} {condition : Condition}
    {compiled : CompiledCondition}
    (accepted : condition.compile (OperatorRegistry.defaults.extended extensions) catalog location =
      .ok compiled) :
    ∃ registered,
      (OperatorRegistry.defaults.extended extensions).find? condition.comparisonOperator =
        some registered ∧
      compiled.value = condition.literal ∧
      ((∀ left, compiled.operator.holds left compiled.value =
          registered.holds left compiled.value) ↔
        (registered.id = Operator.matchesId → ∀ left, registered.holds left compiled.value =
          Operator.matching left compiled.value)) ∧
      ((∀ operator, .register operator ∈ extensions → operator.id = Operator.matchesId →
          operator.holds = Operator.matching) →
        ∀ left, compiled.operator.holds left compiled.value =
          registered.holds left compiled.value) ∧
      (registered.id ≠ Operator.matchesId → compiled.operator = registered) ∧
      ∀ earlier operator, extensions = earlier ++ [.register operator] →
        condition.comparisonOperator = operator.id → registered = operator := by
  obtain ⟨property, registered, bound, -, found, -, boundTo, rfl⟩ :=
    Condition.compile_eq_ok_iff.mp accepted
  have agrees : (∀ left, bound.holds left condition.literal =
        registered.holds left condition.literal) ↔
      (registered.id = Operator.matchesId → ∀ left, registered.holds left condition.literal =
        Operator.matching left condition.literal) := by
    by_cases onPatterns : registered.id = Operator.matchesId
    · have asDefault := Operator.holds_of_bind_pattern onPatterns boundTo
      constructor
      · exact fun same _ left => (same left).symm.trans (asDefault left)
      · exact fun same left => (asDefault left).trans (same onPatterns left).symm
    · rw [Operator.bind_of_other onPatterns boundTo]
      exact iff_of_true (fun _ => rfl) fun same => absurd same onPatterns
  refine ⟨registered, found, rfl, agrees, fun honest => ?_,
    fun other => Operator.bind_of_other other boundTo, ?_⟩
  · have reads := OperatorRegistry.ReadsPatterns.defaults.extended honest
    exact agrees.mpr fun onPatterns left =>
      congrFun (congrFun (reads _ registered found onPatterns) left) condition.literal
  · rintro earlier operator rfl identifier
    rw [identifier, OperatorRegistry.find?_extended_register] at found
    exact (Option.some.inj found).symm

/-- What a provider of mail addresses offers. -/
def Catalog.ofMail : Catalog where
  properties := [("get_email", { name := "get_email" })]
  actions := []

/-- A condition on a mail address, which is to match a pattern. -/
def Condition.onMail (operator : String) : Condition where
  id := "condition"
  propertyMethod := "get_email"
  comparisonOperator := operator
  value := some "a"

/-- An operator that holds of everything, under the identifier of the one on patterns. -/
def Operator.always : Operator := ⟨matchesId, fun _ _ => .ok true⟩

theorem Condition.compile_agrees_iff_regex :
    let extensions : List OperatorRegistry.Extension :=
      [.register { Operator.always with id := "eq" }, .addAlias "regex" "matches"]
    ∃ compiled registered,
      (Condition.onMail "regex").compile (OperatorRegistry.defaults.extended extensions) .ofMail {} =
        .ok compiled ∧
      (OperatorRegistry.defaults.extended extensions).find? "regex" = some registered ∧
      ∀ left, compiled.operator.holds left compiled.value =
        registered.holds left compiled.value := by
  intro extensions
  have accepts : ((Condition.onMail "regex").compile
      (OperatorRegistry.defaults.extended extensions) .ofMail {}).isOk = true := by decide +kernel
  cases accepted : (Condition.onMail "regex").compile
      (OperatorRegistry.defaults.extended extensions) .ofMail {} with
  | error error =>
    rw [accepted] at accepts
    exact nomatch accepts
  | ok compiled =>
    obtain ⟨registered, found, -, -, agrees, -⟩ := compile_agrees_iff accepted
    refine ⟨compiled, registered, rfl, found, agrees fun operator member onPatterns => ?_⟩
    obtain rfl : operator = { Operator.always with id := "eq" } := by simpa [extensions] using member
    exact absurd onPatterns (by decide)

/-- An operator that was registered in place of the one on patterns holds of an address, and a
condition that names it does not. -/
theorem Condition.compile_differs_always :
    let operators := OperatorRegistry.defaults.extended [.register .always]
    ∃ compiled, (Condition.onMail "matches").compile operators .ofMail {} = .ok compiled ∧
      operators.find? "matches" = some .always ∧
      Operator.always.holds (.text "b") compiled.value = .ok true ∧
      compiled.operator.holds (.text "b") compiled.value = .ok false := by
  intro operators
  have ends : (match (Condition.onMail "matches").compile operators .ofMail {} with
      | .ok compiled => decide
          (compiled.operator.holds (.text "b") compiled.value = .ok false)
      | .error _ => false) = true := by decide +kernel
  have found : operators.find? "matches" = some .always :=
    OperatorRegistry.find?_extended_register .defaults [] .always
  cases accepted : (Condition.onMail "matches").compile operators .ofMail {} with
  | error error =>
    rw [accepted] at ends
    exact nomatch ends
  | ok compiled =>
    rw [accepted] at ends
    exact ⟨compiled, rfl, found, rfl, of_decide_eq_true ends⟩

end Rulebook
