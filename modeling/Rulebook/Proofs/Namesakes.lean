/-
This file says when a canonical identifier tells which operator is meant. What a registry finds under
any identifier bears a canonical one, and allow-lists, errors and the binding of patterns go by that.

A further identifier keeps the operator that its target found when it was added; what is done to the
target afterwards does not concern it. So adding identifiers never gives one canonical identifier to
two operators. Registering does, and in one way only: the operator that is replaced stays where a
further identifier finds it, and there it still bears the canonical identifier of the new one.
-/
import Mathlib.Data.List.Induction
import Mathlib.Data.List.Nodup
import Rulebook.Proofs.Binding
import Rulebook.Proofs.Respelling

namespace Rulebook

/-- The default operators have different canonical identifiers. -/
theorem Operator.eq_of_mem_defaults {one other : Operator} (oneDefault : one ∈ Operator.defaults)
    (otherDefault : other ∈ Operator.defaults) (sameId : one.id = other.id) : one = other := by
  have distinct : (Operator.defaults.map (·.id)).Nodup := by decide +kernel
  exact List.inj_on_of_nodup_map distinct oneDefault otherDefault sameId

namespace OperatorRegistry

variable {registry : OperatorRegistry} {operator : Operator}

/-! ### What is found after an extension -/

theorem find?_register (registry : OperatorRegistry) (operator : Operator) (id : String) :
    (registry.register operator).find? id =
      if id = operator.id then some operator else registry.find? id :=
  Fields.find?_insert registry.entries id operator.id operator

theorem find?_addAlias_of_ne (registry : OperatorRegistry) {id added : String} (target : String)
    (other : id ≠ added) : (registry.addAlias added target).find? id = registry.find? id := by
  unfold addAlias
  cases registry.find? target with
  | none => rfl
  | some operator => exact Fields.find?_insert_of_ne registry.entries operator other

/-- Whatever is found with a further identifier was found without it. -/
theorem exists_find?_of_addAlias {id added target : String}
    (found : (registry.addAlias added target).find? id = some operator) :
    ∃ earlier, registry.find? earlier = some operator := by
  by_cases same : id = added
  · subst same
    cases atTarget : registry.find? target with
    | none =>
      unfold addAlias at found
      rw [atTarget] at found
      exact ⟨id, found⟩
    | some operator =>
      rw [(find?_addAlias atTarget id).2] at found
      exact ⟨target, atTarget.trans found⟩
  · rw [find?_addAlias_of_ne registry target same] at found
    exact ⟨id, found⟩

/-- The identifier that an extension sets. -/
def Extension.identifier : Extension → String
  | .register operator => operator.id
  | .addAlias id _ => id

theorem extended_nil (registry : OperatorRegistry) : registry.extended [] = registry := rfl

theorem extended_addAlias (registry : OperatorRegistry) (id target : String) :
    registry.extended [.addAlias id target] = registry.addAlias id target := rfl

theorem extended_append (registry : OperatorRegistry) (earlier later : List Extension) :
    registry.extended (earlier ++ later) = (registry.extended earlier).extended later :=
  List.foldl_append

/-- An identifier that is not set again finds what it found. -/
theorem find?_extended_of_untouched {id : String} {extensions : List Extension}
    (untouched : ∀ extension ∈ extensions, extension.identifier ≠ id) :
    (registry.extended extensions).find? id = registry.find? id := by
  induction extensions generalizing registry with
  | nil => rfl
  | cons extension rest inductionHypothesis =>
    obtain ⟨other, othersToo⟩ := List.forall_mem_cons.mp untouched
    refine (inductionHypothesis othersToo).trans ?_
    cases extension with
    | register operator => exact (find?_register registry operator id).trans (if_neg other.symm)
    | addAlias added target => exact find?_addAlias_of_ne registry target other.symm

/-! ### Operators of one canonical identifier -/

/-- Operators that are found compare alike if they bear one canonical identifier. -/
def TellsOperators (registry : OperatorRegistry) : Prop :=
  ∀ first second one other, registry.find? first = some one → registry.find? second = some other →
    one.id = other.id → one.holds = other.holds

/-- What is found under further identifiers and bears the canonical identifier of an operator
compares as that operator does. -/
def AgreesWithNamesakes (registry : OperatorRegistry) (operator : Operator) : Prop :=
  ∀ id found, id ≠ operator.id → registry.find? id = some found → found.id = operator.id →
    found.holds = operator.holds

theorem TellsOperators.addAlias (tells : registry.TellsOperators) (id target : String) :
    (registry.addAlias id target).TellsOperators := by
  intro first second one other firstFound secondFound
  obtain ⟨_, oneEarlier⟩ := exists_find?_of_addAlias firstFound
  obtain ⟨_, otherEarlier⟩ := exists_find?_of_addAlias secondFound
  exact tells _ _ one other oneEarlier otherEarlier

/-- After an operator is registered, what is found under another identifier is what was. -/
theorem TellsOperators.agreesWithNamesakes
    (tells : (registry.register operator).TellsOperators) :
    registry.AgreesWithNamesakes operator := by
  intro id found other isFound sameId
  refine tells id operator.id found operator ?_ ?_ sameId
  · rw [find?_register, if_neg other, isFound]
  · rw [find?_register, if_pos rfl]

theorem TellsOperators.register (tells : registry.TellsOperators)
    (agrees : registry.AgreesWithNamesakes operator) :
    (registry.register operator).TellsOperators := by
  intro first second one other firstFound secondFound sameId
  rw [find?_register] at firstFound secondFound
  by_cases firstNew : first = operator.id
  · rw [if_pos firstNew] at firstFound
    obtain rfl := Option.some.inj firstFound
    by_cases secondNew : second = operator.id
    · rw [if_pos secondNew] at secondFound
      obtain rfl := Option.some.inj secondFound
      rfl
    · rw [if_neg secondNew] at secondFound
      exact (agrees second other secondNew secondFound sameId.symm).symm
  · rw [if_neg firstNew] at firstFound
    by_cases secondNew : second = operator.id
    · rw [if_pos secondNew] at secondFound
      obtain rfl := Option.some.inj secondFound
      exact agrees first one firstNew firstFound sameId
    · rw [if_neg secondNew] at secondFound
      exact tells first second one other firstFound secondFound sameId

/-- Canonical identifiers tell the operators all along some extensions exactly if every operator that
is registered agrees with its namesakes at that moment. -/
theorem TellsOperators.throughout_iff (tells : registry.TellsOperators)
    (extensions : List Extension) :
    (∀ earlier later, extensions = earlier ++ later →
        (registry.extended earlier).TellsOperators) ↔
      ∀ earlier operator later, extensions = earlier ++ .register operator :: later →
        (registry.extended earlier).AgreesWithNamesakes operator := by
  constructor
  · intro throughout earlier operator later split
    have reached := throughout (earlier ++ [.register operator]) later (by rw [split]; simp)
    rw [extended_append] at reached
    exact reached.agreesWithNamesakes
  · intro agree earlier
    induction earlier using List.reverseRecOn with
    | nil => exact fun _ _ => tells
    | append_singleton earlier extension inductionHypothesis =>
      intro later split
      rw [List.append_assoc, List.singleton_append] at split
      have before := inductionHypothesis _ split
      rw [extended_append]
      cases extension with
      | register operator => exact before.register (agree earlier operator later split)
      | addAlias id target => exact before.addAlias id target

/-- In the registry of the default operators canonical identifiers tell them. -/
theorem tellsOperators_defaults : OperatorRegistry.defaults.TellsOperators := by
  intro first second one other firstFound secondFound sameId
  have isDefault := FindsOnly.defaults fun operator member => member
  rw [Operator.eq_of_mem_defaults (isDefault _ _ firstFound) (isDefault _ _ secondFound) sameId]

/-- Without operators and with the default ones, canonical identifiers tell the operators, and they go
on doing so exactly as long as no operator is registered in place of one that compares otherwise and
that another identifier still finds. A further identifier finds for good what its target found when
it was added, and the two agree as long as the target is not set again. -/
theorem namesakes_agree_iff (start : registry = .empty ∨ registry = .defaults)
    (extensions : List Extension) :
    ((∀ earlier later, extensions = earlier ++ later →
        (registry.extended earlier).TellsOperators) ↔
      ∀ earlier operator later, extensions = earlier ++ .register operator :: later →
        (registry.extended earlier).AgreesWithNamesakes operator) ∧
    ∀ earlier id target later operator, extensions = earlier ++ .addAlias id target :: later →
      (registry.extended earlier).find? target = some operator →
      (∀ extension ∈ later, extension.identifier ≠ id) →
      (registry.extended extensions).find? id = some operator ∧
        ((∀ extension ∈ later, extension.identifier ≠ target) →
          (registry.extended extensions).find? target = some operator) := by
  have tells : registry.TellsOperators := by
    rcases start with isEmpty | isDefault
    · rw [isEmpty]
      exact nofun
    · rw [isDefault]
      exact tellsOperators_defaults
  refine ⟨tells.throughout_iff extensions, ?_⟩
  rintro earlier id target later operator rfl found untouched
  rw [extended_append]
  obtain ⟨atTarget, atId⟩ := find?_addAlias found id
  exact ⟨(find?_extended_of_untouched untouched).trans atId,
    fun targetToo => (find?_extended_of_untouched targetToo).trans atTarget⟩

/-- With a further identifier for equality, then a new operator, then the identifier of equality given
to its opposite: the canonical identifiers still tell the operators, and the further identifier finds
equality. -/
theorem namesakes_agree_iff_renamedEquality :
    let extensions : List Extension := [.addAlias "same" "eq",
      .register { Operator.always with id := "always" }, .addAlias "eq" "ne"]
    (OperatorRegistry.defaults.extended extensions).TellsOperators ∧
      ∃ equality, OperatorRegistry.defaults.find? "eq" = some equality ∧
        (OperatorRegistry.defaults.extended extensions).find? "same" = some equality := by
  intro extensions
  have start : OperatorRegistry.defaults = .empty ∨ OperatorRegistry.defaults = .defaults :=
    .inr rfl
  obtain ⟨tells, keeps⟩ := namesakes_agree_iff start extensions
  constructor
  · have nothingNamed : OperatorRegistry.defaults.FindsOnly (·.id ≠ "always") :=
      FindsOnly.defaults (by decide +kernel)
    refine tells.mpr ?_ extensions [] (List.append_nil _).symm
    intro earlier operator later split
    rcases earlier with _ | ⟨first, _ | ⟨second, _ | ⟨third, rest⟩⟩⟩
    · simp [extensions] at split
    · obtain ⟨rfl, rfl, -⟩ : .addAlias "same" "eq" = first ∧
          { Operator.always with id := "always" } = operator ∧ _ := by
        simpa [extensions] using split
      intro id found _ isFound sameId
      rw [extended_addAlias] at isFound
      exact absurd sameId (nothingNamed.addAlias "same" "eq" id found isFound)
    · simp [extensions] at split
    · simp [extensions] at split
  · have registered : (OperatorRegistry.defaults.find? "eq").isSome = true := by decide +kernel
    obtain ⟨equality, found⟩ := Option.isSome_iff_exists.mp registered
    have atFirst := found
    rw [← extended_nil .defaults] at atFirst
    refine ⟨equality, found, (keeps [] "same" "eq" _ equality rfl atFirst ?_).1⟩
    decide

/-- If equality is replaced, its dotted identifier still finds the old one, under the canonical
identifier of the new one. -/
theorem replaced_equality_stays :
    let replaced := OperatorRegistry.defaults.extended
      [.register { Operator.always with id := "eq" }]
    ∃ old new, replaced.find? "operator.eq" = some old ∧ replaced.find? "eq" = some new ∧
      old.id = new.id ∧ old.holds (.text "a") (.text "b") = .ok false ∧
      new.holds (.text "a") (.text "b") = .ok true ∧ ¬ replaced.TellsOperators := by
  intro replaced
  have oldRefuses : ((replaced.find? "operator.eq").any fun old =>
      decide (old.id = "eq" ∧ old.holds (.text "a") (.text "b") = .ok false)) = true := by
    decide +kernel
  obtain ⟨old, oldFound, answers⟩ := (Option.any_eq_true _ _).mp oldRefuses
  obtain ⟨sameId, refuses⟩ := of_decide_eq_true answers
  have newFound : replaced.find? "eq" = some { Operator.always with id := "eq" } :=
    find?_extended_register .defaults [] { Operator.always with id := "eq" }
  refine ⟨old, _, oldFound, newFound, sameId, refuses, rfl, fun tells => ?_⟩
  rw [tells _ _ _ _ oldFound newFound sameId] at refuses
  exact absurd refuses (by decide +kernel)

end OperatorRegistry

end Rulebook
