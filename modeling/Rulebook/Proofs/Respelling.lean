/-
This file says that identifiers which find the same operator may stand for one another in a rule
set. The identifier that a condition stores is used to look its operator up, and from there on the
operator counts: whether a property allows it and whether it takes a pattern are matters of its
canonical identifier. Only the error about an operator that is not allowed quotes what the condition
stores.

Two rule sets that differ in the spelling of operators are compiled side by side. Each function of
the compiler gives the same for both, or refuses both with errors that differ at most in that
quotation; this is kept by putting steps one after another and by going through lists that
correspond, so it holds for the whole rule set.
-/
import Rulebook.Proofs.Acceptance

namespace Rulebook

variable {World : Type}

/-! ### Respelled rule sets -/

section Respelled

variable (old new : String)

/-- The operator of the condition is written as before, or `new` stands for it where `old` did. -/
inductive Condition.Respelled : Condition → Condition → Prop where
  | kept (condition : Condition) : Respelled condition condition
  | respelled (condition : Condition) (written : condition.comparisonOperator = old) :
    Respelled condition { condition with comparisonOperator := new }

/-- Some conditions of the set are respelled, and all else is alike. -/
structure ConditionSet.Respelled (first second : ConditionSet) : Prop where
  others : second = { first with conditions := second.conditions }
  conditions : List.Forall₂ (Condition.Respelled old new) first.conditions second.conditions

/-- Some conditions of the block are respelled, and all else is alike. -/
structure RuleBlock.Respelled (first second : RuleBlock) : Prop where
  others : second = { first with conditionSets := second.conditionSets }
  sets : List.Forall₂ (ConditionSet.Respelled old new) first.conditionSets second.conditionSets

/-- Some conditions of the rule set are respelled, and all else is alike. -/
structure RuleSet.Respelled (first second : RuleSet) : Prop where
  others : second = { first with ruleBlocks := second.ruleBlocks }
  blocks : List.Forall₂ (RuleBlock.Respelled old new) first.ruleBlocks second.ruleBlocks

/-- The errors are the same, but for the operator that one about what is not allowed quotes. -/
inductive RuleError.Respelled : RuleError → RuleError → Prop where
  | same (error : RuleError) : Respelled error error
  | notAllowed (property : String) (allowed : List String) (location : Location) :
    Respelled (.located (.operatorNotAllowed property old allowed) location)
      (.located (.operatorNotAllowed property new allowed) location)

/-- Two steps of a compiler give results that are related, or errors that are the same up to the
spelling. -/
inductive EndsRespelled {First Second : Type} (related : First → Second → Prop) :
    Except RuleError First → Except RuleError Second → Prop where
  | accepted {first : First} {second : Second} (relation : related first second) :
    EndsRespelled related (.ok first) (.ok second)
  | refused {error other : RuleError} (respelled : error.Respelled old new other) :
    EndsRespelled related (.error error) (.error other)

/-- The rule set with `new` in place of `old` everywhere. -/
def RuleSet.respell (ruleSet : RuleSet) : RuleSet :=
  { ruleSet with
    ruleBlocks := ruleSet.ruleBlocks.map fun block =>
      { block with
        conditionSets := block.conditionSets.map fun set =>
          { set with
            conditions := set.conditions.map fun condition =>
              if condition.comparisonOperator = old then
                { condition with comparisonOperator := new }
              else condition } } }

theorem RuleSet.respelled_respell (ruleSet : RuleSet) :
    ruleSet.Respelled old new (ruleSet.respell old new) := by
  refine ⟨rfl, List.forall₂_map_right_iff.mpr (List.forall₂_same.mpr fun block _ => ?_)⟩
  refine ⟨rfl, List.forall₂_map_right_iff.mpr (List.forall₂_same.mpr fun set _ => ?_)⟩
  refine ⟨rfl, List.forall₂_map_right_iff.mpr (List.forall₂_same.mpr fun condition _ => ?_)⟩
  by_cases written : condition.comparisonOperator = old
  · rw [if_pos written]
    exact .respelled condition written
  · rw [if_neg written]
    exact .kept condition

end Respelled

variable {old new : String}

theorem RuleError.Respelled.kind_eq {error other : RuleError}
    (respelled : error.Respelled old new other) : error.kind = other.kind := by
  cases respelled <;> rfl

theorem RuleError.Respelled.location?_eq {error other : RuleError}
    (respelled : error.Respelled old new other) : error.location? = other.location? := by
  cases respelled <;> rfl

/-! ### Steps side by side -/

namespace EndsRespelled

variable {First Second Third Fourth Item Other : Type}

theorem same (step : Except RuleError First) : EndsRespelled old new Eq step step := by
  cases step with
  | ok result => exact .accepted rfl
  | error error => exact .refused (.same error)

theorem bind {related : First → Second → Prop} {relatedNext : Third → Fourth → Prop}
    {step : Except RuleError First} {other : Except RuleError Second}
    {next : First → Except RuleError Third} {otherNext : Second → Except RuleError Fourth}
    (ends : EndsRespelled old new related step other)
    (rest : ∀ first second, related first second →
      EndsRespelled old new relatedNext (next first) (otherNext second)) :
    EndsRespelled old new relatedNext (step >>= next) (other >>= otherNext) := by
  cases ends with
  | accepted relation => exact rest _ _ relation
  | refused respelled => exact .refused respelled

/-- A step that both take. -/
theorem bind_same {relatedNext : Third → Fourth → Prop} (step : Except RuleError First)
    {next : First → Except RuleError Third} {otherNext : First → Except RuleError Fourth}
    (rest : ∀ result, EndsRespelled old new relatedNext (next result) (otherNext result)) :
    EndsRespelled old new relatedNext (step >>= next) (step >>= otherNext) :=
  (same step).bind fun first _ equal => equal ▸ rest first

theorem mapM {related : First → Second → Prop} {act : Item → Except RuleError First}
    {otherAct : Other → Except RuleError Second} {items : List Item} {others : List Other}
    (each : List.Forall₂
      (fun item other => EndsRespelled old new related (act item) (otherAct other)) items others) :
    EndsRespelled old new (List.Forall₂ related) (items.mapM act) (others.mapM otherAct) := by
  induction each with
  | nil => exact .accepted .nil
  | cons head _ inductionHypothesis =>
    rw [List.mapM_cons, List.mapM_cons]
    exact head.bind fun _ _ relation => inductionHypothesis.bind fun _ _ relations =>
      .accepted (.cons relation relations)

theorem mapM_eq {act : Item → Except RuleError First} {otherAct : Other → Except RuleError First}
    {items : List Item} {others : List Other}
    (each : List.Forall₂ (fun item other => EndsRespelled old new Eq (act item) (otherAct other))
      items others) :
    EndsRespelled old new Eq (items.mapM act) (others.mapM otherAct) := by
  rw [← List.forall₂_eq_eq_eq]
  exact mapM each

end EndsRespelled

/-! ### The compiler on both spellings -/

theorem Condition.Respelled.id_eq {first second : Condition}
    (respelled : first.Respelled old new second) : first.id = second.id := by
  cases respelled <;> rfl

theorem ConditionSet.Respelled.id_eq {first second : ConditionSet}
    (respelled : first.Respelled old new second) : first.id = second.id := by
  rw [respelled.others]

theorem ConditionSet.Respelled.parent_eq {first second : ConditionSet}
    (respelled : first.Respelled old new second) : first.parent = second.parent := by
  rw [respelled.others]

theorem RuleBlock.Respelled.id_eq {first second : RuleBlock}
    (respelled : first.Respelled old new second) : first.id = second.id := by
  rw [respelled.others]

theorem RuleBlock.Respelled.enabled_eq {first second : RuleBlock}
    (respelled : first.Respelled old new second) : first.enabled = second.enabled := by
  rw [respelled.others]

/-- Two sets with what was compiled for them, which is the same. -/
abbrev CheckedAlike (old new : String) :
    ConditionSet × CompiledConditionSet → ConditionSet × CompiledConditionSet → Prop :=
  fun entry other => entry.1.Respelled old new other.1 ∧ entry.2 = other.2

/-- The parents of sets are found or missed at the same places. -/
theorem CheckedAlike.link {entries others : List (ConditionSet × CompiledConditionSet)}
    (alike : List.Forall₂ (CheckedAlike old new) entries others) (ids : List String)
    (location : Location) :
    EndsRespelled old new Eq
      (entries.mapM fun (set, compiled) =>
        return (compiled, ← set.parentPosition? ids (location.ofSet set)))
      (others.mapM fun (set, compiled) =>
        return (compiled, ← set.parentPosition? ids (location.ofSet set))) := by
  refine .mapM_eq (alike.imp fun entry other alike => ?_)
  have sameParent : other.1.parentPosition? ids (location.ofSet other.1) =
      entry.1.parentPosition? ids (location.ofSet entry.1) := by
    simp only [ConditionSet.parentPosition?, Location.ofSet, alike.1.parent_eq, alike.1.id_eq]
  simp only [sameParent, alike.2]
  exact .same _

section Compiling

variable {operators : OperatorRegistry} {operator : Operator} {catalog : Catalog}
  (oldFound : operators.find? old = some operator) (newFound : operators.find? new = some operator)

include oldFound newFound

theorem Condition.Respelled.compile {first second : Condition}
    (respelled : first.Respelled old new second) (location : Location) :
    EndsRespelled old new Eq (first.compile operators catalog location)
      (second.compile operators catalog location) := by
  cases respelled with
  | kept => exact .same _
  | respelled written =>
    unfold Condition.compile
    refine .bind_same _ fun property => ?_
    -- Both spellings are known and find the same operator.
    rw [written, oldFound, newFound]
    change EndsRespelled old new Eq (if property.allows operator.id then _ else _)
      (if property.allows operator.id then _ else _)
    by_cases allowed : property.allows operator.id = true
    · rw [if_pos allowed, if_pos allowed]
      exact .same _
    · rw [if_neg allowed, if_neg allowed]
      exact .refused (.notAllowed property.name (property.operators.getD []) location)

theorem ConditionSet.Respelled.compile {first second : ConditionSet}
    (respelled : first.Respelled old new second) (location : Location) :
    EndsRespelled old new Eq (first.compile operators catalog location)
      (second.compile operators catalog location) := by
  have conditions : List.Forall₂ (fun condition other => EndsRespelled old new Eq
      (condition.compile operators catalog { location with condition := some condition.id })
      (other.compile operators catalog { location with condition := some other.id }))
      first.conditions second.conditions :=
    respelled.conditions.imp fun condition other alike =>
      alike.id_eq ▸ alike.compile oldFound newFound _
  rw [respelled.others]
  unfold ConditionSet.compile
  refine .bind_same _ fun rule => ?_
  refine .bind (.mapM_eq conditions) fun compiled _ equal => ?_
  exact equal ▸ .same _

theorem RuleBlock.Respelled.compileSets {first second : RuleBlock}
    (respelled : first.Respelled old new second) (location : Location) :
    EndsRespelled old new (List.Forall₂ (CheckedAlike old new))
      (first.conditionSets.mapM fun set =>
        return (set, ← set.compile operators catalog (location.ofSet set)))
      (second.conditionSets.mapM fun set =>
        return (set, ← set.compile operators catalog (location.ofSet set))) := by
  refine .mapM (respelled.sets.imp fun set other alike => ?_)
  have samePlace : location.ofSet other = location.ofSet set := by
    rw [Location.ofSet, ← alike.id_eq, Location.ofSet]
  rw [samePlace]
  exact (alike.compile oldFound newFound _).bind fun _ _ equal => .accepted ⟨alike, equal⟩

theorem RuleBlock.Respelled.compile {first second : RuleBlock}
    (respelled : first.Respelled old new second) (location : Location) :
    EndsRespelled old new Eq (first.compile operators catalog location)
      (second.compile operators catalog location) := by
  have sameIds : second.setIds = first.setIds := by
    rw [← List.forall₂_eq_eq_eq, List.forall₂_map_left_iff, List.forall₂_map_right_iff]
    exact respelled.sets.flip.imp fun _ _ alike => alike.id_eq.symm
  unfold RuleBlock.compile
  rw [respelled.others]
  simp only [sameIds]
  cases firstRepeated? [] first.setIds with
  | some id => exact .same _
  | none =>
    refine .bind (respelled.compileSets oldFound newFound location) fun entries others alike => ?_
    refine .bind (CheckedAlike.link alike _ location) fun sets _ equal => ?_
    exact equal ▸ .same _

end Compiling

/-- The enabled blocks of respelled rule sets correspond. -/
theorem RuleSet.Respelled.enabledBlocks {first second : RuleSet}
    (respelled : first.Respelled old new second) :
    List.Forall₂ (RuleBlock.Respelled old new) (first.ruleBlocks.filter (·.enabled))
      (second.ruleBlocks.filter (·.enabled)) :=
  forall₂_enabled (fun _ _ blocks => blocks.enabled_eq) respelled.blocks

namespace Compiler

variable {compiler : Compiler World} {operator : Operator} {first second : RuleSet}

theorem check_respelled (oldFound : compiler.operators.find? old = some operator)
    (newFound : compiler.operators.find? new = some operator)
    (respelled : first.Respelled old new second) :
    EndsRespelled old new Eq (compiler.check first) (compiler.check second) := by
  have blocks (catalog : Catalog) : List.Forall₂ (fun block other => EndsRespelled old new Eq
      (block.compile compiler.operators catalog
        { ruleSet := some first.id, block := some block.id })
      (other.compile compiler.operators catalog
        { ruleSet := some first.id, block := some other.id }))
      (first.ruleBlocks.filter (·.enabled)) (second.ruleBlocks.filter (·.enabled)) :=
    respelled.enabledBlocks.imp fun block other alike =>
      alike.id_eq ▸ alike.compile oldFound newFound _
  rw [respelled.others]
  unfold check
  refine .bind_same _ fun vars => ?_
  refine .bind_same _ fun actions => ?_
  refine .bind (.mapM_eq (blocks _)) fun compiled _ equal => ?_
  exact equal ▸ .same _

/-- Rule sets that differ in identifiers of one operator compile alike: both are accepted with the
same compiled form, or both are refused for the same fault at the same place, where at most the
operator that is not allowed is quoted as it is written. -/
theorem compile_respelled (oldFound : compiler.operators.find? old = some operator)
    (newFound : compiler.operators.find? new = some operator)
    (respelled : first.Respelled old new second) :
    (∃ compiled after, compiler.compile first = (.ok compiled, after) ∧
      compiler.compile second = (.ok compiled, after)) ∨
    ∃ error other, compiler.compile first = (.error error, compiler) ∧
      compiler.compile second = (.error other, compiler) ∧
      error.kind = other.kind ∧ error.location? = other.location? ∧
      error.Respelled old new other := by
  have ends := check_respelled oldFound newFound respelled
  unfold compile
  generalize compiler.check first = checked at ends
  generalize compiler.check second = otherChecked at ends
  cases ends with
  | accepted equal => exact .inl ⟨_, _, rfl, equal ▸ rfl⟩
  | refused alike => exact .inr ⟨_, _, rfl, rfl, alike.kind_eq, alike.location?_eq, alike⟩

end Compiler

/-- A further identifier and the one it was added for find the same operator. -/
theorem OperatorRegistry.find?_addAlias {registry : OperatorRegistry} {target : String}
    {operator : Operator} (found : registry.find? target = some operator) (id : String) :
    (registry.addAlias id target).find? target = some operator ∧
      (registry.addAlias id target).find? id = some operator := by
  have added : registry.addAlias id target = ⟨registry.entries.insert id operator⟩ := by
    rw [addAlias, found]
  rw [added]
  refine ⟨?_, Fields.find?_insert_self _ id operator⟩
  by_cases same : target = id
  · rw [same]
    exact Fields.find?_insert_self _ id operator
  · exact (Fields.find?_insert_of_ne _ operator same).trans found

/-- The compiler of sales, on which patterns are also called for as `regex`. -/
def Compiler.ofSalesRegex : Compiler Unit :=
  { Compiler.ofSales with operators := Compiler.ofSales.operators.addAlias "regex" "matches" }

theorem Compiler.compile_respelled_regex :
    ∃ compiled after, Compiler.ofSalesRegex.compile .innerFirst = (.ok compiled, after) ∧
      Compiler.ofSalesRegex.compile (RuleSet.innerFirst.respell "matches" "regex") =
        (.ok compiled, after) := by
  have registered : (Compiler.ofSales.operators.find? "matches").isSome = true := by
    decide +kernel
  have accepts : (Compiler.ofSalesRegex.compile .innerFirst).1.isOk = true := by decide +kernel
  obtain ⟨operator, found⟩ := Option.isSome_iff_exists.mp registered
  obtain ⟨oldFound, newFound⟩ : ofSalesRegex.operators.find? "matches" = some operator ∧
      ofSalesRegex.operators.find? "regex" = some operator :=
    OperatorRegistry.find?_addAlias found "regex"
  obtain same | ⟨_, _, refused, -⟩ := compile_respelled oldFound newFound
    (RuleSet.respelled_respell "matches" "regex" .innerFirst)
  · exact same
  · rw [refused] at accepts
    exact nomatch accepts

end Rulebook
