/-
This file says that a rule set survives being stored as JSON. Its text has every field by name, so
the reader falls back on no default, and null stands only for what is absent; the keyword arguments
come back because their values do, and blocks, sets, conditions and actions one by one in their
order. A rule set that was stored is therefore the same to the compiler: it is accepted with the
same compiled form, or refused for the same reason, and only the version may have moved on.

A record is read within the room that the lists and objects around it leave. That a rule set nests
no deeper than the reader goes is handed down from each record to the ones inside it.
-/
import Rulebook.Proofs.Reload
import Rulebook.Proofs.Restored

namespace Rulebook

/-! ### Records that are written -/

namespace Document

/-- Fields with different names, all of them wanted, are found as they were written. -/
theorem wantedEntries?_fieldDocuments {names : List String} {fields : List (String × Json)}
    (wanted : fields.map Prod.fst ⊆ names) (distinct : (fields.map Prod.fst).Nodup) :
    wantedEntries? names (Json.fieldDocuments fields) =
      some (fields.map fun field => (field.1, field.2.document)) := by
  induction fields with
  | nil => rfl
  | cons field rest inductionHypothesis =>
    obtain ⟨name, value⟩ := field
    obtain ⟨fresh, others⟩ := List.nodup_cons.mp distinct
    have isWanted : name ∈ names := wanted List.mem_cons_self
    have unseen : List.lookup name (rest.map fun field => (field.1, field.2.document)) = none := by
      refine List.lookup_eq_none_iff.mpr fun entry member => bne_iff_ne.mpr fun same => fresh ?_
      obtain ⟨other, inside, rfl⟩ := List.mem_map.mp member
      exact List.mem_map.mpr ⟨other, inside, same.symm⟩
    unfold Json.fieldDocuments wantedEntries?
    rw [inductionHypothesis (fun _ member => wanted (List.mem_cons_of_mem _ member)) others]
    simp [isWanted, unseen]

/-- A record that is written with all its fields is read by them. -/
theorem asRecord?_document {α : Type} {names : List String} {fields : List (String × Json)}
    (named : fields.map Prod.fst = names) (distinct : names.Nodup) (room : Nat)
    (read : Nat → Record → Option α) :
    (Json.map fields).document.asRecord? names (room + 1) read =
      read room (fields.map fun field => (field.1, field.2.document)) := by
  subst named
  show (wantedEntries? _ (Json.fieldDocuments fields)).bind (read room) = _
  rw [wantedEntries?_fieldDocuments (List.Subset.refl _) distinct, Option.bind_some]

/-- A list is read back if its items are. -/
theorem asList?_document {α : Type} {toJson : α → Json} {items : List α}
    {read : Nat → Nat → Document → Option α}
    (each : ∀ item ∈ items, ∀ room index, (toJson item).depth ≤ room →
      read room index (toJson item).document = some item)
    {room : Nat} (fits : (Json.list (items.map toJson)).depth ≤ room) :
    asList? room read (Json.list (items.map toJson)).document = some items := by
  obtain _ | room := room
  · exact absurd fits (Nat.not_succ_le_zero _)
  have allFit := Json.itemsDepth_le_iff.mp (Nat.le_of_succ_le_succ fits)
  have readFrom : ∀ (rest : List α), rest ⊆ items → ∀ start : Nat,
      ((rest.map fun item => (toJson item).document).zipIdx start).mapM
        (fun entry => read room entry.2 entry.1) = some rest := by
    intro rest inside
    induction rest with
    | nil => exact fun _ => rfl
    | cons item others inductionHypothesis =>
      intro start
      have member : item ∈ items := inside List.mem_cons_self
      have first := each item member room start (allFit _ (List.mem_map_of_mem member))
      have following := inductionHypothesis (fun _ other => inside (List.mem_cons_of_mem _ other))
      rw [List.map_cons, List.zipIdx_cons, List.mapM_cons, first, following]
      rfl
  show ((Json.itemDocuments (items.map toJson)).zipIdx.mapM
    fun entry => read room entry.2 entry.1) = some items
  rw [Json.itemDocuments_eq_map, List.map_map]
  exact readFrom items (List.Subset.refl _) 0

@[simp] theorem asText?_document (text : String) :
    asText? (Json.text text).document = some text := rfl

@[simp] theorem asBool?_document (value : Bool) :
    asBool? (Json.bool value).document = some value := rfl

@[simp] theorem asTimestamp?_document (text : String) :
    asTimestamp? (Json.text text).document = Timestamp.ofText? text := rfl

/-- A text that may be absent is read back. -/
theorem optional_ofOptionalText (text : Option String) {record : Record} {name : String}
    (found : List.lookup name record = some (Json.ofOptionalText text).document) :
    record.optional name asText? = some text := by
  unfold Record.optional
  rw [found]
  cases text <;> rfl

end Document

/-! ### Keyword arguments -/

namespace Kwargs

/-- Keyword arguments that JSON can carry: the names of their maps are in order, and their numbers
are finite and read back from what is written for them. -/
structure Storable (kwargs : Kwargs) : Prop where
  ordered : (Value.map kwargs).Ordered
  finite : (Value.map kwargs).EveryNumber fun number => number.isFinite = true
  legible : (Value.map kwargs).EveryNumber Json.Legible

variable {kwargs : Kwargs}

theorem Storable.asKwargs?_toJson (storable : Storable kwargs) {room : Nat}
    (fits : (toJson kwargs).depth ≤ room) :
    Document.asKwargs? room (toJson kwargs).document = some kwargs := by
  have deepEnough : (Value.map kwargs).toJson.depth ≤ room := fits
  have read : Value.ofDocument? room (toJson kwargs).document = some (.map kwargs) := by
    refine ((Value.map kwargs).ofDocument?_toJson storable.ordered room).trans ?_
    rw [if_pos deepEnough, Value.withoutNonFinite_eq_self _ storable.finite]
  unfold Document.asKwargs?
  rw [read]

theorem Storable.everyReal_toJson (storable : Storable kwargs) :
    (toJson kwargs).EveryReal Json.Legible :=
  (Value.map kwargs).everyReal_toJson storable.legible

end Kwargs

theorem Json.everyReal_ofOptionalText (text : Option String) :
    (ofOptionalText text).EveryReal Legible := by
  cases text <;> trivial

/-! ### Conditions and actions -/

namespace Condition

variable {condition : Condition}

theorem everyReal_toJson (storable : condition.propertyKwargs.Storable) :
    condition.toJson.EveryReal Json.Legible :=
  ⟨trivial, trivial, storable.everyReal_toJson, trivial, Json.everyReal_ofOptionalText _, trivial⟩

/-- A condition is read back. -/
theorem ofDocument?_toJson (storable : condition.propertyKwargs.Storable) (absent : Absent)
    (path : List Nat) {room : Nat} (fits : condition.toJson.depth ≤ room) :
    ofDocument? absent path room condition.toJson.document = some condition := by
  obtain _ | room := room
  · exact absurd fits (Nat.not_succ_le_zero _)
  have inside := Json.fieldsDepth_le_iff.mp (Nat.le_of_succ_le_succ fits)
  have kwargs := storable.asKwargs?_toJson
    (inside ("property_kwargs", Kwargs.toJson condition.propertyKwargs) (by simp))
  unfold ofDocument? toJson
  rw [Document.asRecord?_document (by rfl) (by decide)]
  simp [Record.withDefault, Record.required, List.lookup_cons, kwargs,
    Document.optional_ofOptionalText condition.value]

end Condition

namespace Action

variable {action : Action}

theorem everyReal_toJson (storable : action.actionKwargs.Storable) :
    action.toJson.EveryReal Json.Legible :=
  ⟨trivial, trivial, storable.everyReal_toJson, trivial⟩

/-- An action is read back. -/
theorem ofDocument?_toJson (storable : action.actionKwargs.Storable) (absent : Absent)
    (path : List Nat) {room : Nat} (fits : action.toJson.depth ≤ room) :
    ofDocument? absent path room action.toJson.document = some action := by
  obtain _ | room := room
  · exact absurd fits (Nat.not_succ_le_zero _)
  have inside := Json.fieldsDepth_le_iff.mp (Nat.le_of_succ_le_succ fits)
  have kwargs := storable.asKwargs?_toJson
    (inside ("action_kwargs", Kwargs.toJson action.actionKwargs) (by simp))
  unfold ofDocument? toJson
  rw [Document.asRecord?_document (by rfl) (by decide)]
  simp [Record.withDefault, Record.required, List.lookup_cons, kwargs]

end Action

/-! ### Condition sets and blocks -/

namespace ConditionSet

variable {set : ConditionSet}
  (storable : ∀ condition ∈ set.conditions, condition.propertyKwargs.Storable)

include storable

theorem everyReal_toJson : set.toJson.EveryReal Json.Legible := by
  refine ⟨trivial, trivial, trivial, Json.everyReal_ofOptionalText _, ?_, trivial⟩
  exact Json.everyItemReal_iff.mpr <| List.forall_mem_map.mpr fun condition member =>
    Condition.everyReal_toJson (storable condition member)

/-- A condition set is read back. -/
theorem ofDocument?_toJson (absent : Absent) (path : List Nat) {room : Nat}
    (fits : set.toJson.depth ≤ room) :
    ofDocument? absent path room set.toJson.document = some set := by
  obtain _ | room := room
  · exact absurd fits (Nat.not_succ_le_zero _)
  have inside := Json.fieldsDepth_le_iff.mp (Nat.le_of_succ_le_succ fits)
  have conditions := Document.asList?_document
    (fun condition member room index fits =>
      Condition.ofDocument?_toJson (storable condition member) absent (path ++ [index]) fits)
    (inside ("conditions", .list (set.conditions.map Condition.toJson)) (by simp))
  unfold ofDocument? toJson
  rw [Document.asRecord?_document (by rfl) (by decide)]
  simp [Record.withDefault, Record.required, List.lookup_cons, conditions,
    Document.optional_ofOptionalText set.parent]

end ConditionSet

namespace RuleBlock

/-- A block whose keyword arguments can be carried by JSON. -/
structure Storable (block : RuleBlock) : Prop where
  conditions : ∀ set ∈ block.conditionSets, ∀ condition ∈ set.conditions,
    condition.propertyKwargs.Storable
  actions : ∀ action ∈ block.actions, action.actionKwargs.Storable

namespace Storable

variable {block : RuleBlock} (storable : block.Storable)

include storable

theorem everyReal_toJson : block.toJson.EveryReal Json.Legible := by
  refine ⟨trivial, trivial, trivial, ?_, ?_, trivial⟩
  · exact Json.everyItemReal_iff.mpr <| List.forall_mem_map.mpr fun set member =>
      ConditionSet.everyReal_toJson (storable.conditions set member)
  · exact Json.everyItemReal_iff.mpr <| List.forall_mem_map.mpr fun action member =>
      Action.everyReal_toJson (storable.actions action member)

/-- A block is read back. -/
theorem ofDocument?_toJson (absent : Absent) (path : List Nat) {room : Nat}
    (fits : block.toJson.depth ≤ room) :
    ofDocument? absent path room block.toJson.document = some block := by
  obtain _ | room := room
  · exact absurd fits (Nat.not_succ_le_zero _)
  have inside := Json.fieldsDepth_le_iff.mp (Nat.le_of_succ_le_succ fits)
  have sets := Document.asList?_document
    (fun set member room index fits =>
      ConditionSet.ofDocument?_toJson (storable.conditions set member) absent
        (path ++ [0, index]) fits)
    (inside ("condition_sets", .list (block.conditionSets.map ConditionSet.toJson)) (by simp))
  have actions := Document.asList?_document
    (fun action member room index fits =>
      Action.ofDocument?_toJson (storable.actions action member) absent (path ++ [1, index]) fits)
    (inside ("actions", .list (block.actions.map Action.toJson)) (by simp))
  unfold ofDocument? toJson
  rw [Document.asRecord?_document (by rfl) (by decide)]
  simp [Record.withDefault, Record.required, List.lookup_cons, sets, actions]

end Storable

end RuleBlock

/-! ### Rule sets -/

namespace RuleSet

/-- A rule set whose keyword arguments can be carried by JSON and whose points in time are read back
from their texts. -/
structure Storable (ruleSet : RuleSet) : Prop where
  signalKwargs : ruleSet.signalKwargs.Storable
  blocks : ∀ block ∈ ruleSet.ruleBlocks, block.Storable
  createdAt : Timestamp.ofText? ruleSet.createdAt.display = some ruleSet.createdAt
  updatedAt : Timestamp.ofText? ruleSet.updatedAt.display = some ruleSet.updatedAt

namespace Storable

variable {ruleSet : RuleSet} (storable : ruleSet.Storable)

include storable

theorem everyReal_toJson : ruleSet.toJson.EveryReal Json.Legible := by
  refine ⟨trivial, trivial, trivial, Json.everyReal_ofOptionalText _, trivial,
    storable.signalKwargs.everyReal_toJson, trivial, trivial, trivial, ?_, trivial, trivial,
    trivial⟩
  exact Json.everyItemReal_iff.mpr <| List.forall_mem_map.mpr fun block member =>
    (storable.blocks block member).everyReal_toJson

/-- A rule set is read back from its document. -/
theorem ofDocument?_toJson (absent : Absent) (path : List Nat) {room : Nat}
    (fits : ruleSet.toJson.depth ≤ room) :
    ofDocument? absent path room ruleSet.toJson.document = some ruleSet := by
  obtain _ | room := room
  · exact absurd fits (Nat.not_succ_le_zero _)
  have inside := Json.fieldsDepth_le_iff.mp (Nat.le_of_succ_le_succ fits)
  have kwargs := storable.signalKwargs.asKwargs?_toJson
    (inside ("signal_kwargs", Kwargs.toJson ruleSet.signalKwargs) (by simp))
  have blocks := Document.asList?_document
    (fun block member room index fits =>
      (storable.blocks block member).ofDocument?_toJson absent (path ++ [index]) fits)
    (inside ("rule_blocks", .list (ruleSet.ruleBlocks.map RuleBlock.toJson)) (by simp))
  unfold ofDocument? toJson
  rw [Document.asRecord?_document (by rfl) (by decide)]
  simp [Record.withDefault, Record.required, List.lookup_cons, kwargs, blocks, storable.createdAt,
    storable.updatedAt, Document.optional_ofOptionalText ruleSet.notes]

/-- A rule set is read back from its text. -/
theorem ofText?_render (absent : Absent) (fits : ruleSet.toJson.depth ≤ Json.nestingLimit) :
    ofText? absent ruleSet.toJson.render = some ruleSet := by
  unfold ofText?
  rw [Json.ofText?_render _ storable.everyReal_toJson]
  exact storable.ofDocument?_toJson absent [] fits

end Storable

end RuleSet

namespace Compiler

variable {World : Type}

/-- A rule set that is stored as JSON is read back, and the compiler makes of the text what it makes
of the rule set. What it compiled in between moves the version on and changes nothing else. -/
theorem compileText_stored (compiler : Compiler World) (absent : Absent) (ruleSet : RuleSet)
    (storable : ruleSet.Storable) (fits : ruleSet.toJson.depth ≤ Json.nestingLimit) :
    RuleSet.ofText? absent ruleSet.toJson.render = some ruleSet ∧
    compiler.compileText absent ruleSet.toJson.render = compiler.compile ruleSet ∧
    ∀ count, ((compiler.advanced count).compileText absent ruleSet.toJson.render).1 =
      (fun compiled => { compiled with version := compiled.version + count }) <$>
        (compiler.compile ruleSet).1 := by
  have read := storable.ofText?_render absent fits
  have compiled (other : Compiler World) :
      other.compileText absent ruleSet.toJson.render = other.compile ruleSet := by
    unfold compileText
    rw [read]
  refine ⟨read, compiled compiler, fun count => ?_⟩
  rw [compiled, compile_fst, compile_fst, check_advanced]

/-- A rule set with empty identifiers, an empty parent, a name of a quote and a newline, and numbers
in its keyword arguments. -/
def oddRuleSet : RuleSet where
  id := ""
  name := "\"\n"
  signalKwargs := [("a.b", .number Value.minusOneAndAHalf)]
  variablesProvider := "null"
  actionsProvider := ""
  ruleBlocks := [{
    id := "", name := ""
    conditionSets := [{
      id := "", name := "", combinationRule := "", parent := some ""
      conditions := [{ id := "", propertyMethod := "", comparisonOperator := "eq" }] }]
    actions := [{ id := "", actionMethod := "", actionKwargs := [("", .list [])] }] }]
  createdAt := ⟨0, 0⟩
  updatedAt := ⟨-1, 1000000⟩

theorem compileText_stored_oddRuleSet :
    RuleSet.ofText? ⟨fun _ => "fresh", ⟨0, 0⟩⟩ oddRuleSet.toJson.render = some oddRuleSet ∧
      Sales.compiler.compileText ⟨fun _ => "fresh", ⟨0, 0⟩⟩ oddRuleSet.toJson.render =
        Sales.compiler.compile oddRuleSet := by
  have number : Value.minusOneAndAHalf.isFinite = true := by decide +kernel
  have nothing : Kwargs.Storable [] := ⟨⟨Fields.sorted_nil, trivial⟩, trivial, trivial⟩
  have single {name : String} {value : Value} (ordered : value.Ordered)
      (finite : value.EveryNumber fun number => number.isFinite = true)
      (legible : value.EveryNumber Json.Legible) : Kwargs.Storable [(name, value)] :=
    ⟨⟨List.pairwise_singleton _ _, ordered, trivial⟩, ⟨finite, trivial⟩, ⟨legible, trivial⟩⟩
  have storable : oddRuleSet.Storable := by
    refine ⟨single trivial number Value.legible_minusOneAndAHalf, ?_, by decide +kernel,
      by decide +kernel⟩
    refine List.forall_mem_singleton.mpr ⟨?_, ?_⟩
    · exact List.forall_mem_singleton.mpr (List.forall_mem_singleton.mpr nothing)
    · exact List.forall_mem_singleton.mpr (single trivial trivial trivial)
  obtain ⟨read, compiled, -⟩ :=
    compileText_stored Sales.compiler ⟨fun _ => "fresh", ⟨0, 0⟩⟩ oddRuleSet storable
      (by decide +kernel)
  exact ⟨read, compiled⟩

end Compiler

end Rulebook
