/-
This file says what the evaluation of a block asks of the variables. Variables can be made to keep a
record: they answer as before, and in the world besides stands every property they were asked for,
with its arguments, whether they could answer or not. An evaluation with the record ends as the one
without it and leaves the same world, so the record tells what any evaluation asks.

An evaluation that ends well asks once for every condition of the block, in one order that is fixed
in advance: sets on top in order, and in a set its own conditions before the sets inside it. An
evaluation that fails asks in the same order up to the first condition that fails, and none after
it. Whether a condition fails depends on what is read and on its operator, so the evaluation fails
exactly if a condition does, whatever the combination rules are.
-/
import Rulebook.Proofs.Meaning

namespace Rulebook

variable {World : Type}

/-! ### Variables that keep a record -/

/-- What variables are asked: a property and its arguments. -/
abbrev Request := String × Kwargs

/-- What the evaluation of a condition asks. -/
def CompiledCondition.request (condition : CompiledCondition) : Request :=
  (condition.property, condition.kwargs)

/-- The variables with a record, beside the world, of what they were asked. -/
def VariablesInstance.recorded (vars : VariablesInstance World) :
    VariablesInstance (World × List Request) where
  get property kwargs := ExceptT.mk fun before =>
    let (answer, after) := (vars.get property kwargs).perform before.1
    (answer, after, before.2 ++ [(property, kwargs)])

theorem VariablesInstance.perform_get_recorded (vars : VariablesInstance World) (property : String)
    (kwargs : Kwargs) (before : World) (record : List Request) :
    (vars.recorded.get property kwargs).perform (before, record) =
      (((vars.get property kwargs).perform before).1,
        ((vars.get property kwargs).perform before).2, record ++ [(property, kwargs)]) := rfl

/-- A step beside a record ends as a step without it and leaves the same world. -/
def Effect.Mirrors {Error Result : Type} (recording : Effect (World × List Request) Error Result)
    (step : Effect World Error Result) : Prop :=
  ∀ before record, ∃ longer, recording.perform (before, record) =
    ((step.perform before).1, (step.perform before).2, longer)

namespace Effect.Mirrors

variable {Error First Second Item : Type}

theorem pure (result : First) :
    Effect.Mirrors (Pure.pure result : Effect (World × List Request) Error First)
      (Pure.pure result) := fun _ record => ⟨record, rfl⟩

theorem bind {recording : Effect (World × List Request) Error First}
    {step : Effect World Error First}
    {recordingNext : First → Effect (World × List Request) Error Second}
    {next : First → Effect World Error Second} (first : recording.Mirrors step)
    (rest : ∀ result, (recordingNext result).Mirrors (next result)) :
    Effect.Mirrors (recording >>= recordingNext) (step >>= next) := by
  intro before record
  obtain ⟨longer, firstEnds⟩ := first before record
  rw [Effect.perform_bind, Effect.perform_bind, firstEnds]
  rcases step.perform before with ⟨error | result, reached⟩
  · exact ⟨longer, rfl⟩
  · exact rest result reached longer

theorem alikeInSequence :
    AlikeInSequence fun Result (recording : Effect (World × List Request) Error Result) step =>
      recording.Mirrors step where
  pure := pure
  bind := bind

theorem mapM {recording : Item → Effect (World × List Request) Error First}
    {act : Item → Effect World Error First} (alike : ∀ item, (recording item).Mirrors (act item))
    (items : List Item) : Effect.Mirrors (items.mapM recording) (items.mapM act) :=
  alikeInSequence.mapM recording act (List.forall₂_same.mpr fun item _ => alike item)

theorem located {recording : Effect (World × List Request) Error First}
    {step : Effect World Error First} (alike : recording.Mirrors step) (fault : Error → RuleFault)
    (location : Location) :
    Effect.Mirrors (Effect.located fault location recording)
      (Effect.located fault location step) := by
  intro before record
  obtain ⟨longer, ends⟩ := alike before record
  exact ⟨longer, by rw [Effect.perform_located, Effect.perform_located, ends]⟩

variable {recording : Effect (World × List Request) Error First} {step : Effect World Error First}

/-- What a step does it does beside a record too. -/
theorem exists_perform_eq (alike : recording.Mirrors step) {before after : World}
    {outcome : Except Error First} (ended : step.perform before = (outcome, after))
    (record : List Request) :
    ∃ longer, recording.perform (before, record) = (outcome, after, longer) := by
  obtain ⟨longer, mirrored⟩ := alike before record
  rw [ended] at mirrored
  exact ⟨longer, mirrored⟩

/-- What a step does beside a record it does without. -/
theorem perform_eq (alike : recording.Mirrors step) {before after : World}
    {record longer : List Request} {outcome : Except Error First}
    (ended : recording.perform (before, record) = (outcome, after, longer)) :
    step.perform before = (outcome, after) := by
  obtain ⟨_, mirrored⟩ := alike before record
  obtain ⟨sameOutcome, sameAfter⟩ := Prod.mk.inj (mirrored.symm.trans ended)
  exact Prod.ext sameOutcome (Prod.mk.inj sameAfter).1

end Effect.Mirrors

theorem CompiledCondition.evaluate_mirrors (condition : CompiledCondition)
    (vars : VariablesInstance World) (location : Location) :
    Effect.Mirrors (condition.evaluate vars.recorded location)
      (condition.evaluate vars location) := by
  have reads : (vars.recorded.get condition.property condition.kwargs).Mirrors
      (vars.get condition.property condition.kwargs) := fun _ _ => ⟨_, rfl⟩
  refine .bind (reads.located _ _) fun left => ?_
  split
  · exact .pure _
  · exact fun _ record => ⟨record, rfl⟩

namespace CompiledBlock

theorem evaluateWithin_mirrors (block : CompiledBlock) (vars : VariablesInstance World)
    (levels index : Nat)
    (fits : Nesting.fits (block.sets.map (·.children)) levels index = true)
    (location : Location) :
    Effect.Mirrors (block.evaluateWithin vars.recorded levels index fits location)
      (block.evaluateWithin vars levels index fits location) := by
  induction levels generalizing index location with
  | zero => exact absurd fits (by simp [Nesting.fits])
  | succ levels inductionHypothesis =>
    obtain ⟨_, inside, unfolded⟩ := block.evaluateWithin_succ vars levels index fits location
    obtain ⟨_, _, recordedUnfolded⟩ :=
      block.evaluateWithin_succ vars.recorded levels index fits location
    rw [unfolded, recordedUnfolded]
    refine .bind (.mapM (fun condition => condition.evaluate_mirrors vars _) _) fun own => ?_
    refine .bind (.mapM (fun child => ?_) _) fun nested => .pure _
    exact inductionHypothesis child.1 (inside child.1 child.2) _

/-- Evaluating a block with a record gives what it gives without. -/
theorem allConditionsTrue_mirrors (block : CompiledBlock) (vars : VariablesInstance World)
    (location : Location) :
    Effect.Mirrors (block.allConditionsTrue vars.recorded location)
      (block.allConditionsTrue vars location) := by
  refine .bind (.mapM (fun root => ?_) _) fun results => .pure _
  exact block.evaluateWithin_mirrors vars _ root.1 _ location

end CompiledBlock

/-! ### Conditions that fail and conditions that do not -/

/-- In a world a condition fails: its property cannot be read, or its operator does not take what is
read. -/
inductive CompiledCondition.Fails (condition : CompiledCondition) (vars : VariablesInstance World)
    (before : World) : Prop where
  | accessor {cause : ProviderError} {after : World}
      (unread : (vars.get condition.property condition.kwargs).perform before =
        (.error cause, after))
  | operator {left : Value} {after : World} {mismatch : Mismatch}
      (read : (vars.get condition.property condition.kwargs).perform before = (.ok left, after))
      (refused : condition.operator.holds left condition.value = .error mismatch)

/-- Conditions are read and compared one after another, from one world to another, and none of them
fails. What the comparisons give does not matter. -/
inductive Passes (vars : VariablesInstance World) :
    List CompiledCondition → World → World → Prop where
  | none {world : World} : Passes vars [] world world
  | condition {condition : CompiledCondition} {rest : List CompiledCondition} {left : Value}
      {holds : Bool} {before reached after : World}
      (read : (vars.get condition.property condition.kwargs).perform before = (.ok left, reached))
      (compared : condition.operator.holds left condition.value = .ok holds)
      (others : Passes vars rest reached after) : Passes vars (condition :: rest) before after

namespace CompiledCondition

variable {condition : CompiledCondition} {vars : VariablesInstance World} {location : Location}
  {before after : World}

theorem evaluate_eq_ok_iff {holds : Bool} :
    (condition.evaluate vars location).perform before = (.ok holds, after) ↔
      ∃ left, (vars.get condition.property condition.kwargs).perform before = (.ok left, after) ∧
        condition.operator.holds left condition.value = .ok holds := by
  unfold evaluate
  simp only [Effect.perform_bind_eq_ok_iff, Effect.perform_located_eq_ok_iff]
  refine exists_congr fun left => ?_
  cases condition.operator.holds left condition.value with
  | ok result => simp [and_comm]
  | error mismatch =>
    simp only [reduceCtorEq, and_false, iff_false]
    rintro ⟨reached, -, impossible⟩
    exact nomatch impossible

theorem exists_error_iff :
    (∃ error after, (condition.evaluate vars location).perform before = (.error error, after)) ↔
      condition.Fails vars before := by
  unfold evaluate
  simp only [Effect.perform_bind_eq_error_iff, Effect.perform_located_eq_error_iff,
    Effect.perform_located_eq_ok_iff]
  constructor
  · rintro ⟨error, after, ⟨cause, unread, -⟩ | ⟨left, reached, read, failed⟩⟩
    · exact .accessor unread
    · split at failed
      · exact nomatch failed
      · next refused => exact .operator read refused
  · rintro (⟨unread⟩ | @⟨left, reached, mismatch, read, refused⟩)
    · exact ⟨_, _, Or.inl ⟨_, unread, rfl⟩⟩
    · refine ⟨.located (.ofMismatch condition.operator.id mismatch)
        { location with condition := some condition.id }, reached, Or.inr ⟨left, reached, read, ?_⟩⟩
      rw [refused]
      rfl

end CompiledCondition

namespace CompiledBlock

/-- Evaluating conditions one after another goes well exactly if none of them fails. -/
theorem perform_forM_evaluateIn_eq_ok_iff {vars : VariablesInstance World} {location : Location}
    {entries : List (CompiledConditionSet × CompiledCondition)} {before after : World} :
    Effect.perform (forM entries fun entry => (evaluateIn vars location entry).silent) before =
        (.ok (), after) ↔ Passes vars (entries.map (·.2)) before after := by
  induction entries generalizing before with
  | nil =>
    constructor
    · intro done
      obtain rfl : before = after := (Prod.mk.inj done).2
      exact .none
    · rintro ⟨⟩
      rfl
  | cons entry rest inductionHypothesis =>
    rw [List.forM_cons, Effect.perform_bind_eq_ok_iff, List.map_cons]
    constructor
    · rintro ⟨⟨⟩, reached, evaluated, others⟩
      obtain ⟨holds, evaluated⟩ := Effect.perform_silent_eq_ok_iff.mp evaluated
      obtain ⟨left, read, compared⟩ := CompiledCondition.evaluate_eq_ok_iff.mp evaluated
      exact .condition read compared (inductionHypothesis.mp others)
    · intro passes
      cases passes with
      | @condition _ _ left holds _ reached _ read compared others =>
        have evaluated : (evaluateIn vars location entry).perform before = (.ok holds, reached) :=
          CompiledCondition.evaluate_eq_ok_iff.mpr ⟨left, read, compared⟩
        exact ⟨(), reached, Effect.perform_silent_eq_ok_iff.mpr ⟨holds, evaluated⟩,
          inductionHypothesis.mpr others⟩

end CompiledBlock

/-- Conditions that pass beside a record are conditions that pass, and each adds what it asks. -/
theorem passes_recorded_iff {vars : VariablesInstance World} {conditions : List CompiledCondition}
    {before : World} {record : List Request} {after : World × List Request} :
    Passes vars.recorded conditions (before, record) after ↔
      Passes vars conditions before after.1 ∧
        after.2 = record ++ conditions.map (·.request) := by
  induction conditions generalizing before record with
  | nil =>
    constructor
    · rintro ⟨⟩
      exact ⟨.none, (List.append_nil record).symm⟩
    · rintro ⟨⟨⟩, same⟩
      obtain ⟨world, longer⟩ := after
      obtain rfl : longer = record := same.trans (List.append_nil record)
      exact .none
  | cons condition rest inductionHypothesis =>
    constructor
    · rintro (_ | ⟨read, compared, others⟩)
      rw [vars.perform_get_recorded] at read
      obtain ⟨answered, rfl⟩ := Prod.mk.inj read
      obtain ⟨passes, longer⟩ := inductionHypothesis.mp others
      refine ⟨.condition (Prod.ext answered rfl) compared passes, ?_⟩
      rw [longer, List.append_assoc]
      rfl
    · rintro ⟨passes, longer⟩
      cases passes with
      | @condition _ _ left _ _ reached _ read compared others =>
        have recorded : (vars.recorded.get condition.property condition.kwargs).perform
            (before, record) = (.ok left, reached, record ++ [condition.request]) := by
          rw [vars.perform_get_recorded, read]
          rfl
        refine .condition recorded compared (inductionHypothesis.mpr ⟨others, ?_⟩)
        rw [longer, List.append_assoc]
        rfl

theorem CompiledCondition.record_of_error {condition : CompiledCondition}
    {vars : VariablesInstance World} {location : Location} {before : World}
    {record : List Request} {error : RuleError} {after : World × List Request}
    (failed : (condition.evaluate vars.recorded location).perform (before, record) =
      (.error error, after)) :
    after.2 = record ++ [condition.request] := by
  unfold evaluate at failed
  rcases Effect.perform_bind_eq_error_iff.mp failed with
    readFailed | ⟨left, reached, read, compareFailed⟩
  · obtain ⟨cause, unread, -⟩ := Effect.perform_located_eq_error_iff.mp readFailed
    rw [vars.perform_get_recorded] at unread
    exact (Prod.mk.inj unread).2 ▸ rfl
  · have read := Effect.perform_located_eq_ok_iff.mp read
    rw [vars.perform_get_recorded] at read
    obtain rfl := (Prod.mk.inj read).2
    split at compareFailed
    · exact nomatch compareFailed
    · exact (Prod.mk.inj compareFailed).2 ▸ rfl

/-! ### The order in which a block is read -/

/-- Where the levels suffice, one more makes no difference. -/
theorem Nesting.preorder_succ {children : List (List Nat)} {levels index : Nat}
    (fitting : fits children levels index = true) :
    preorder children (levels + 1) index = preorder children levels index := by
  induction levels generalizing index with
  | zero => simp [fits] at fitting
  | succ levels inductionHypothesis =>
    rw [preorder, preorder]
    refine congrArg _ (List.flatMap_congr fun child member => ?_)
    exact inductionHypothesis (fits_inner fitting member)

namespace CompiledBlock

/-- The conditions in and inside the set at a position, in the order in which they are evaluated,
each with its set. -/
def listingFrom (block : CompiledBlock) (index : Nat) :
    List (CompiledConditionSet × CompiledCondition) :=
  (Nesting.preorder (block.sets.map (·.children)) block.sets.length index).flatMap
    block.conditionsAt

/-- The block whose sets combine by other rules. -/
def withRules (block : CompiledBlock) (rules : CompiledConditionSet → Combination) :
    CompiledBlock where
  id := block.id
  name := block.name
  roots := block.roots
  sets := block.sets.map fun set => { set with rule := rules set }
  actions := block.actions
  roots_lt := by simpa using block.roots_lt
  nests := by simpa [Function.comp_def] using block.nests

/-- The conditions of a block stand in a fixed order: sets on top in order, in a set its own
conditions and then the sets inside it. Every condition of every set occurs in it once. -/
structure ListsOnce (block : CompiledBlock) : Prop where
  onTop : block.listing = block.roots.flatMap block.listingFrom
  inSet : ∀ (index : Nat) (set : CompiledConditionSet), block.sets[index]? = some set →
    block.listingFrom index =
      set.conditions.map (fun condition => (set, condition)) ++
        set.children.flatMap block.listingFrom
  once : List.Perm block.listing
    (block.sets.flatMap fun set => set.conditions.map fun condition => (set, condition))

/-- What the evaluation of a block does from a world, and what it asks on the way. -/
structure ReadsInOrder (block : CompiledBlock) (vars : VariablesInstance World)
    (location : Location) (before : World) : Prop where
  /-- An evaluation that ends well asks for every condition, in order. -/
  all : ∀ holds after,
    (block.allConditionsTrue vars location).perform before = (.ok holds, after) →
      Passes vars (block.listing.map (·.2)) before after ∧
      (block.allConditionsTrue vars.recorded location).perform (before, []) =
        (.ok holds, after, block.listing.map (·.2.request))
  /-- An evaluation that fails asks up to the first condition that fails. -/
  upToFailure : ∀ error after,
    (block.allConditionsTrue vars location).perform before = (.error error, after) →
      ∃ earlier entry later reached, block.listing = earlier ++ entry :: later ∧
        Passes vars (earlier.map (·.2)) before reached ∧ entry.2.Fails vars reached ∧
        (block.allConditionsTrue vars.recorded location).perform (before, []) =
          (.error error, after, (earlier ++ [entry]).map (·.2.request))
  /-- It fails exactly if a condition does where it is reached. -/
  fails_iff : (∃ error after,
      (block.allConditionsTrue vars location).perform before = (.error error, after)) ↔
    ∃ earlier entry later reached, block.listing = earlier ++ entry :: later ∧
      Passes vars (earlier.map (·.2)) before reached ∧ entry.2.Fails vars reached
  /-- For variables that answer alike every time it does not matter where that is. -/
  fails_iff_of_alike : ∀ answers, vars.AnswersBy answers →
    ((∃ error after,
        (block.allConditionsTrue vars location).perform before = (.error error, after)) ↔
      ∃ set ∈ block.sets, ∃ condition ∈ set.conditions, condition.Fails vars before)
  /-- Other rules change nothing in what is done. -/
  anyRules : ∀ rules, ((block.withRules rules).allConditionsTrue vars location).silent =
    (block.allConditionsTrue vars location).silent

variable {block : CompiledBlock}

theorem listing_eq (block : CompiledBlock) :
    block.listing = block.roots.flatMap block.listingFrom := by
  unfold listing preorder
  rw [List.flatMap_assoc]
  rfl

/-- In a set its own conditions come first and then the sets inside it. -/
theorem listingFrom_eq {index : Nat} {set : CompiledConditionSet}
    (found : block.sets[index]? = some set) :
    block.listingFrom index =
      set.conditions.map (fun condition => (set, condition)) ++
        set.children.flatMap block.listingFrom := by
  obtain ⟨bound, -⟩ := List.getElem?_eq_some_iff.mp found
  obtain ⟨levels, size⟩ := Nat.exists_eq_add_of_le' (Nat.lt_of_le_of_lt (Nat.zero_le _) bound)
  have fits := block.nests index bound
  have own : block.conditionsAt index =
      set.conditions.map fun condition => (set, condition) := by
    simp [conditionsAt, found]
  have children : Nesting.inner (block.sets.map (·.children)) index = set.children := by
    simp [Nesting.inner, found]
  unfold listingFrom
  rw [size] at fits ⊢
  rw [Nesting.preorder, List.flatMap_cons, own, children, List.flatMap_assoc]
  refine congrArg _ (List.flatMap_congr fun child member => ?_)
  rw [Nesting.preorder_succ (Nesting.fits_inner fits (children ▸ member))]

/-- A block that was compiled lists every condition once. -/
theorem listsOnce_of_compile {source : RuleBlock} {operators : OperatorRegistry}
    {catalog : Catalog} {location : Location}
    (accepted : source.compile operators catalog location = .ok block) : block.ListsOnce where
  onTop := block.listing_eq
  inSet _ _ found := listingFrom_eq found
  once := listing_perm accepted

theorem listing_withRules (rules : CompiledConditionSet → Combination) :
    (block.withRules rules).listing =
      block.listing.map fun entry => ({ entry.1 with rule := rules entry.1 }, entry.2) := by
  have children : (block.withRules rules).sets.map (·.children) = block.sets.map (·.children) := by
    simp [withRules, Function.comp_def]
  have size : (block.withRules rules).sets.length = block.sets.length := by simp [withRules]
  unfold listing preorder
  rw [children, size, List.map_flatMap]
  refine List.flatMap_congr fun index _ => ?_
  unfold conditionsAt withRules
  cases found : block.sets[index]? <;> simp [found]

variable {vars : VariablesInstance World} {location : Location} {before after : World}

/-- An evaluation passes all conditions of its block exactly if it ends well. -/
theorem exists_ok_iff :
    (∃ holds, (block.allConditionsTrue vars location).perform before = (.ok holds, after)) ↔
      Passes vars (block.listing.map (·.2)) before after := by
  rw [← Effect.perform_silent_eq_ok_iff, silent_allConditionsTrue,
    perform_forM_evaluateIn_eq_ok_iff]

/-- An evaluation that fails does so at the first condition that fails. -/
theorem allConditionsTrue_eq_error_iff {error : RuleError} :
    (block.allConditionsTrue vars location).perform before = (.error error, after) ↔
      ∃ earlier entry later reached, block.listing = earlier ++ entry :: later ∧
        Passes vars (earlier.map (·.2)) before reached ∧
        (evaluateIn vars location entry).perform reached = (.error error, after) := by
  rw [← Effect.perform_silent_eq_error_iff, silent_allConditionsTrue,
    Effect.perform_forM_eq_error_iff]
  simp only [perform_forM_evaluateIn_eq_ok_iff, Effect.perform_silent_eq_error_iff]

theorem exists_error_iff :
    (∃ error after,
        (block.allConditionsTrue vars location).perform before = (.error error, after)) ↔
      ∃ earlier entry later reached, block.listing = earlier ++ entry :: later ∧
        Passes vars (earlier.map (·.2)) before reached ∧ entry.2.Fails vars reached := by
  simp only [allConditionsTrue_eq_error_iff]
  constructor
  · rintro ⟨error, after, earlier, entry, later, reached, cut, passes, failed⟩
    exact ⟨earlier, entry, later, reached, cut, passes,
      CompiledCondition.exists_error_iff.mp ⟨error, after, failed⟩⟩
  · rintro ⟨earlier, entry, later, reached, cut, passes, fails⟩
    obtain ⟨error, after, failed⟩ := CompiledCondition.exists_error_iff.mpr fails
    exact ⟨error, after, earlier, entry, later, reached, cut, passes, failed⟩

end CompiledBlock

/-- What answers alike every time fails in every world or in none. -/
theorem CompiledCondition.Fails.of_alike {condition : CompiledCondition}
    {vars : VariablesInstance World} {answers : Answers} (alike : vars.AnswersBy answers)
    {before : World} (fails : condition.Fails vars before) (world : World) :
    condition.Fails vars world := by
  let answer := (vars.get condition.property condition.kwargs).perform world
  have same : answer.1 = ((vars.get condition.property condition.kwargs).perform before).1 :=
    (alike condition.property condition.kwargs world).trans
      (alike condition.property condition.kwargs before).symm
  cases fails with
  | @accessor cause _ unread =>
    rw [unread] at same
    have unreadThere : answer = (.error cause, answer.2) := Prod.ext same rfl
    exact .accessor unreadThere
  | @operator left _ _ read refused =>
    rw [read] at same
    have readThere : answer = (.ok left, answer.2) := Prod.ext same rfl
    exact .operator readThere refused

/-- Conditions that pass did not fail where they were reached. -/
theorem Passes.exists_not_fails {vars : VariablesInstance World}
    {conditions : List CompiledCondition} {before after : World}
    (passes : Passes vars conditions before after) (condition : CompiledCondition)
    (member : condition ∈ conditions) : ∃ reached, ¬ condition.Fails vars reached := by
  induction passes with
  | none => cases member
  | @condition head _ left holds before _ _ read compared _ inductionHypothesis =>
    rcases List.mem_cons.mp member with rfl | later
    · refine ⟨before, fun fails => ?_⟩
      cases fails with
      | accessor unread => exact nomatch read.symm.trans unread
      | operator again refused =>
        obtain rfl := Except.ok.inj (Prod.mk.inj (read.symm.trans again)).1
        exact nomatch compared.symm.trans refused
    · exact inductionHypothesis later

namespace CompiledBlock

variable {block : CompiledBlock} {vars : VariablesInstance World} {location : Location}
  {before : World}

theorem exists_error_iff_of_alike (lists : block.ListsOnce) {answers : Answers}
    (alike : vars.AnswersBy answers) :
    (∃ error after,
        (block.allConditionsTrue vars location).perform before = (.error error, after)) ↔
      ∃ set ∈ block.sets, ∃ condition ∈ set.conditions, condition.Fails vars before := by
  constructor
  · intro failed
    obtain ⟨earlier, entry, later, reached, cut, -, fails⟩ := exists_error_iff.mp failed
    have listed : (entry.1, entry.2) ∈ block.listing :=
      cut ▸ List.mem_append_right earlier List.mem_cons_self
    obtain ⟨inBlock, inSet⟩ := mem_listing listed
    exact ⟨entry.1, inBlock, entry.2, inSet, fails.of_alike alike before⟩
  · rintro ⟨set, inBlock, condition, inSet, fails⟩
    have listed : (set, condition) ∈ block.listing := lists.once.mem_iff.mpr
      (List.mem_flatMap.mpr ⟨set, inBlock, List.mem_map.mpr ⟨condition, inSet, rfl⟩⟩)
    rcases ended : (block.allConditionsTrue vars location).perform before with
      ⟨error | holds, after⟩
    · exact ⟨error, after, rfl⟩
    · have passes := exists_ok_iff.mp ⟨holds, ended⟩
      obtain ⟨reached, holdsThere⟩ :=
        passes.exists_not_fails condition (List.mem_map.mpr ⟨_, listed, rfl⟩)
      exact absurd (fails.of_alike alike reached) holdsThere

theorem readsInOrder (lists : block.ListsOnce) (vars : VariablesInstance World)
    (location : Location) (before : World) : block.ReadsInOrder vars location before where
  all holds after ended := by
    obtain ⟨record, mirrored⟩ :=
      (block.allConditionsTrue_mirrors vars location).exists_perform_eq ended []
    obtain ⟨passes, same⟩ := passes_recorded_iff.mp (exists_ok_iff.mp ⟨holds, mirrored⟩)
    obtain rfl : record = _ := same
    rw [List.nil_append, List.map_map] at mirrored
    exact ⟨passes, mirrored⟩
  upToFailure error after ended := by
    obtain ⟨record, mirrored⟩ :=
      (block.allConditionsTrue_mirrors vars location).exists_perform_eq ended []
    obtain ⟨earlier, entry, later, ⟨reached, soFar⟩, cut, passed, failed⟩ :=
      allConditionsTrue_eq_error_iff.mp mirrored
    obtain ⟨passes, sameSoFar⟩ := passes_recorded_iff.mp passed
    have alone := (entry.2.evaluate_mirrors vars _).perform_eq failed
    obtain rfl : soFar = _ := sameSoFar
    obtain rfl : record = _ := CompiledCondition.record_of_error failed
    rw [List.nil_append, List.map_map] at mirrored
    refine ⟨earlier, entry, later, reached, cut, passes,
      CompiledCondition.exists_error_iff.mp ⟨error, after, alone⟩, ?_⟩
    rw [List.map_append]
    exact mirrored
  fails_iff := exists_error_iff
  fails_iff_of_alike _ alike := exists_error_iff_of_alike lists alike
  anyRules rules := by
    rw [silent_allConditionsTrue, silent_allConditionsTrue, listing_withRules, List.forM_map]
    rfl

end CompiledBlock

/-- In a rule set that was compiled the conditions of every block stand in a fixed order, each once,
and an evaluation of the block, with any variables, asks for them in this order: for all of them,
or for those up to the first that fails. -/
theorem CompiledRuleSet.evaluation_reads_in_order {compiler : Compiler World} {source : RuleSet}
    {ruleSet : CompiledRuleSet World} (accepted : (compiler.compile source).1 = .ok ruleSet)
    {block : CompiledBlock} (member : block ∈ ruleSet.blocks) :
    block.ListsOnce ∧
      ∀ (Other : Type) (vars : VariablesInstance Other) (location : Location) (before : Other),
        block.ReadsInOrder vars location before := by
  obtain ⟨_, _, _, blockAccepted⟩ := Compiler.exists_compile_of_mem accepted member
  have lists := CompiledBlock.listsOnce_of_compile blockAccepted
  exact ⟨lists, fun _ vars location before => CompiledBlock.readsInOrder lists vars location before⟩

theorem CompiledRuleSet.evaluation_reads_in_order_innerFirst :
    ∃ compiled block, (Compiler.ofSales.compile .innerFirst).1 = .ok compiled ∧
      compiled.blocks = [block] ∧ block.ListsOnce ∧
        ∀ (Other : Type) (vars : VariablesInstance Other) (location : Location) (before : Other),
          block.ReadsInOrder vars location before := by
  obtain ⟨compiled, block, accepted, single, -⟩ := Compiler.ofSales_accepts_innerFirst
  exact ⟨compiled, block, accepted, single,
    evaluation_reads_in_order accepted (single ▸ List.mem_singleton_self block)⟩

end Rulebook
