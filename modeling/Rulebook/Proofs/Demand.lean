/-
This file says which events a rule set with demands on the arguments reacts to. Such demands are the
entries of an object. If they are entries of the arguments too, one would have the rule set
triggered by the event; if an argument of a name is demanded to be something else, not.

The names of demands are read as paths, though. A name without a point is a path of one part, which
leads to the argument of this name, and all is as expected. A name with a point leads into other
arguments. So the demands with points decide: they are met if their paths lead to the values that
are demanded, whatever the arguments of their names are.
-/
import Rulebook.Proofs.Conversion
import Rulebook.Proofs.Dispatch
import Rulebook.Proofs.Tables

namespace Rulebook

variable {World : Type}

/-! ### Names as paths -/

/-- Without points a path has one part. -/
theorem pathParts_of_no_point {characters : List Char} (noPoint : '.' ∉ characters) :
    pathParts characters = [characters] := by
  induction characters with
  | nil => rfl
  | cons character rest inductionHypothesis =>
    obtain ⟨other, restNoPoint⟩ := not_or.mp (mt List.mem_cons.mpr noPoint)
    rw [pathParts, inductionHypothesis restNoPoint]
    exact Ne.symm other

namespace EventArgs

variable {args : EventArgs} {fields : Fields Json} {name : String} {json : Json}

/-- A name without a point leads to the argument of this name. -/
theorem field?_of_no_point (data : args.data = .map fields) (noPoint : '.' ∉ name.toList) :
    args.field? name = fields.find? name := by
  unfold field?
  rw [pathParts_of_no_point noPoint, data, Json.descend?, Json.child?, String.ofList_toList]
  exact Option.bind_fun_some _

theorem value_of_no_point (data : args.data = .map fields) (noPoint : '.' ∉ name.toList)
    (found : fields.find? name = some json) : args.value name = .ofJson json := by
  unfold value
  rw [field?_of_no_point data noPoint, found]

end EventArgs

/-! ### Triggered or not -/

namespace CompiledRuleSet

variable {ruleSet : CompiledRuleSet World} {event : Event}

/-- Wherever the rule set stands in a table, the event triggers it in its turn, and the report tells
how that ended. -/
def TriggeredBy (ruleSet : CompiledRuleSet World) (event : Event) : Prop :=
  ∀ earlier later before, ∃ first reached result left last after,
    ((DispatchTable.build (earlier ++ ruleSet :: later)).dispatch event).run before =
      (⟨event.signal, first ++ ⟨ruleSet.id, result⟩ :: last⟩, after) ∧
    Triggers event.args (earlier.filter (·.Concerns event)) before first reached ∧
    (ruleSet.trigger event.args).perform reached = (result, left) ∧
    Triggers event.args (later.filter (·.Concerns event)) left last after

/-- Wherever the rule set stands in a table, a dispatch of the event is as without it. -/
def PassedBy (ruleSet : CompiledRuleSet World) (event : Event) : Prop :=
  ∀ earlier later, (DispatchTable.build (earlier ++ ruleSet :: later)).dispatch event =
    (DispatchTable.build (earlier ++ later)).dispatch event

theorem Concerns.triggeredBy (concerns : ruleSet.Concerns event) : ruleSet.TriggeredBy event := by
  intro earlier later before
  obtain ⟨first, reached, ahead⟩ :=
    Triggers.exists_of_ruleSets event.args (earlier.filter (·.Concerns event)) before
  obtain ⟨last, after, behind⟩ := Triggers.exists_of_ruleSets event.args
    (later.filter (·.Concerns event)) ((ruleSet.trigger event.args).perform reached).2
  have listed : (ruleSet :: later).filter (·.Concerns event) =
      ruleSet :: later.filter (·.Concerns event) :=
    List.filter_cons_of_pos (decide_eq_true concerns)
  refine ⟨first, reached, _, _, last, after, ?_, ahead, rfl, behind⟩
  refine DispatchTable.dispatch_build_run_of_triggers ?_
  rw [List.filter_append, listed]
  exact Triggers.append_iff.mpr ⟨_, reached, _, rfl, ahead, .cons rfl behind⟩

theorem passedBy_of_not_concerns (other : ¬ ruleSet.Concerns event) : ruleSet.PassedBy event := by
  intro earlier later
  have listed : (ruleSet :: later).filter (·.Concerns event) =
      later.filter (·.Concerns event) :=
    List.filter_cons_of_neg (mt of_decide_eq_true other)
  unfold DispatchTable.dispatch
  simp only [DispatchTable.matching_build, List.filter_append, listed]

/-- A demand that is not met. -/
theorem passedBy_of_mem {entry : String × Value} (member : entry ∈ ruleSet.signalKwargs)
    (differs : (event.args.value entry.1).same entry.2 = false) : ruleSet.PassedBy event :=
  passedBy_of_not_concerns fun concerns => Bool.false_ne_true (differs ▸ concerns.2.2 entry member)

end CompiledRuleSet

/-! ### Demands taken from an event -/

theorem Json.everyFieldReal_iff {holds : Number → Prop} {fields : Fields Json} :
    EveryFieldReal holds fields ↔ ∀ entry ∈ fields, entry.2.EveryReal holds := by
  induction fields with
  | nil => exact iff_of_true trivial nofun
  | cons entry rest inductionHypothesis =>
    rw [EveryFieldReal, List.forall_mem_cons, inductionHypothesis]

theorem Fields.mem_of_find?_eq_some {α : Type} {fields : Fields α} {name : String} {entry : α}
    (found : fields.find? name = some entry) : (name, entry) ∈ fields := by
  obtain ⟨before, after, parts, -⟩ := List.lookup_eq_some_iff.mp found
  exact parts ▸ List.mem_append_right before List.mem_cons_self

namespace CompiledRuleSet

/-- The demands of a rule set are written as an object. If its entries are entries of the arguments
of an event, the rule set is triggered just if every name with a point, as a path, leads to the
value that is demanded. A name without a point leads to the argument of this name, so if that is
another value the rule set is passed by. -/
theorem reacts_to_demands (ruleSet : CompiledRuleSet World) (event : Event) {fields : Fields Json}
    (data : event.args.data = .map fields) (numbers : (Json.map fields).EveryReal (· ≠ .nan))
    {document : Document} {room : Nat}
    (written : document.asKwargs? room = some ruleSet.signalKwargs) :
    ∃ demands, Json.ofDocument? room document = some (.map demands) ∧
      (ruleSet.enabled = true → ruleSet.signal = event.signal →
        (∀ demand ∈ demands, fields.find? demand.1 = some demand.2) →
        ((∀ demand ∈ demands, '.' ∈ demand.1.toList →
            (event.args.value demand.1).same (.ofJson demand.2) = true) →
          ruleSet.TriggeredBy event) ∧
        ((∃ demand ∈ demands, '.' ∈ demand.1.toList ∧
            (event.args.value demand.1).same (.ofJson demand.2) = false) →
          ruleSet.PassedBy event)) ∧
      ∀ demand ∈ demands, '.' ∉ demand.1.toList → ∀ json, fields.find? demand.1 = some json →
        (Value.ofJson json).same (.ofJson demand.2) = false → ruleSet.PassedBy event := by
  obtain ⟨demands, isJson, kwargs⟩ := Document.asKwargs?_eq_some_iff.mp written
  have demanded : ∀ {demand}, demand ∈ demands →
      (demand.1, Value.ofJson demand.2) ∈ ruleSet.signalKwargs := by
    intro demand member
    rw [kwargs]
    exact List.mem_map_of_mem member
  refine ⟨demands, isJson, fun enabled listens taken => ⟨fun pointed => ?_, ?_⟩, ?_⟩
  · refine Concerns.triggeredBy ⟨enabled, listens, fun entry member => ?_⟩
    rw [kwargs] at member
    obtain ⟨demand, isDemand, rfl⟩ := List.mem_map.mp member
    by_cases point : '.' ∈ demand.1.toList
    · exact pointed demand isDemand point
    · have found := taken demand isDemand
      rw [EventArgs.value_of_no_point data point found]
      refine Value.same_ofJson demand.2 ?_
      exact Json.everyFieldReal_iff.mp numbers _ (Fields.mem_of_find?_eq_some found)
  · rintro ⟨demand, member, -, differs⟩
    exact passedBy_of_mem (demanded member) differs
  · intro demand member noPoint json found differs
    refine passedBy_of_mem (demanded member) ?_
    rwa [EventArgs.value_of_no_point data noPoint found]

end CompiledRuleSet

/-! ### Senders -/

/-- The demands of a rule set are kept when it is compiled. -/
theorem Compiler.demands_of_compile {compiler : Compiler World} {ruleSet : RuleSet}
    {compiled : CompiledRuleSet World} (accepted : (compiler.compile ruleSet).1 = .ok compiled) :
    compiled.enabled = ruleSet.enabled ∧ compiled.signal = ruleSet.signal ∧
      compiled.signalKwargs = ruleSet.signalKwargs := by
  rw [compile_fst] at accepted
  obtain ⟨vars, actions, blocks, -, -, -, rfl⟩ := check_eq_ok_iff.mp accepted
  exact ⟨rfl, rfl, rfl⟩

/-- A rule set that demands one argument. -/
def RuleSet.demanding (name sender : String) : RuleSet :=
  { RuleSet.spotChanges with signal := "spot", signalKwargs := [(name, .text sender)] }

/-- Whatever is demanded, the compiler accepts it. -/
theorem RuleSet.exists_compile_demanding (name sender : String) :
    ∃ compiled, (Sales.compiler.compile (demanding name sender)).1 = .ok compiled := by
  have accepts : (Sales.compiler.check .spotChanges).isOk = true := by decide +kernel
  obtain ⟨ruleSet, accepted⟩ := exists_of_isOk accepts
  obtain ⟨vars, actions, blocks, varsFound, actionsFound, compiled, -⟩ :=
    Compiler.check_eq_ok_iff.mp accepted
  exact ⟨_, Compiler.compile_fst.trans (Compiler.check_eq_ok_iff.mpr
    ⟨vars, actions, blocks, varsFound, actionsFound, compiled, rfl⟩)⟩

/-- An object with one sender. -/
def Document.sent (name sender : String) : Document := .object [(some name, .text (some sender))]

/-- The event that carries what is demanded. -/
def Event.sent (name sender : String) : Event := ⟨"spot", ⟨.map [(name, .text sender)]⟩⟩

theorem CompiledRuleSet.reacts_to_demands_sender :
    ∃ ruleSet, (Sales.compiler.compile (.demanding "sender" "Sales")).1 = .ok ruleSet ∧
      ruleSet.TriggeredBy (.sent "sender" "Sales") := by
  obtain ⟨ruleSet, accepted⟩ := RuleSet.exists_compile_demanding "sender" "Sales"
  obtain ⟨enabled, signal, kwargs⟩ := Compiler.demands_of_compile accepted
  have written : (Document.sent "sender" "Sales").asKwargs? 1 = some ruleSet.signalKwargs := by
    rw [kwargs]
    rfl
  obtain ⟨demands, isJson, taken, -⟩ := ruleSet.reacts_to_demands
    (.sent "sender" "Sales") rfl ⟨trivial, trivial⟩ written
  obtain rfl : [("sender", .text "Sales")] = demands := Json.map.inj (Option.some.inj isJson)
  refine ⟨ruleSet, accepted, (taken enabled signal ?_).1 ?_⟩
  · rintro demand member
    obtain rfl := List.mem_singleton.mp member
    rfl
  · rintro demand member point
    obtain rfl := List.mem_singleton.mp member
    exact absurd point (by decide)

/-- What is demanded is read from the text that gives the arguments of the event, and the rule set
is not triggered: its name has a point. -/
theorem CompiledRuleSet.passes_by_own_demands :
    ∃ ruleSet, (Sales.compiler.compile (.demanding "spot.sender" "Sales")).1 = .ok ruleSet ∧
      ruleSet.enabled = true ∧ ruleSet.signal = "spot" ∧
      (Document.sent "spot.sender" "Sales").asKwargs? 1 = some ruleSet.signalKwargs ∧
      Json.ofDocument? 1 (.sent "spot.sender" "Sales") =
        some (Event.sent "spot.sender" "Sales").args.data ∧
      ∀ before,
        ((DispatchTable.build [ruleSet]).dispatch (.sent "spot.sender" "Sales")).run before =
          (⟨"spot", []⟩, before) := by
  obtain ⟨ruleSet, accepted⟩ := RuleSet.exists_compile_demanding "spot.sender" "Sales"
  obtain ⟨enabled, signal, kwargs⟩ := Compiler.demands_of_compile accepted
  refine ⟨ruleSet, accepted, enabled, signal, ?_, rfl, fun before => ?_⟩
  · rw [kwargs]
    rfl
  · have demanded : ("spot.sender", Value.text "Sales") ∈ ruleSet.signalKwargs := by
      rw [kwargs]
      exact List.mem_singleton_self _
    have passed : ruleSet.PassedBy (.sent "spot.sender" "Sales") :=
      passedBy_of_mem demanded (by decide)
    have alone := passed [] []
    rw [List.nil_append, List.nil_append] at alone
    rw [alone]
    rfl

end Rulebook
