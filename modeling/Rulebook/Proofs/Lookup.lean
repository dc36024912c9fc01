/-
This file says that a table of rule sets answers as the list that it was built from would. Under
every signal it has the enabled rule sets that listen to it, in the order of the list and as often
as they occur there. Its signals are those of enabled rule sets, each once and in order, and it
counts as many rule sets as are enabled: nothing is lost on the way into the table, and nothing
comes in twice.

What is disabled leaves no mark. Lists that differ in disabled rule sets only, wherever these stand,
have the same table, so nothing that is asked of it tells them apart.
-/
import Mathlib.Data.List.Induction
import Rulebook.Proofs.Reload
import Rulebook.Proofs.Tables

namespace Rulebook

/-! ### Entries and their names -/

namespace Fields

variable {α : Type} {fields : Fields α}

/-- Names occur once, so every entry is what its name finds. -/
theorem Sorted.find?_of_mem (sorted : fields.Sorted) {pair : String × α} (member : pair ∈ fields) :
    fields.find? pair.1 = some pair.2 := by
  induction fields with
  | nil => exact absurd member List.not_mem_nil
  | cons head rest inductionHypothesis =>
    obtain ⟨below, restSorted⟩ := List.pairwise_cons.mp sorted
    obtain rfl | inRest := List.mem_cons.mp member
    · exact find?_cons_self rest pair.1 pair.2
    · have later : pair.1 ≠ head.1 := fun same =>
        String.lt_irrefl head.1 (same ▸ below pair inRest)
      rw [find?_cons_of_ne rest head.2 later, inductionHypothesis restSorted inRest]

theorem Sorted.names_pairwise (sorted : fields.Sorted) : fields.names.Pairwise (· < ·) :=
  List.pairwise_map.mpr sorted

end Fields

variable {World : Type}

namespace DispatchTable

/-! ### Signals -/

/-- A rule set that is enabled brings its signal into the table, and nothing else does. -/
theorem mem_signals_add (table : DispatchTable World) (ruleSet : CompiledRuleSet World)
    {signal : String} :
    signal ∈ (table.add ruleSet).signals ↔
      signal ∈ table.signals ∨ ruleSet.enabled = true ∧ ruleSet.signal = signal := by
  unfold add
  cases enabled : ruleSet.enabled with
  | false => simp
  | true =>
    rw [if_pos rfl]
    unfold signals
    rw [← Fields.exists_find?_iff, ← Fields.exists_find?_iff]
    simp only [Fields.find?_insert]
    by_cases same : signal = ruleSet.signal
    · simp [same]
    · simp [same, Ne.symm same]

/-- The signals of a table are those of the enabled rule sets. -/
theorem mem_signals_build (ruleSets : List (CompiledRuleSet World)) {signal : String} :
    signal ∈ (build ruleSets).signals ↔
      ∃ ruleSet ∈ ruleSets, ruleSet.enabled = true ∧ ruleSet.signal = signal := by
  induction ruleSets using List.reverseRecOn with
  | nil => exact iff_of_false List.not_mem_nil (by simp)
  | append_singleton earlier ruleSet inductionHypothesis =>
    rw [build_concat, mem_signals_add, inductionHypothesis]
    simp only [List.mem_append, List.mem_singleton, or_and_right, exists_or, exists_eq_left]

/-- A table is empty if it has no signals. -/
theorem isEmpty_iff_signals_eq_nil (table : DispatchTable World) :
    table.isEmpty = true ↔ table.signals = [] := by
  unfold isEmpty signals Fields.names
  rw [List.isEmpty_iff, List.map_eq_nil_iff]

/-- A table is empty if none of the rule sets is enabled. -/
theorem isEmpty_build_iff (ruleSets : List (CompiledRuleSet World)) :
    (build ruleSets).isEmpty = true ↔ ∀ ruleSet ∈ ruleSets, ruleSet.enabled = false := by
  rw [isEmpty_iff_signals_eq_nil, List.eq_nil_iff_forall_not_mem]
  simp only [mem_signals_build]
  constructor
  · intro noSignal ruleSet member
    by_contra enabled
    exact noSignal ruleSet.signal ⟨ruleSet, member, eq_true_of_ne_false enabled, rfl⟩
  · rintro disabled signal ⟨ruleSet, member, enabled, -⟩
    exact nomatch enabled.symm.trans (disabled ruleSet member)

/-! ### Counts -/

/-- What a table counts is what is listed under its signals, all together. -/
theorem size_eq_sum_signals {table : DispatchTable World} (sorted : table.bySignal.Sorted) :
    table.size = (table.signals.map fun signal => (table.ruleSetsFor signal).length).sum := by
  have listed : ∀ entry ∈ table.bySignal, (table.ruleSetsFor entry.1).length = entry.2.length := by
    intro entry member
    unfold ruleSetsFor
    rw [sorted.find?_of_mem member, Option.getD_some]
  rw [size_eq_sum]
  unfold signals Fields.names
  rw [List.map_map]
  exact congrArg List.sum (List.map_congr_left fun entry member => (listed entry member).symm)

/-! ### Disabled rule sets -/

/-- The second list is the first one with disabled rule sets taken out and others put in, anywhere.
To change a disabled rule set is to take it out and to put another one in. -/
inductive DiffersInDisabled :
    List (CompiledRuleSet World) → List (CompiledRuleSet World) → Prop where
  | nil : DiffersInDisabled [] []
  | keep (ruleSet : CompiledRuleSet World) {first second : List (CompiledRuleSet World)}
      (others : DiffersInDisabled first second) :
      DiffersInDisabled (ruleSet :: first) (ruleSet :: second)
  | takeOut {ruleSet : CompiledRuleSet World} (disabled : ruleSet.enabled = false)
      {first second : List (CompiledRuleSet World)} (others : DiffersInDisabled first second) :
      DiffersInDisabled (ruleSet :: first) second
  | putIn {ruleSet : CompiledRuleSet World} (disabled : ruleSet.enabled = false)
      {first second : List (CompiledRuleSet World)} (others : DiffersInDisabled first second) :
      DiffersInDisabled first (ruleSet :: second)

/-- Lists that differ in disabled rule sets only have the same enabled ones. -/
theorem DiffersInDisabled.filter_eq {first second : List (CompiledRuleSet World)}
    (differs : DiffersInDisabled first second) :
    first.filter (·.enabled) = second.filter (·.enabled) := by
  induction differs with
  | nil => rfl
  | keep ruleSet _ inductionHypothesis =>
    rw [List.filter_cons, List.filter_cons, inductionHypothesis]
  | takeOut disabled _ inductionHypothesis =>
    rw [List.filter_cons_of_neg (Bool.eq_false_iff.mp disabled), inductionHypothesis]
  | putIn disabled _ inductionHypothesis =>
    rw [List.filter_cons_of_neg (Bool.eq_false_iff.mp disabled), inductionHypothesis]

/-- A table is made of the enabled rule sets alone. -/
theorem build_filter (ruleSets : List (CompiledRuleSet World)) :
    build (ruleSets.filter (·.enabled)) = build ruleSets := by
  unfold build
  rw [List.foldl_filter]
  refine congrArg (fun step => ruleSets.foldl step empty)
    (funext fun table => funext fun ruleSet => ?_)
  cases enabled : ruleSet.enabled <;> simp [add, enabled]

theorem DiffersInDisabled.build_eq {first second : List (CompiledRuleSet World)}
    (differs : DiffersInDisabled first second) : build first = build second := by
  rw [← build_filter first, differs.filter_eq, build_filter]

/-! ### A table and its list -/

/-- A table neither loses nor repeats anything. It lists the enabled rule sets of each signal in the
order of the list that it was built from; its signals are those of enabled rule sets, strictly
increasing; its size is the number of enabled rule sets, and that of all that it lists under its
signals; it is empty just if none is enabled; and lists that differ in disabled rule sets only have
the same table. -/
theorem build_neither_loses_nor_repeats (ruleSets : List (CompiledRuleSet World)) :
    (∀ signal, (build ruleSets).ruleSetsFor signal =
      ruleSets.filter fun ruleSet => ruleSet.enabled && ruleSet.signal == signal) ∧
    (build ruleSets).signals.Pairwise (· < ·) ∧
    (∀ signal, signal ∈ (build ruleSets).signals ↔
      ∃ ruleSet ∈ ruleSets, ruleSet.enabled = true ∧ ruleSet.signal = signal) ∧
    (build ruleSets).size = ruleSets.countP (·.enabled) ∧
    (build ruleSets).size =
      ((build ruleSets).signals.map fun signal =>
        ((build ruleSets).ruleSetsFor signal).length).sum ∧
    ((build ruleSets).isEmpty = true ↔ ∀ ruleSet ∈ ruleSets, ruleSet.enabled = false) ∧
    ∀ others, DiffersInDisabled ruleSets others → build others = build ruleSets := by
  have sorted := sorted_build ruleSets
  refine ⟨ruleSetsFor_build ruleSets, sorted.names_pairwise,
    fun signal => mem_signals_build ruleSets, size_build ruleSets, size_eq_sum_signals sorted,
    isEmpty_build_iff ruleSets, ?_⟩
  exact fun others differs => differs.build_eq.symm

/-- A rule set is listed twice if it is loaded twice, and a disabled one between the two, for no
signal at all, goes unnoticed. -/
theorem build_neither_loses_nor_repeats_spotChanges :
    ∃ ruleSet, (Sales.compiler.compile .spotChanges).1 = .ok ruleSet ∧
      ∃ draft : CompiledRuleSet Sales.Outbox, draft.enabled = false ∧ draft.signal = "" ∧
        DiffersInDisabled [ruleSet, draft, ruleSet] [ruleSet, ruleSet] ∧
        build [ruleSet, ruleSet] = build [ruleSet, draft, ruleSet] ∧
        (build [ruleSet, draft, ruleSet]).ruleSetsFor ruleSet.signal = [ruleSet, ruleSet] ∧
        (build [ruleSet, draft, ruleSet]).size = 2 := by
  have accepts : (Sales.compiler.compile .spotChanges).1.isOk = true := by decide +kernel
  cases accepted : (Sales.compiler.compile .spotChanges).1 with
  | error error =>
    rw [accepted] at accepts
    exact nomatch accepts
  | ok ruleSet =>
    have enabled : true = ruleSet.enabled := Compiler.enabled_of_compile accepted
    let draft := { ruleSet with enabled := false, signal := "" }
    have differs : DiffersInDisabled [ruleSet, draft, ruleSet] [ruleSet, ruleSet] :=
      .keep ruleSet (.takeOut rfl (.keep ruleSet .nil))
    obtain ⟨listed, -, -, counted, -, -, same⟩ :=
      build_neither_loses_nor_repeats [ruleSet, draft, ruleSet]
    refine ⟨ruleSet, rfl, draft, rfl, rfl, differs, same _ differs, ?_, ?_⟩
    · rw [listed]
      simp [draft, ← enabled]
    · rw [counted]
      simp [draft, ← enabled]

end DispatchTable

end Rulebook
