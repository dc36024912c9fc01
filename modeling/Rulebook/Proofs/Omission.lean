/-
This file says that rule sets which are refused leave no trace in what is loaded. A load goes through
its rule sets one after another and hands the compiler on from each to the next. A rule set that is
refused, whatever for, hands the compiler on as it got it, and whether a later one is accepted does
not depend on how many were accepted before. So the load reports each refused rule set by its name
and its own error, the others make the table, and if refused ones are left out, all of them or any,
the same table is made, down to the versions in it, by the same steps of the compiler.
-/
import Rulebook.Proofs.Reload

namespace Rulebook.Compiler

variable {World : Type} {compiler : Compiler World}

/-! ### What is reported of refused rule sets -/

/-- What a load reports of a rule set that does not compile: its name, and the error. -/
def rejection? (compiler : Compiler World) (ruleSet : RuleSet) : Option (String × RuleError) :=
  match (compiler.compile ruleSet).1 with
  | .ok _ => none
  | .error error => some (ruleSet.name, error)

theorem rejection?_advanced (count : Nat) (ruleSet : RuleSet) :
    (compiler.advanced count).rejection? ruleSet = compiler.rejection? ruleSet := by
  unfold rejection?
  rw [compile_fst, compile_fst, check_advanced]
  cases compiler.check ruleSet <;> rfl

/-- A rule set is reported exactly if it is not accepted. -/
theorem isSome_rejection? (compiler : Compiler World) (ruleSet : RuleSet) :
    (compiler.rejection? ruleSet).isSome = !compiler.accepts ruleSet := by
  unfold rejection? accepts
  cases (compiler.compile ruleSet).1 <;> rfl

theorem rejected_compileEach (ruleSets : List RuleSet) (count : Nat) :
    ((compiler.advanced count).compileEach ruleSets).1.2 =
      ruleSets.filterMap compiler.rejection? := by
  induction ruleSets generalizing count with
  | nil => rfl
  | cons ruleSet rest inductionHypothesis =>
    have reported := compiler.rejection?_advanced count ruleSet
    cases compiles : ((compiler.advanced count).compile ruleSet).1 with
    | ok compiled =>
      have silent : compiler.rejection? ruleSet = none := by
        rw [← reported, rejection?, compiles]
      rw [compileEach, compile_eq_of_ok compiles, List.filterMap_cons_none silent,
        ← inductionHypothesis (count + 1), advanced_advanced]
    | error error =>
      have told : compiler.rejection? ruleSet = some (ruleSet.name, error) := by
        rw [← reported, rejection?, compiles]
      rw [compileEach, compile_eq_of_error compiles, List.filterMap_cons_some told,
        ← inductionHypothesis count]

/-- Every rule set of a list is either accepted or reported. -/
theorem length_accepted_add_length_rejected (compiler : Compiler World) (ruleSets : List RuleSet) :
    (ruleSets.filter compiler.accepts).length +
      (ruleSets.filterMap compiler.rejection?).length = ruleSets.length := by
  have reported : (ruleSets.filterMap compiler.rejection?).length =
      ruleSets.countP fun ruleSet => !compiler.accepts ruleSet := by
    rw [List.length_filterMap_eq_countP]
    exact List.countP_congr fun ruleSet _ => by rw [isSome_rejection?]
  rw [reported, ← List.countP_eq_length_filter]
  simpa using (List.length_eq_countP_add_countP compiler.accepts (l := ruleSets)).symm

/-! ### Leaving out refused rule sets -/

/-- Some of the rule sets of a list that do not compile are left out of it, each where it stands. -/
inductive LeavesOut (compiler : Compiler World) : List RuleSet → List RuleSet → Prop where
  | nil : LeavesOut compiler [] []
  | kept (ruleSet : RuleSet) {ruleSets fewer : List RuleSet}
      (others : LeavesOut compiler ruleSets fewer) :
      LeavesOut compiler (ruleSet :: ruleSets) (ruleSet :: fewer)
  | dropped {ruleSet : RuleSet} {error : RuleError} {ruleSets fewer : List RuleSet}
      (refused : (compiler.compile ruleSet).1 = .error error)
      (others : LeavesOut compiler ruleSets fewer) :
      LeavesOut compiler (ruleSet :: ruleSets) fewer

/-- All rule sets that do not compile may be left out. -/
theorem leavesOut_filter_accepts (compiler : Compiler World) (ruleSets : List RuleSet) :
    compiler.LeavesOut ruleSets (ruleSets.filter compiler.accepts) := by
  induction ruleSets with
  | nil => exact .nil
  | cons ruleSet rest inductionHypothesis =>
    cases compiles : (compiler.compile ruleSet).1 with
    | ok compiled =>
      rw [List.filter_cons_of_pos (by rw [accepts, compiles]; rfl)]
      exact .kept ruleSet inductionHypothesis
    | error error =>
      rw [List.filter_cons_of_neg (by rw [accepts, compiles]; exact Bool.false_ne_true)]
      exact .dropped compiles inductionHypothesis

/-- A rule set that is refused at the start is refused whenever its turn comes. -/
theorem exists_error_advanced {ruleSet : RuleSet} {error : RuleError}
    (refused : (compiler.compile ruleSet).1 = .error error) (count : Nat) :
    ((compiler.advanced count).compile ruleSet).1 = .error error := by
  rw [compile_fst] at refused ⊢
  rw [check_advanced, refused]
  rfl

/-- What is accepted, and where the compiler stands afterwards, does not depend on refused rule
sets. -/
theorem LeavesOut.compileEach {ruleSets fewer : List RuleSet}
    (leavesOut : compiler.LeavesOut ruleSets fewer) (count : Nat) :
    ((compiler.advanced count).compileEach fewer).1.1 =
        ((compiler.advanced count).compileEach ruleSets).1.1 ∧
      ((compiler.advanced count).compileEach fewer).2 =
        ((compiler.advanced count).compileEach ruleSets).2 := by
  induction leavesOut generalizing count with
  | nil => exact ⟨rfl, rfl⟩
  | kept ruleSet _ inductionHypothesis =>
    cases compiles : ((compiler.advanced count).compile ruleSet).1 with
    | ok compiled =>
      obtain ⟨loaded, reached⟩ := inductionHypothesis (count + 1)
      simp only [Compiler.compileEach, compile_eq_of_ok compiles, advanced_advanced]
      exact ⟨congrArg (List.cons compiled) loaded, reached⟩
    | error error =>
      simp only [Compiler.compileEach, compile_eq_of_error compiles]
      exact inductionHypothesis count
  | dropped refused _ inductionHypothesis =>
    have refusedHere := exists_error_advanced refused count
    simp only [Compiler.compileEach, compile_eq_of_error refusedHere]
    exact inductionHypothesis count

/-! ### Loads -/

/-- A load reports the rule sets that do not compile, in order and each with its error. The others
are counted and make the table, each with the version that it gets after those before it. What is
refused can be left out without a change to the table or to the compiler. -/
theorem compileAll_leaves_no_trace (compiler : Compiler World) (ruleSets : List RuleSet) :
    (compiler.compileAll ruleSets).1.rejected = ruleSets.filterMap compiler.rejection? ∧
    (compiler.compileAll ruleSets).1.compiled = (ruleSets.filter compiler.accepts).length ∧
    (compiler.compileAll ruleSets).1.compiled + (compiler.compileAll ruleSets).1.rejected.length =
      ruleSets.length ∧
    (∃ loaded, compiler.Loads ruleSets loaded ∧
      (compiler.compileAll ruleSets).1.table = .build loaded ∧
      (∀ signal, (compiler.compileAll ruleSets).1.table.ruleSetsFor signal =
        loaded.filter fun ruleSet => ruleSet.enabled && ruleSet.signal == signal) ∧
      (compiler.compileAll ruleSets).1.table.size = loaded.countP (·.enabled)) ∧
    compiler.LeavesOut ruleSets (ruleSets.filter compiler.accepts) ∧
    ∀ fewer, compiler.LeavesOut ruleSets fewer →
      (compiler.compileAll fewer).1.table = (compiler.compileAll ruleSets).1.table ∧
      (compiler.compileAll fewer).1.compiled = (compiler.compileAll ruleSets).1.compiled ∧
      (compiler.compileAll fewer).2 = (compiler.compileAll ruleSets).2 := by
  have rejected : (compiler.compileAll ruleSets).1.rejected =
      ruleSets.filterMap compiler.rejection? := rejected_compileEach ruleSets 0
  have loads := compiler.loads ruleSets
  have compiled : (compiler.compileAll ruleSets).1.compiled =
      (ruleSets.filter compiler.accepts).length := by
    rw [← List.length_zipIdx, loads.length_eq]
    rfl
  refine ⟨rejected, compiled, ?_, ⟨_, loads, rfl, DispatchTable.ruleSetsFor_build _,
    DispatchTable.size_build _⟩, compiler.leavesOut_filter_accepts ruleSets, ?_⟩
  · rw [rejected, compiled, length_accepted_add_length_rejected]
  · intro fewer leavesOut
    obtain ⟨loaded, reached⟩ := leavesOut.compileEach 0
    exact ⟨congrArg DispatchTable.build loaded, congrArg List.length loaded, reached⟩

theorem compileAll_leaves_no_trace_between :
    let stray : RuleSet := { RuleSet.innerFirst with actionsProvider := "nowhere" }
    ofSales.LeavesOut [.innerFirst, stray, .innerFirst] [.innerFirst, .innerFirst] ∧
      (ofSales.compileAll [.innerFirst, .innerFirst]).1.table =
        (ofSales.compileAll [.innerFirst, stray, .innerFirst]).1.table ∧
      (ofSales.compileAll [.innerFirst, .innerFirst]).2 =
        (ofSales.compileAll [.innerFirst, stray, .innerFirst]).2 := by
  intro stray
  have refused : (ofSales.compile stray).1 = .error (.located
      (.providerConstruction "nowhere" "动作提供者未注册") { ruleSet := some "rules" }) := rfl
  have leavesOut : ofSales.LeavesOut [.innerFirst, stray, .innerFirst] [.innerFirst, .innerFirst] :=
    .kept _ (.dropped refused (.kept _ .nil))
  obtain ⟨table, -, after⟩ := (compileAll_leaves_no_trace _ _).2.2.2.2.2 _ leavesOut
  exact ⟨leavesOut, table, after⟩

end Rulebook.Compiler
