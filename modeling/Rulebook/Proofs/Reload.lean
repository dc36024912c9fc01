/-
This file says what becomes of a service whose rule file is loaded again and again. In any order the
file is loaded, whatever is found at its place, all rule sets are taken out of force, and events are
dispatched.

What a compiler makes of a rule set depends on what it compiled before only in the version, so the
rule sets of a file that are accepted are told by looking at each of them alone, and their versions
go on counting where the compiler stood. A file that holds no rule sets is as good as no command at
all. The table in force is therefore the one of the last file that held rule sets, unless all was
taken out of force since then; and as the compiler never counts back, what one file gave has lower
versions than what any later file gave.
-/
import Rulebook.Host
import Rulebook.Sales
import Rulebook.Proofs.Acceptance
import Rulebook.Proofs.Dispatch

namespace Rulebook

variable {World : Type}

/-! ### The rule sets of one file -/

namespace Compiler

variable {compiler : Compiler World}

/-- The compiler when it has accepted so many rule sets more. -/
def advanced (compiler : Compiler World) (count : Nat) : Compiler World :=
  { compiler with version := compiler.version + count }

/-- Whether a rule set compiles. -/
def accepts (compiler : Compiler World) (ruleSet : RuleSet) : Bool :=
  (compiler.compile ruleSet).1.isOk

/-- The rule sets of a list that are accepted, compiled. -/
def loaded (compiler : Compiler World) (ruleSets : List RuleSet) : List (CompiledRuleSet World) :=
  (compiler.compileEach ruleSets).1.1

/-- Rule sets as the compiler accepts them one after another: those that it accepts, in order, each
compiled by the compiler that has accepted the ones before it. -/
def Loads (compiler : Compiler World) (ruleSets : List RuleSet)
    (loaded : List (CompiledRuleSet World)) : Prop :=
  List.Forall₂
    (fun entry compiled => ((compiler.advanced entry.2).compile entry.1).1 = .ok compiled)
    (ruleSets.filter compiler.accepts).zipIdx loaded

@[simp] theorem advanced_zero : compiler.advanced 0 = compiler := rfl

theorem advanced_advanced (first second : Nat) :
    (compiler.advanced first).advanced second = compiler.advanced (first + second) := by
  unfold advanced
  rw [Nat.add_assoc]

/-- What was compiled before matters for the version only. -/
theorem check_advanced (count : Nat) (ruleSet : RuleSet) :
    (compiler.advanced count).check ruleSet =
      (fun compiled => { compiled with version := compiled.version + count }) <$>
        compiler.check ruleSet := by
  unfold check advanced
  simp only [map_bind, map_pure, Nat.add_right_comm]

theorem accepts_advanced (count : Nat) (ruleSet : RuleSet) :
    (compiler.advanced count).accepts ruleSet = compiler.accepts ruleSet := by
  unfold accepts
  rw [compile_fst, compile_fst, check_advanced]
  cases compiler.check ruleSet <;> rfl

theorem version_of_compile {ruleSet : RuleSet} {compiled : CompiledRuleSet World}
    (accepted : (compiler.compile ruleSet).1 = .ok compiled) :
    compiled.version = compiler.version + 1 := by
  rw [compile_fst] at accepted
  obtain ⟨vars, actions, blocks, -, -, -, rfl⟩ := check_eq_ok_iff.mp accepted
  rfl

theorem enabled_of_compile {ruleSet : RuleSet} {compiled : CompiledRuleSet World}
    (accepted : (compiler.compile ruleSet).1 = .ok compiled) :
    ruleSet.enabled = compiled.enabled := by
  rw [compile_fst] at accepted
  obtain ⟨vars, actions, blocks, -, -, -, rfl⟩ := check_eq_ok_iff.mp accepted
  rfl

/-- A rule set that is accepted is counted. -/
theorem compile_eq_of_ok {ruleSet : RuleSet} {compiled : CompiledRuleSet World}
    (accepted : (compiler.compile ruleSet).1 = .ok compiled) :
    compiler.compile ruleSet = (.ok compiled, compiler.advanced 1) := by
  unfold compile at accepted ⊢
  cases checked : compiler.check ruleSet with
  | error error =>
    rw [checked] at accepted
    exact nomatch accepted
  | ok other =>
    rw [checked] at accepted
    obtain rfl := Except.ok.inj accepted
    rfl

/-- A rule set that is refused leaves the compiler as it was. -/
theorem compile_eq_of_error {ruleSet : RuleSet} {error : RuleError}
    (refused : (compiler.compile ruleSet).1 = .error error) :
    compiler.compile ruleSet = (.error error, compiler) := by
  unfold compile at refused ⊢
  cases checked : compiler.check ruleSet with
  | error other =>
    rw [checked] at refused
    obtain rfl := Except.error.inj refused
    rfl
  | ok compiled =>
    rw [checked] at refused
    exact nomatch refused

/-- Compiling a list goes on from where the compiler stands. -/
theorem compileEach_advanced (ruleSets : List RuleSet) (count : Nat) :
    List.Forall₂
        (fun entry compiled => ((compiler.advanced entry.2).compile entry.1).1 = .ok compiled)
        ((ruleSets.filter compiler.accepts).zipIdx count)
        ((compiler.advanced count).loaded ruleSets) ∧
      ((compiler.advanced count).compileEach ruleSets).2 =
        compiler.advanced (count + ((compiler.advanced count).loaded ruleSets).length) := by
  unfold loaded
  induction ruleSets generalizing count with
  | nil => exact ⟨.nil, rfl⟩
  | cons ruleSet rest inductionHypothesis =>
    cases compiles : ((compiler.advanced count).compile ruleSet).1 with
    | error error =>
      have refused : ¬ compiler.accepts ruleSet = true := by
        rw [← accepts_advanced count, accepts, compiles]
        exact nofun
      obtain ⟨entries, reached⟩ := inductionHypothesis count
      rw [List.filter_cons_of_neg refused, compileEach, compile_eq_of_error compiles]
      exact ⟨entries, reached⟩
    | ok compiled =>
      have accepted : compiler.accepts ruleSet = true := by
        rw [← accepts_advanced count, accepts, compiles]
        rfl
      obtain ⟨entries, reached⟩ := inductionHypothesis (count + 1)
      rw [List.filter_cons_of_pos accepted, compileEach, compile_eq_of_ok compiles,
        advanced_advanced]
      refine ⟨.cons compiles entries, ?_⟩
      show ((compiler.advanced (count + 1)).compileEach rest).2 = _
      rw [reached, Nat.add_assoc, Nat.add_comm 1]
      rfl

theorem loads (compiler : Compiler World) (ruleSets : List RuleSet) :
    compiler.Loads ruleSets (compiler.loaded ruleSets) :=
  (compileEach_advanced ruleSets 0).1

theorem compileEach_snd (compiler : Compiler World) (ruleSets : List RuleSet) :
    (compiler.compileEach ruleSets).2 =
      compiler.advanced (compiler.loaded ruleSets).length := by
  have reached : ((compiler.advanced 0).compileEach ruleSets).2 = _ :=
    (compileEach_advanced ruleSets 0).2
  rwa [advanced_zero, Nat.zero_add] at reached

/-- The versions of what a list gives lie between where the compiler stood and where it stands. -/
theorem version_of_mem_loaded {ruleSets : List RuleSet} {compiled : CompiledRuleSet World}
    (member : compiled ∈ compiler.loaded ruleSets) :
    compiler.version < compiled.version ∧
      compiled.version ≤ compiler.version + (compiler.loaded ruleSets).length := by
  obtain ⟨index, bound, rfl⟩ := List.mem_iff_getElem.mp member
  have loads := compiler.loads ruleSets
  have accepted := loads.get (loads.length_eq ▸ bound) bound
  rw [List.get_eq_getElem, List.getElem_zipIdx, Nat.zero_add] at accepted
  have version : (compiler.loaded ruleSets)[index].version = compiler.version + index + 1 :=
    version_of_compile accepted
  omega

theorem Loads.countP_enabled {ruleSets : List RuleSet} {loaded : List (CompiledRuleSet World)}
    (loads : compiler.Loads ruleSets loaded) :
    loaded.countP (·.enabled) = (ruleSets.filter compiler.accepts).countP (·.enabled) := by
  have alike : List.Forall₂ (fun enabled other => enabled = other)
      (((ruleSets.filter compiler.accepts).zipIdx.map (·.1)).map (·.enabled))
      (loaded.map (·.enabled)) := by
    rw [List.map_map, List.forall₂_map_left_iff, List.forall₂_map_right_iff]
    exact loads.imp fun entry compiled accepted => enabled_of_compile accepted
  rw [List.forall₂_eq_eq_eq, List.zipIdx_map_fst] at alike
  simpa [List.countP_map] using (congrArg (List.countP id) alike).symm

end Compiler

/-! ### Loading a file -/

namespace Host

/-- The rule sets that are found where the rule file should be; none if it cannot be read as a list
of rule sets. -/
def RuleSource.ruleSets? (absent : Absent) : RuleSource → Option (List RuleSet)
  | .missing _ => none
  | .bytes content => (String.fromUTF8? content).bind (RuleFile.ofText? absent)

variable {host : Host World} {absent : Absent} {source : RuleSource}

/-- A file without rule sets changes nothing. -/
theorem reload_of_none (path : String) (nothing : source.ruleSets? absent = none) :
    ∃ error, host.reload absent path source = (.error error, host) := by
  cases source with
  | missing reason => exact ⟨_, rfl⟩
  | bytes content =>
    unfold reload
    cases decoded : String.fromUTF8? content with
    | none => exact ⟨.ruleFile path "not UTF-8", by simp only [decoded]⟩
    | some text =>
      have unreadable : RuleFile.ofText? absent text = none := by
        simpa [RuleSource.ruleSets?, decoded] using nothing
      exact ⟨.ruleSyntax "not a list of rule sets", by simp only [decoded, unreadable]⟩

/-- The rule sets of a file that are accepted make the new table, and the compiler counts them. -/
theorem reload_of_some {ruleSets : List RuleSet} (path : String)
    (found : source.ruleSets? absent = some ruleSets) :
    host.reload absent path source =
      (.ok (DispatchTable.build (host.compiler.loaded ruleSets)).size,
        { host with
          compiler := host.compiler.advanced (host.compiler.loaded ruleSets).length
          table := DispatchTable.build (host.compiler.loaded ruleSets) }) := by
  cases source with
  | missing reason => exact nomatch found
  | bytes content =>
    obtain ⟨text, decoded, read⟩ := Option.bind_eq_some_iff.mp found
    unfold reload
    simp only [decoded, read, ← Compiler.compileEach_snd]
    rfl

/-! ### Commands -/

/-- What is done to a service. -/
inductive Command where
  /-- Its rule file is loaded, whatever is found. -/
  | reload (absent : Absent) (path : String) (source : RuleSource)
  | teardown
  | dispatch (event : Event)

namespace Command

/-- The service and the world after a command. -/
def perform (command : Command) (state : Host World × World) : Host World × World :=
  match command with
  | .reload absent path source => ((state.1.reload absent path source).2, state.2)
  | .teardown => (state.1.teardown, state.2)
  | .dispatch event => (state.1, ((state.1.table.dispatch event).run state.2).2)

/-- The command neither puts a table into force nor takes one out of force. -/
def Idle : Command → Prop
  | .reload absent _ source => source.ruleSets? absent = none
  | .teardown => False
  | .dispatch _ => True

/-- The rule sets that a command finds. -/
def ruleSets : Command → List RuleSet
  | .reload absent _ source => (source.ruleSets? absent).getD []
  | .teardown => []
  | .dispatch _ => []

theorem perform_of_idle {command : Command} (idle : command.Idle) (state : Host World × World) :
    (command.perform state).1 = state.1 := by
  cases command with
  | reload absent path source =>
    obtain ⟨error, unchanged⟩ : ∃ error, state.1.reload absent path source = (.error error, state.1) :=
      reload_of_none path idle
    exact congrArg Prod.snd unchanged
  | teardown => exact idle.elim
  | dispatch event => rfl

/-- The compiler counts the rule sets that it accepts, and nothing else happens to it. -/
theorem compiler_perform (command : Command) (state : Host World × World) :
    (command.perform state).1.compiler =
      state.1.compiler.advanced (state.1.compiler.loaded command.ruleSets).length := by
  cases command with
  | teardown => rfl
  | dispatch event => rfl
  | reload absent path source =>
    show (state.1.reload absent path source).2.compiler =
      state.1.compiler.advanced
        (state.1.compiler.loaded ((source.ruleSets? absent).getD [])).length
    cases found : source.ruleSets? absent with
    | none =>
      obtain ⟨error, unchanged⟩ :
          ∃ error, state.1.reload absent path source = (.error error, state.1) :=
        reload_of_none path found
      rw [unchanged]
      rfl
    | some ruleSets =>
      rw [reload_of_some path found]
      rfl

end Command

/-- The service and the world after some commands. -/
def afterAll (state : Host World × World) (commands : List Command) : Host World × World :=
  commands.foldl (fun reached command => command.perform reached) state

/-- For every command in turn the rule sets that are compiled. -/
def loads (state : Host World × World) : List Command → List (List (CompiledRuleSet World))
  | [] => []
  | command :: rest =>
    state.1.compiler.loaded command.ruleSets :: loads (command.perform state) rest

/-- What is compiled has a higher version than the compiler had before. -/
theorem version_lt_of_mem_loads {state : Host World × World} {commands : List Command}
    {loaded : List (CompiledRuleSet World)} (listed : loaded ∈ loads state commands)
    {compiled : CompiledRuleSet World} (member : compiled ∈ loaded) :
    state.1.compiler.version < compiled.version := by
  induction commands generalizing state with
  | nil => cases listed
  | cons command rest inductionHypothesis =>
    rcases List.mem_cons.mp listed with rfl | later
    · exact (Compiler.version_of_mem_loaded member).1
    · have above := inductionHypothesis later
      rw [Command.compiler_perform] at above
      exact Nat.lt_of_le_of_lt (Nat.le_add_right _ _) above

/-- Whatever one command compiles has a lower version than whatever a later one compiles. -/
theorem pairwise_loads (state : Host World × World) (commands : List Command) :
    (loads state commands).Pairwise fun earlier later =>
      ∀ old ∈ earlier, ∀ new ∈ later, old.version < new.version := by
  induction commands generalizing state with
  | nil => exact .nil
  | cons command rest inductionHypothesis =>
    refine .cons (fun later listed old oldMember new newMember => ?_) (inductionHypothesis _)
    have above := version_lt_of_mem_loads listed newMember
    rw [Command.compiler_perform] at above
    exact Nat.lt_of_le_of_lt (Compiler.version_of_mem_loaded oldMember).2 above

theorem afterAll_concat (state : Host World × World) (commands : List Command)
    (command : Command) :
    afterAll state (commands ++ [command]) = command.perform (afterAll state commands) := by
  unfold afterAll
  rw [List.foldl_append, List.foldl_cons, List.foldl_nil]

/-- The table that commands leave in force, and where it comes from. -/
inductive InForce (state : Host World × World) : List Command → DispatchTable World → Prop where
  /-- Since the beginning nothing was done about the table. -/
  | initial {commands : List Command} (idle : ∀ command ∈ commands, command.Idle) :
      InForce state commands state.1.table
  /-- All was taken out of force, and since then nothing was done. -/
  | torn {earlier later : List Command} (idle : ∀ command ∈ later, command.Idle) :
      InForce state (earlier ++ .teardown :: later) .empty
  /-- A file was loaded, and since then nothing was done. -/
  | loaded {earlier later : List Command} {absent : Absent} {path : String} {source : RuleSource}
      {ruleSets : List RuleSet} (found : source.ruleSets? absent = some ruleSets)
      (idle : ∀ command ∈ later, command.Idle) :
      InForce state (earlier ++ .reload absent path source :: later)
        (.build ((afterAll state earlier).1.compiler.loaded ruleSets))

theorem InForce.concat {state : Host World × World} {commands : List Command}
    {table : DispatchTable World} (inForce : InForce state commands table) {command : Command}
    (idle : command.Idle) : InForce state (commands ++ [command]) table := by
  have extended {later : List Command} (allIdle : ∀ other ∈ later, other.Idle) :
      ∀ other ∈ later ++ [command], other.Idle := by
    intro other member
    rcases List.mem_append.mp member with inside | last
    · exact allIdle other inside
    · exact List.mem_singleton.mp last ▸ idle
  cases inForce with
  | initial allIdle => exact .initial (extended allIdle)
  | torn allIdle =>
    rw [List.append_assoc, List.cons_append]
    exact .torn (extended allIdle)
  | loaded found allIdle =>
    rw [List.append_assoc, List.cons_append]
    exact .loaded found (extended allIdle)

/-- The table in force is that of the last file that held rule sets, unless all was taken out of
force since then. -/
theorem inForce_afterAll (state : Host World × World) (commands : List Command) :
    InForce state commands (afterAll state commands).1.table := by
  induction commands using List.reverseRecOn with
  | nil => exact .initial nofun
  | append_singleton earlier command inductionHypothesis =>
    rw [afterAll_concat]
    have unchanged (idle : command.Idle) :
        InForce state (earlier ++ [command])
          (command.perform (afterAll state earlier)).1.table := by
      rw [Command.perform_of_idle idle]
      exact inductionHypothesis.concat idle
    cases command with
    | teardown => exact .torn nofun
    | dispatch event => exact unchanged trivial
    | reload absent path source =>
      cases found : source.ruleSets? absent with
      | none => exact unchanged found
      | some ruleSets =>
        show InForce state _ ((afterAll state earlier).1.reload absent path source).2.table
        rw [reload_of_some path found]
        exact .loaded found nofun

/-- A file without rule sets changes nothing, and one that holds some puts those that are accepted
and enabled into force, in order. So the table in force is always that of the last such file, unless
all was taken out of force since then, and versions grow from one file to the next. -/
theorem reloads (start : Host World × World) (commands : List Command) :
    (∀ (host : Host World) absent path source,
      match RuleSource.ruleSets? absent source with
      | none => ∃ error, host.reload absent path source = (.error error, host)
      | some ruleSets => ∃ loaded, host.compiler.Loads ruleSets loaded ∧
          host.reload absent path source =
            (.ok (DispatchTable.build loaded).size,
              { host with
                compiler := host.compiler.advanced loaded.length
                table := DispatchTable.build loaded }) ∧
          (DispatchTable.build loaded).size =
            (ruleSets.filter host.compiler.accepts).countP (·.enabled) ∧
          ∀ signal, (DispatchTable.build loaded).ruleSetsFor signal =
            loaded.filter fun ruleSet => ruleSet.enabled && ruleSet.signal == signal) ∧
    InForce start commands (afterAll start commands).1.table ∧
    (loads start commands).Pairwise fun earlier later =>
      ∀ old ∈ earlier, ∀ new ∈ later, old.version < new.version := by
  refine ⟨fun host absent path source => ?_, inForce_afterAll start commands,
    pairwise_loads start commands⟩
  split
  · next nothing => exact reload_of_none path nothing
  · next ruleSets found =>
    have loads := host.compiler.loads ruleSets
    refine ⟨_, loads, reload_of_some path found, ?_, DispatchTable.ruleSetsFor_build _⟩
    rw [DispatchTable.size_build, loads.countP_enabled]

/-- A file with one rule set without blocks. -/
def sampleFile : RuleSource := .bytes
  ("[\x7b\"id\": \"rules\", \"name\": \"rules\", \"enabled\": true, " ++
    "\"variables_provider\": \"sales_transition_variables\", " ++
    "\"actions_provider\": \"sales_transition_actions\"\x7d]").toUTF8

/-- The file is loaded, then it is missing, then it is loaded again. -/
def sampleCommands : List Command :=
  [.reload ⟨fun _ => "", ⟨0, 0⟩⟩ "rules" sampleFile,
    .reload ⟨fun _ => "", ⟨0, 0⟩⟩ "rules" (.missing "gone"),
    .reload ⟨fun _ => "", ⟨0, 0⟩⟩ "rules" sampleFile]

theorem reloads_sampleCommands :
    ∃ old new, loads (⟨Sales.compiler, .empty, 5000⟩, {}) sampleCommands = [[old], [], [new]] ∧
      old.version < new.version := by
  have lengths : (loads (⟨Sales.compiler, .empty, 5000⟩, {}) sampleCommands).map List.length =
      [1, 0, 1] := by decide +kernel
  have ordered := (reloads (⟨Sales.compiler, .empty, 5000⟩, {}) sampleCommands).2.2
  match shape : loads (⟨Sales.compiler, .empty, 5000⟩, {}) sampleCommands, lengths with
  | [[old], [], [new]], _ =>
    rw [shape] at ordered
    refine ⟨old, new, rfl, ?_⟩
    exact (List.pairwise_cons.mp ordered).1 [new] (by simp) old (by simp) new (by simp)

end Host

end Rulebook
