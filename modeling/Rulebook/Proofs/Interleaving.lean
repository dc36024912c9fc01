/-
This file says what becomes of dispatches that run at the same time, while tables are put into force
and taken out of force between any two of their steps. A dispatch takes the table in force once,
when it begins. Then it makes one step for every rule set that this table lists for its signal: it
triggers the rule set and reports how that ended, or it passes the rule set by, if the event does
not have what that insists on. Any number of dispatches may have begun, and their steps come in any
order, with anything else that is done to the dispatcher in between.

Only the steps of a dispatch itself change it. So whatever the moves are, it has come as far down
the list of the table that it took as it made steps, and it reports of the rule sets down to there,
each once. What it reports of them could depend on what others did to the world. If the rule sets of
its table are blind to that, it does not, and the report is the one of a dispatch from this table
that nobody interrupts, as far as it goes.
-/
import Rulebook.Proofs.Isolation

namespace Rulebook

variable {World : Type}

/-! ### Dispatches in steps -/

/-- A dispatch that has begun. -/
structure Dispatching (World : Type) where
  event : Event
  /-- The table that was in force when it began. -/
  table : DispatchTable World
  /-- The rule sets that it has not come to yet. -/
  rest : List (CompiledRuleSet World)
  /-- How the triggers ended up to now, in order. -/
  results : List DispatchResult := []

namespace Dispatching

/-- A dispatch begins with all the rule sets that its table lists for the signal. -/
def start (table : DispatchTable World) (event : Event) : Dispatching World where
  event
  table
  rest := table.ruleSetsFor event.signal

/-- The next rule set is triggered if it finds what it insists on, and passed by otherwise. Nothing
happens if there is none. -/
def step (dispatching : Dispatching World) : StateM World (Dispatching World) :=
  match dispatching.rest with
  | [] => return dispatching
  | ruleSet :: rest =>
    if ruleSet.accepts dispatching.event.args then do
      let result ← ruleSet.report dispatching.event.args
      return { dispatching with rest, results := dispatching.results ++ [result] }
    else return { dispatching with rest }

/-- Some number of steps without anything in between. -/
def steps : Nat → Dispatching World → StateM World (Dispatching World)
  | 0, dispatching => return dispatching
  | count + 1, dispatching => do steps count (← dispatching.step)

/-- Steps to the end are triggers of all the rule sets that find what they insist on. -/
theorem steps_length_rest (dispatching : Dispatching World) :
    steps dispatching.rest.length dispatching = (do
      let results ← (dispatching.rest.filter (·.accepts dispatching.event.args)).mapM
        (·.report dispatching.event.args)
      return { dispatching with rest := [], results := dispatching.results ++ results }) := by
  obtain ⟨event, table, rest, results⟩ := dispatching
  induction rest generalizing results with
  | nil => simp [steps]
  | cons ruleSet rest inductionHypothesis =>
    rw [List.length_cons, steps, step]
    cases accepted : ruleSet.accepts event.args with
    | false =>
      rw [List.filter_cons_of_neg (by simp [accepted])]
      simpa [accepted] using inductionHypothesis results
    | true =>
      rw [List.filter_cons_of_pos (by simp [accepted]), List.mapM_cons]
      simp [accepted, inductionHypothesis]

/-- A dispatch is its steps, one for every rule set that is listed. -/
theorem dispatch_eq_steps (table : DispatchTable World) (event : Event) :
    table.dispatch event = (do
      let ended ← steps (table.ruleSetsFor event.signal).length (start table event)
      return ⟨event.signal, ended.results⟩) := by
  have ends := steps_length_rest (start table event)
  unfold start at ends ⊢
  rw [ends]
  simp [DispatchTable.dispatch]

end Dispatching

/-! ### How far a dispatch has come -/

/-- The result is how a trigger of the rule set ends from some world. -/
def CompiledRuleSet.EndsWith (args : EventArgs) (ruleSet : CompiledRuleSet World)
    (result : DispatchResult) : Prop :=
  ∃ before after, (ruleSet.report args).run before = (result, after)

namespace CompiledRuleSet.EndsWith

variable {args : EventArgs} {ruleSet : CompiledRuleSet World} {result other : DispatchResult}

/-- A blind rule set ends in one way only, whatever the world is. -/
theorem unique {Vars Actions Shared Write : Type}
    {division : Division World Vars Actions Shared Write} (blind : ruleSet.Blind division)
    (first : ruleSet.EndsWith args result) (second : ruleSet.EndsWith args other) :
    result = other := by
  obtain ⟨outcome, writes, comes⟩ := blind.exists_trigger_comesTo args
  have only : ∀ {found : DispatchResult}, ruleSet.EndsWith args found →
      found = ⟨ruleSet.id, outcome⟩ := by
    rintro found ⟨before, after, reported⟩
    obtain ⟨left, performed, -⟩ := comes before
    have told : ((ruleSet.report args).run before).1 =
        ⟨ruleSet.id, ((ruleSet.trigger args).perform before).1⟩ := rfl
    rw [reported, performed] at told
    exact told
  rw [only first, only second]

/-- Blind rule sets end in one way only. -/
theorem unique_of_blind {Vars Actions Shared Write : Type}
    {division : Division World Vars Actions Shared Write} {ruleSets : List (CompiledRuleSet World)}
    {results others : List DispatchResult} (blind : ∀ ruleSet ∈ ruleSets, ruleSet.Blind division)
    (first : List.Forall₂ (CompiledRuleSet.EndsWith args) ruleSets results)
    (second : List.Forall₂ (CompiledRuleSet.EndsWith args) ruleSets others) : results = others := by
  induction first generalizing others with
  | nil => exact (List.forall₂_nil_left_iff.mp second).symm
  | @cons ruleSet result ruleSets results ends _ inductionHypothesis =>
    obtain ⟨head, tail, headEnds, tailEnds, rfl⟩ := List.forall₂_cons_left_iff.mp second
    obtain ⟨headBlind, tailBlind⟩ := List.forall_mem_cons.mp blind
    rw [ends.unique headBlind headEnds, inductionHypothesis tailBlind tailEnds]

end CompiledRuleSet.EndsWith

/-- The dispatch of an event from a table has made some number of steps: it is so far down the list,
and its results are those of the rule sets down to there that find what they insist on. -/
structure Dispatching.Reached (dispatching : Dispatching World) (table : DispatchTable World)
    (event : Event) (count : Nat) : Prop where
  event_eq : dispatching.event = event
  table_eq : dispatching.table = table
  rest_eq : dispatching.rest = (table.ruleSetsFor event.signal).drop count
  results : List.Forall₂ (CompiledRuleSet.EndsWith event.args)
    (((table.ruleSetsFor event.signal).take count).filter (·.accepts event.args))
    dispatching.results

namespace Dispatching

variable {dispatching : Dispatching World} {table : DispatchTable World} {event : Event}
  {count : Nat}

theorem reached_start (table : DispatchTable World) (event : Event) :
    (start table event).Reached table event 0 where
  event_eq := rfl
  table_eq := rfl
  rest_eq := rfl
  results := .nil

theorem step_of_nil (ended : dispatching.rest = []) : dispatching.step = pure dispatching := by
  unfold step
  rw [ended]

/-- A step adds the result of the next rule set, or nothing. -/
theorem exists_of_step_of_cons {ruleSet : CompiledRuleSet World}
    {rest : List (CompiledRuleSet World)} (next : dispatching.rest = ruleSet :: rest)
    (world : World) :
    ∃ own, List.Forall₂ (CompiledRuleSet.EndsWith dispatching.event.args)
        ([ruleSet].filter (·.accepts dispatching.event.args)) own ∧
      (dispatching.step.run world).1 =
        { dispatching with rest, results := dispatching.results ++ own } := by
  unfold step
  rw [next]
  dsimp only
  cases accepted : ruleSet.accepts dispatching.event.args with
  | false =>
    refine ⟨[], ?_, ?_⟩
    · rw [List.filter_cons_of_neg (by simp [accepted])]
      exact .nil
    · rw [if_neg Bool.false_ne_true, List.append_nil]
      rfl
  | true =>
    refine ⟨[((ruleSet.report dispatching.event.args).run world).1], ?_, ?_⟩
    · rw [List.filter_cons_of_pos (by simp [accepted])]
      exact .cons ⟨world, _, rfl⟩ .nil
    · rw [if_pos rfl]
      rfl

/-- One step, in whatever world, takes a dispatch one rule set further. -/
theorem Reached.step (reached : dispatching.Reached table event count) (world : World) :
    (dispatching.step.run world).1.Reached table event (count + 1) := by
  obtain ⟨rfl, rfl, restEq, ends⟩ := reached
  have further : (dispatching.table.ruleSetsFor dispatching.event.signal).take (count + 1) =
      (dispatching.table.ruleSetsFor dispatching.event.signal).take count ++
        dispatching.rest.head?.toList := by
    rw [List.take_add_one, ← List.head?_drop, restEq]
  have restFurther : (dispatching.table.ruleSetsFor dispatching.event.signal).drop (count + 1) =
      dispatching.rest.tail := by
    rw [restEq, List.tail_drop]
  cases next : dispatching.rest with
  | nil =>
    rw [next] at further restFurther
    rw [step_of_nil next]
    refine ⟨rfl, rfl, next.trans restFurther.symm, ?_⟩
    rw [further]
    show List.Forall₂ _ ((_ ++ []).filter _) dispatching.results
    rwa [List.append_nil]
  | cons ruleSet rest =>
    obtain ⟨own, ownEnds, stepped⟩ := exists_of_step_of_cons next world
    rw [next] at further restFurther
    rw [stepped]
    refine ⟨rfl, rfl, restFurther.symm, ?_⟩
    rw [further, List.filter_append]
    exact List.rel_append ends ownEnds

/-- Steps one after another, with nothing in between. -/
theorem Reached.steps (reached : dispatching.Reached table event count) (more : Nat)
    (world : World) :
    ((Dispatching.steps more dispatching).run world).1.Reached table event (count + more) := by
  induction more generalizing dispatching count world with
  | zero => exact reached
  | succ more inductionHypothesis =>
    have rest := inductionHypothesis (reached.step world) (dispatching.step.run world).2
    rw [Nat.add_assoc, Nat.add_comm 1] at rest
    exact rest

/-- The report of a dispatch that nobody interrupts tells of all rule sets that are listed and find
what they insist on. -/
theorem exists_results_of_dispatch (table : DispatchTable World) (event : Event) (before : World) :
    ∃ results after, (table.dispatch event).run before = (⟨event.signal, results⟩, after) ∧
      List.Forall₂ (CompiledRuleSet.EndsWith event.args)
        ((table.ruleSetsFor event.signal).filter (·.accepts event.args)) results := by
  have reached := (reached_start table event).steps (table.ruleSetsFor event.signal).length before
  rw [Nat.zero_add] at reached
  have all := reached.results
  rw [List.take_length] at all
  rw [dispatch_eq_steps]
  exact ⟨_, _, rfl, all⟩

/-- If the rule sets of its table are blind, a dispatch has reported the beginning of the report of
one that nobody interrupts, and all of it when it came to the end. -/
theorem Reached.results_prefix {Vars Actions Shared Write : Type}
    {division : Division World Vars Actions Shared Write}
    (reached : dispatching.Reached table event count)
    (blind : ∀ ruleSet ∈ table.ruleSetsFor event.signal, ruleSet.Blind division) (before : World) :
    ∃ others after, (table.dispatch event).run before =
        (⟨event.signal, dispatching.results ++ others⟩, after) ∧
      ((table.ruleSetsFor event.signal).length ≤ count → others = []) := by
  obtain ⟨results, after, dispatched, all⟩ := exists_results_of_dispatch table event before
  rw [← List.take_append_drop count (table.ruleSetsFor event.signal), List.filter_append] at all
  have first := List.forall₂_take (((table.ruleSetsFor event.signal).take count).filter
    (·.accepts event.args)).length all
  have last := List.forall₂_drop (((table.ruleSetsFor event.signal).take count).filter
    (·.accepts event.args)).length all
  rw [List.take_left] at first
  rw [List.drop_left] at last
  have firstBlind : ∀ ruleSet ∈ ((table.ruleSetsFor event.signal).take count).filter
      (·.accepts event.args), ruleSet.Blind division :=
    fun ruleSet member => blind ruleSet (List.mem_of_mem_take (List.mem_of_mem_filter member))
  have own := CompiledRuleSet.EndsWith.unique_of_blind firstBlind reached.results first
  refine ⟨results.drop (((table.ruleSetsFor event.signal).take count).filter
    (·.accepts event.args)).length, after, ?_, fun ended => ?_⟩
  · rw [own, List.take_append_drop]
    exact dispatched
  · rw [List.drop_eq_nil_of_le ended] at last
    exact List.forall₂_nil_left_iff.mp last

end Dispatching

/-! ### Moves of a dispatcher -/

/-- A dispatcher: the table in force, the world, and the snapshots that were taken and the
dispatches that have begun, each in order. -/
structure Dispatcher (World : Type) where
  table : DispatchTable World
  world : World
  snapshots : List (DispatchTable World) := []
  dispatches : List (Dispatching World) := []

namespace Dispatcher

/-- What can happen to a dispatcher at once. -/
inductive Move (World : Type) where
  /-- A table is put into force. -/
  | rebuild (table : DispatchTable World)
  /-- All rule sets are taken out of force. -/
  | teardown
  /-- A snapshot of the table in force is taken. -/
  | snapshot
  /-- A dispatch of an event begins. -/
  | dispatch (event : Event)
  /-- One of the dispatches that have begun makes a step. -/
  | step (index : Nat)

namespace Move

/-- Whether the table in force is replaced. -/
def replaces : Move World → Bool
  | .rebuild _ | .teardown => true
  | _ => false

/-- Whether a snapshot is taken. -/
def isSnapshot : Move World → Bool
  | .snapshot => true
  | _ => false

/-- Whether a dispatch begins. -/
def isDispatch : Move World → Bool
  | .dispatch _ => true
  | _ => false

/-- Whether it is a step of one of the dispatches. -/
def isStepOf (index : Nat) : Move World → Bool
  | .step other => other == index
  | _ => false

end Move

/-- The dispatcher after a move. A step of a dispatch that has not begun changes nothing. -/
def perform (dispatcher : Dispatcher World) : Move World → Dispatcher World
  | .rebuild table => { dispatcher with table }
  | .teardown => { dispatcher with table := .empty }
  | .snapshot => { dispatcher with snapshots := dispatcher.snapshots ++ [dispatcher.table] }
  | .dispatch event =>
    { dispatcher with
      dispatches := dispatcher.dispatches ++ [.start dispatcher.table event] }
  | .step index =>
    match dispatcher.dispatches[index]? with
    | none => dispatcher
    | some dispatching =>
      let (next, world) := dispatching.step.run dispatcher.world
      { dispatcher with world, dispatches := dispatcher.dispatches.set index next }

/-- The dispatcher after some moves, the first of them first. -/
def after (dispatcher : Dispatcher World) (moves : List (Move World)) : Dispatcher World :=
  moves.foldl perform dispatcher

variable {dispatcher : Dispatcher World}

theorem after_append (dispatcher : Dispatcher World) (first second : List (Move World)) :
    dispatcher.after (first ++ second) = (dispatcher.after first).after second :=
  List.foldl_append

/-! ### What a move leaves alone -/

theorem perform_step_of_none {index : Nat} (absent : dispatcher.dispatches[index]? = none) :
    dispatcher.perform (.step index) = dispatcher := by
  simp only [perform, absent]

theorem perform_step_of_some {index : Nat} {dispatching : Dispatching World}
    (begun : dispatcher.dispatches[index]? = some dispatching) :
    dispatcher.perform (.step index) =
      { dispatcher with
        world := (dispatching.step.run dispatcher.world).2
        dispatches :=
          dispatcher.dispatches.set index (dispatching.step.run dispatcher.world).1 } := by
  simp only [perform, begun]
  rfl

/-- Only a table that is put into force, or taken out of it, changes the one in force. -/
theorem table_perform {move : Move World} (keeps : move.replaces = false) :
    (dispatcher.perform move).table = dispatcher.table := by
  cases move with
  | rebuild table => exact nomatch keeps
  | teardown => exact nomatch keeps
  | snapshot => rfl
  | dispatch event => rfl
  | step index =>
    cases begun : dispatcher.dispatches[index]? with
    | none => rw [perform_step_of_none begun]
    | some dispatching => rw [perform_step_of_some begun]

/-- Snapshots are never changed, and a new one comes behind the others. -/
theorem snapshots_perform (dispatcher : Dispatcher World) (move : Move World) :
    (dispatcher.perform move).snapshots =
      dispatcher.snapshots ++ if move.isSnapshot then [dispatcher.table] else [] := by
  cases move with
  | rebuild table => exact (List.append_nil _).symm
  | teardown => exact (List.append_nil _).symm
  | snapshot => rfl
  | dispatch event => exact (List.append_nil _).symm
  | step index =>
    cases begun : dispatcher.dispatches[index]? with
    | none =>
      rw [perform_step_of_none begun]
      exact (List.append_nil _).symm
    | some dispatching =>
      rw [perform_step_of_some begun]
      exact (List.append_nil _).symm

theorem length_dispatches_perform (dispatcher : Dispatcher World) (move : Move World) :
    (dispatcher.perform move).dispatches.length =
      dispatcher.dispatches.length + [move].countP (·.isDispatch) := by
  cases move with
  | rebuild table => rfl
  | teardown => rfl
  | snapshot => rfl
  | dispatch event => exact List.length_append
  | step index =>
    cases begun : dispatcher.dispatches[index]? with
    | none =>
      rw [perform_step_of_none begun]
      rfl
    | some dispatching =>
      rw [perform_step_of_some begun]
      exact List.length_set

/-- A dispatch is changed by its own steps only. -/
theorem getElem?_dispatches_perform {index : Nat} {dispatching : Dispatching World}
    (begun : dispatcher.dispatches[index]? = some dispatching) (move : Move World) :
    (dispatcher.perform move).dispatches[index]? =
      some (if move.isStepOf index then (dispatching.step.run dispatcher.world).1
        else dispatching) := by
  cases move with
  | rebuild table => exact begun
  | teardown => exact begun
  | snapshot => exact begun
  | dispatch event =>
    obtain ⟨bound, -⟩ := List.getElem?_eq_some_iff.mp begun
    exact (List.getElem?_append_left bound).trans begun
  | step other =>
    by_cases same : other = index
    · subst same
      obtain ⟨bound, -⟩ := List.getElem?_eq_some_iff.mp begun
      rw [perform_step_of_some begun]
      simp [Move.isStepOf, bound]
    · have kept : (Move.step other : Move World).isStepOf index = false := beq_false_of_ne same
      rw [kept, if_neg Bool.false_ne_true, ← begun]
      cases otherBegun : dispatcher.dispatches[other]? with
      | none => rw [perform_step_of_none otherBegun]
      | some stepping =>
        rw [perform_step_of_some otherBegun]
        exact List.getElem?_set_ne same

/-! ### What any moves leave alone -/

theorem after_cons (dispatcher : Dispatcher World) (move : Move World) (rest : List (Move World)) :
    dispatcher.after (move :: rest) = (dispatcher.perform move).after rest :=
  rfl

theorem table_after {moves : List (Move World)} (keep : ∀ move ∈ moves, move.replaces = false) :
    (dispatcher.after moves).table = dispatcher.table := by
  induction moves generalizing dispatcher with
  | nil => rfl
  | cons move rest inductionHypothesis =>
    obtain ⟨keeps, restKeep⟩ := List.forall_mem_cons.mp keep
    rw [after_cons, inductionHypothesis restKeep, table_perform keeps]

theorem length_snapshots_after (dispatcher : Dispatcher World) (moves : List (Move World)) :
    (dispatcher.after moves).snapshots.length =
      dispatcher.snapshots.length + moves.countP (·.isSnapshot) := by
  induction moves generalizing dispatcher with
  | nil => rfl
  | cons move rest inductionHypothesis =>
    rw [after_cons, inductionHypothesis, snapshots_perform, List.length_append, List.countP_cons,
      Nat.add_assoc, Nat.add_comm (rest.countP _)]
    cases move.isSnapshot <;> rfl

theorem snapshots_prefix_after (dispatcher : Dispatcher World) (moves : List (Move World)) :
    dispatcher.snapshots <+: (dispatcher.after moves).snapshots := by
  induction moves generalizing dispatcher with
  | nil => exact List.prefix_refl _
  | cons move rest inductionHypothesis =>
    refine List.IsPrefix.trans ?_ (inductionHypothesis (dispatcher.perform move))
    rw [snapshots_perform]
    exact List.prefix_append _ _

theorem length_dispatches_after (dispatcher : Dispatcher World) (moves : List (Move World)) :
    (dispatcher.after moves).dispatches.length =
      dispatcher.dispatches.length + moves.countP (·.isDispatch) := by
  induction moves generalizing dispatcher with
  | nil => rfl
  | cons move rest inductionHypothesis =>
    rw [after_cons, inductionHypothesis, length_dispatches_perform, Nat.add_assoc,
      ← List.countP_append, List.singleton_append]

/-- Whatever the moves are, a dispatch comes as far as it makes steps. -/
theorem exists_reached_after {index count : Nat} {dispatching : Dispatching World}
    {table : DispatchTable World} {event : Event}
    (begun : dispatcher.dispatches[index]? = some dispatching)
    (reached : dispatching.Reached table event count) (moves : List (Move World)) :
    ∃ later, (dispatcher.after moves).dispatches[index]? = some later ∧
      later.Reached table event (count + moves.countP (·.isStepOf index)) := by
  induction moves generalizing dispatcher dispatching count with
  | nil => exact ⟨dispatching, begun, reached⟩
  | cons move rest inductionHypothesis =>
    have performed := getElem?_dispatches_perform begun move
    cases own : move.isStepOf index with
    | false =>
      rw [own, if_neg Bool.false_ne_true] at performed
      rw [List.countP_cons_of_neg (by simp [own])]
      exact inductionHypothesis performed reached
    | true =>
      rw [own, if_pos rfl] at performed
      obtain ⟨later, found, further⟩ :=
        inductionHypothesis performed (reached.step dispatcher.world)
      refine ⟨later, found, ?_⟩
      rwa [List.countP_cons_of_pos (by simp [own]), Nat.add_comm _ 1, ← Nat.add_assoc]

/-- The dispatch that begins with a move takes the table that is in force there. Whatever follows,
it is one of the dispatches then, and has come as far as it made steps. -/
theorem exists_reached_of_dispatch (dispatcher : Dispatcher World) (earlier : List (Move World))
    (event : Event) (later : List (Move World)) :
    ∃ dispatching, (dispatcher.after (earlier ++ .dispatch event :: later)).dispatches[
        dispatcher.dispatches.length + earlier.countP (·.isDispatch)]? = some dispatching ∧
      dispatching.Reached (dispatcher.after earlier).table event (later.countP
        (·.isStepOf (dispatcher.dispatches.length + earlier.countP (·.isDispatch)))) := by
  rw [after_append, after_cons, ← length_dispatches_after]
  have begun : ((dispatcher.after earlier).perform (.dispatch event)).dispatches[
      (dispatcher.after earlier).dispatches.length]? =
        some (.start (dispatcher.after earlier).table event) :=
    List.getElem?_concat_length
  obtain ⟨dispatching, found, reached⟩ :=
    exists_reached_after begun (Dispatching.reached_start _ event) later
  rw [Nat.zero_add] at reached
  exact ⟨dispatching, found, reached⟩

/-- A snapshot is of the table that is in force there, whatever follows. -/
theorem getElem?_snapshots_of_snapshot (dispatcher : Dispatcher World)
    (earlier later : List (Move World)) :
    (dispatcher.after (earlier ++ .snapshot :: later)).snapshots[
        dispatcher.snapshots.length + earlier.countP (·.isSnapshot)]? =
      some (dispatcher.after earlier).table := by
  rw [after_append, after_cons, ← length_snapshots_after]
  have taken : ((dispatcher.after earlier).perform .snapshot).snapshots[
      (dispatcher.after earlier).snapshots.length]? = some (dispatcher.after earlier).table :=
    List.getElem?_concat_length
  obtain ⟨others, behind⟩ :=
    snapshots_prefix_after ((dispatcher.after earlier).perform .snapshot) later
  obtain ⟨bound, -⟩ := List.getElem?_eq_some_iff.mp taken
  rw [← behind, List.getElem?_append_left bound]
  exact taken

/-- A table that was put into force is in force until it is replaced. -/
theorem table_after_rebuild (dispatcher : Dispatcher World) (earlier : List (Move World))
    (rebuilt : DispatchTable World) {between : List (Move World)}
    (keep : ∀ move ∈ between, move.replaces = false) :
    (dispatcher.after (earlier ++ .rebuild rebuilt :: between)).table = rebuilt := by
  rw [after_append, after_cons, table_after keep]
  rfl

/-- Dispatches that run at the same time, while tables are put into force and taken out of it. Each
has come as far down the table that was in force when it began as it made steps, and reports of the
rule sets down to there that find what they insist on. If the rule sets of this table are blind to
what others do, this is the report of an uninterrupted dispatch from it, as far as it goes.
Snapshots stay as they were taken. A dispatch begins with the table that was put into force last. -/
theorem dispatches_isolated {Vars Actions Shared Write : Type}
    (division : Division World Vars Actions Shared Write) (table : DispatchTable World)
    (world : World) (moves : List (Move World)) :
    let initial : Dispatcher World := { table, world }
    (initial.after moves).dispatches.length = moves.countP (·.isDispatch) ∧
    (∀ earlier event later, moves = earlier ++ .dispatch event :: later →
      let taken := (initial.after earlier).table
      let made := later.countP (·.isStepOf (earlier.countP (·.isDispatch)))
      ∃ dispatching,
        (initial.after moves).dispatches[earlier.countP (·.isDispatch)]? = some dispatching ∧
        dispatching.Reached taken event made ∧
        ((∀ ruleSet ∈ taken.ruleSetsFor event.signal, ruleSet.Blind division) →
          ∀ before, ∃ others left, (taken.dispatch event).run before =
              (⟨event.signal, dispatching.results ++ others⟩, left) ∧
            ((taken.ruleSetsFor event.signal).length ≤ made → others = []))) ∧
    (∀ earlier later, moves = earlier ++ .snapshot :: later →
      (initial.after moves).snapshots[earlier.countP (·.isSnapshot)]? =
        some (initial.after earlier).table) ∧
    ∀ earlier rebuilt between later, moves = earlier ++ .rebuild rebuilt :: between ++ later →
      (∀ move ∈ between, move.replaces = false) →
      (initial.after (earlier ++ .rebuild rebuilt :: between)).table = rebuilt := by
  intro initial
  refine ⟨?_, ?_, ?_, ?_⟩
  · rw [length_dispatches_after, List.length_nil, Nat.zero_add]
  · rintro earlier event later rfl taken made
    obtain ⟨dispatching, found, reached⟩ :=
      initial.exists_reached_of_dispatch earlier event later
    rw [List.length_nil, Nat.zero_add] at found reached
    exact ⟨dispatching, found, reached, fun blind before => reached.results_prefix blind before⟩
  · rintro earlier later rfl
    have kept := initial.getElem?_snapshots_of_snapshot earlier later
    rwa [List.length_nil, Nat.zero_add] at kept
  · rintro earlier rebuilt between later - keep
    exact initial.table_after_rebuild earlier rebuilt keep

/-- The rule set of the sales project is taken out of force while an event is on its way. The report
is the same as without that. -/
theorem dispatches_isolated_spotChanges :
    ∃ ruleSet, (Sales.compiler.compile .spotChanges).1 = .ok ruleSet ∧
      ∀ (event : Event) (outbox : Sales.Outbox), ∃ dispatching left,
        (({ table := .empty, world := outbox } : Dispatcher Sales.Outbox).after
          [.rebuild (.build [ruleSet]), .dispatch event, .teardown, .step 0]).dispatches[0]? =
            some dispatching ∧
        ((DispatchTable.build [ruleSet]).dispatch event).run outbox =
          (⟨event.signal, dispatching.results⟩, left) := by
  have accepts : (Sales.compiler.compile .spotChanges).1.isOk = true := by decide +kernel
  obtain ⟨ruleSet, accepted⟩ := exists_of_isOk accepts
  obtain ⟨sameVars, sameActions, -⟩ := Compiler.made_with_providers
    (Fields.find?_cons_self [] _ _) (Fields.find?_cons_self [] _ _) accepted
  have blind : ruleSet.Blind Sales.sharedOutbox :=
    ⟨sameVars ▸ Sales.variablesTable_blind, sameActions ▸ Sales.actionsTable_blind⟩
  refine ⟨ruleSet, accepted, fun event outbox => ?_⟩
  obtain ⟨dispatching, found, -, whole⟩ := (dispatches_isolated Sales.sharedOutbox .empty outbox
    [.rebuild (.build [ruleSet]), .dispatch event, .teardown, .step 0]).2.1
      [.rebuild (.build [ruleSet])] event [.teardown, .step 0] rfl
  have listed : ∀ other ∈ (DispatchTable.build [ruleSet]).ruleSetsFor event.signal,
      other.Blind Sales.sharedOutbox := by
    rw [DispatchTable.ruleSetsFor_build]
    intro other member
    rwa [List.mem_singleton.mp (List.mem_of_mem_filter member)]
  have short : ((DispatchTable.build [ruleSet]).ruleSetsFor event.signal).length ≤ 1 := by
    rw [DispatchTable.ruleSetsFor_build]
    exact List.length_filter_le _ [ruleSet]
  obtain ⟨others, left, dispatched, none⟩ := whole listed outbox
  refine ⟨dispatching, left, found, dispatched.trans ?_⟩
  rw [none short, List.append_nil]

end Dispatcher

end Rulebook
