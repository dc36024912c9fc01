/-
This file says that nobody can tell which disabled blocks a rule set has. Rule sets that agree once
their disabled blocks are taken out compile alike, however many such blocks there are, wherever they
stand and whatever is wrong in them: the compiled form with its version is the same, or the error
with its place is.

A compiler goes on from where it stands, so this carries over to lists of rule sets, to files, and
to a service through any sequence of commands: the tables in force, what they count and what events
do are the same after every step.
-/
import Rulebook.Proofs.Reload

namespace Rulebook

variable {World : Type}

/-- The rule sets have the same enabled blocks in the same order, and agree in all but their blocks.
-/
structure RuleSet.SameEnabled (first second : RuleSet) : Prop where
  others : second = { first with ruleBlocks := second.ruleBlocks }
  blocks : first.ruleBlocks.filter (·.enabled) = second.ruleBlocks.filter (·.enabled)

namespace RuleSet.SameEnabled

variable {first second : RuleSet}

theorem refl (ruleSet : RuleSet) : ruleSet.SameEnabled ruleSet := ⟨rfl, rfl⟩

/-- A disabled block may be put in anywhere. -/
theorem insert (ruleSet : RuleSet) {block : RuleBlock} (disabled : block.enabled = false)
    {before after : List RuleBlock} (split : ruleSet.ruleBlocks = before ++ after) :
    ruleSet.SameEnabled { ruleSet with ruleBlocks := before ++ block :: after } where
  others := rfl
  blocks := by
    rw [split, List.filter_append, List.filter_append,
      List.filter_cons_of_neg (Bool.eq_false_iff.mp disabled)]

theorem name_eq (same : first.SameEnabled second) : first.name = second.name := by
  rw [same.others]

end RuleSet.SameEnabled

/-! ### Compiling -/

namespace Compiler

variable {first second : RuleSet} {firsts seconds : List RuleSet}

theorem check_sameEnabled (compiler : Compiler World) (same : first.SameEnabled second) :
    compiler.check first = compiler.check second := by
  rw [same.others]
  unfold check
  simp only [same.blocks]

theorem compile_sameEnabled (compiler : Compiler World) (same : first.SameEnabled second) :
    compiler.compile first = compiler.compile second := by
  unfold compile
  rw [compiler.check_sameEnabled same]

/-- Rule sets that are compiled one after another leave compilers that stand at the same place. -/
theorem compileEach_sameEnabled (compiler : Compiler World)
    (same : List.Forall₂ RuleSet.SameEnabled firsts seconds) :
    compiler.compileEach firsts = compiler.compileEach seconds := by
  induction same generalizing compiler with
  | nil => rfl
  | cons head _ inductionHypothesis =>
    unfold compileEach
    simp only [compile_sameEnabled compiler head, inductionHypothesis, head.name_eq]

theorem compileAll_sameEnabled (compiler : Compiler World)
    (same : List.Forall₂ RuleSet.SameEnabled firsts seconds) :
    compiler.compileAll firsts = compiler.compileAll seconds := by
  unfold compileAll
  rw [compiler.compileEach_sameEnabled same]

end Compiler

/-! ### A service -/

namespace Host

/-- The commands do the same but for the disabled blocks of the rule sets that they load. -/
inductive Command.SameEnabled : Command → Command → Prop where
  | same (command : Command) : SameEnabled command command
  | reload {absent otherAbsent : Absent} {path otherPath : String} {source other : RuleSource}
      (ruleSets : Option.Rel (List.Forall₂ RuleSet.SameEnabled) (source.ruleSets? absent)
        (other.ruleSets? otherAbsent)) :
      SameEnabled (.reload absent path source) (.reload otherAbsent otherPath other)

theorem Command.SameEnabled.perform_eq {command other : Command}
    (same : command.SameEnabled other) (state : Host World × World) :
    command.perform state = other.perform state := by
  cases same with
  | same => rfl
  | @reload absent otherAbsent path otherPath source other ruleSets =>
    refine congrArg (·, state.2) ?_
    generalize found : source.ruleSets? absent = loaded at ruleSets
    generalize otherFound : other.ruleSets? otherAbsent = otherLoaded at ruleSets
    cases ruleSets with
    | none =>
      obtain ⟨_, unchanged⟩ :
          ∃ error, state.1.reload absent path source = (.error error, state.1) :=
        reload_of_none path found
      obtain ⟨_, otherUnchanged⟩ :
          ∃ error, state.1.reload otherAbsent otherPath other = (.error error, state.1) :=
        reload_of_none otherPath otherFound
      rw [unchanged, otherUnchanged]
    | some alike =>
      have sameLoaded := congrArg (·.1.1) (state.1.compiler.compileEach_sameEnabled alike)
      rw [reload_of_some path found, reload_of_some otherPath otherFound]
      simp only [Compiler.loaded, sameLoaded]

/-- Whatever is done to a service, it goes through the same states, and so does the world, if only
disabled blocks are different. -/
theorem afterAll_sameEnabled {commands others : List Command}
    (same : List.Forall₂ Command.SameEnabled commands others) (state : Host World × World) :
    afterAll state commands = afterAll state others := by
  induction same generalizing state with
  | nil => rfl
  | cons head _ inductionHypothesis =>
    show afterAll (Command.perform _ state) _ = afterAll (Command.perform _ state) _
    rw [head.perform_eq]
    exact inductionHypothesis _

end Host

/-! ### Disabled blocks are not seen -/

/-- Where items are related to themselves, a list is related to one with another item in one
place. -/
theorem forall₂_replaced {Item : Type} {related : Item → Item → Prop}
    (refl : ∀ item, related item item) {first second : Item} (relation : related first second)
    (front back : List Item) :
    List.Forall₂ related (front ++ first :: back) (front ++ second :: back) :=
  List.rel_append (List.forall₂_same.mpr fun item _ => refl item)
    (.cons relation (List.forall₂_same.mpr fun item _ => refl item))

/-- Rule sets that differ in their disabled blocks only are compiled to the same, or refused with
the same error, and what is made of them is triggered alike. A list that has one of them in place of
the other gives the same table and the same refusals, and a service that loads one of them in place
of the other goes on in the same way whatever is done to it. -/
theorem Compiler.disabled_blocks_invisible {first second : RuleSet} (compiler : Compiler World)
    (same : first.SameEnabled second) :
    compiler.compile first = compiler.compile second ∧
    (∀ compiled other, (compiler.compile first).1 = .ok compiled →
      (compiler.compile second).1 = .ok other → ∀ args before,
        (compiled.trigger args).perform before = (other.trigger args).perform before) ∧
    (∀ front back, compiler.compileAll (front ++ first :: back) =
      compiler.compileAll (front ++ second :: back)) ∧
    ∀ (state : Host World × World) earlier later absent path source other front back,
      Host.RuleSource.ruleSets? absent source = some (front ++ first :: back) →
      Host.RuleSource.ruleSets? absent other = some (front ++ second :: back) →
        Host.afterAll state (earlier ++ .reload absent path source :: later) =
          Host.afterAll state (earlier ++ .reload absent path other :: later) := by
  have compiles := compiler.compile_sameEnabled same
  have lists (front back : List RuleSet) :
      List.Forall₂ RuleSet.SameEnabled (front ++ first :: back) (front ++ second :: back) :=
    forall₂_replaced .refl same front back
  refine ⟨compiles, ?_, fun front back => compiler.compileAll_sameEnabled (lists front back), ?_⟩
  · intro compiled other accepted otherAccepted args before
    rw [compiles] at accepted
    obtain rfl := Except.ok.inj (accepted.symm.trans otherAccepted)
    rfl
  · intro state earlier later absent path source other front back found otherFound
    have ruleSets : Option.Rel (List.Forall₂ RuleSet.SameEnabled) (source.ruleSets? absent)
        (other.ruleSets? absent) := by
      rw [found, otherFound]
      exact .some (lists front back)
    exact Host.afterAll_sameEnabled (forall₂_replaced .same (.reload ruleSets) earlier later) state

/-- A block in which nothing is right: its sets bear one name, are inside one another and use an
operator that is not known, and its action is not known either. -/
def RuleBlock.draft : RuleBlock where
  id := "draft"
  name := "draft"
  enabled := false
  conditionSets := List.replicate 2 {
    id := "set"
    name := "set"
    combinationRule := "none"
    parent := some "set"
    conditions := [⟨"condition", "age", [], "op.nonexistent", some "1"⟩] }
  actions := [⟨"action", "launch_rocket", []⟩]

/-- The rule set with a draft in front of its block. -/
def RuleSet.withDraft : RuleSet :=
  { RuleSet.innerFirst with ruleBlocks := .draft :: RuleSet.innerFirst.ruleBlocks }

theorem Compiler.disabled_blocks_invisible_withDraft :
    (Compiler.ofSales.compile .innerFirst).1.isOk = true ∧
      Compiler.ofSales.compile .innerFirst = Compiler.ofSales.compile .withDraft :=
  ⟨by decide +kernel,
    (disabled_blocks_invisible ofSales (.insert .innerFirst rfl (List.nil_append _).symm)).1⟩

end Rulebook
