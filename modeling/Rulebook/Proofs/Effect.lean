/-
This file says how steps with effects run: what a world is after two steps in a row, after a list of
steps, and after a step whose result is thrown away.

A list of steps ends in an error exactly if it can be cut at one step, so that all steps before it
went well, this one did not, and none after it was taken. Where only what is done to the world
matters, the results of steps can be thrown away, and a program that collects results becomes a
list of steps, to which this applies.

Much is said about programs by saying it about their steps, or by comparing their steps with those
of other programs. If this is kept when steps are put in sequence, it is kept when lists are gone
through; that is one induction for everything that is said in this way.
-/
import Mathlib.Data.List.Forall2
import Rulebook.Effect

namespace Rulebook

/-! ### What is kept in sequence -/

section Sequence

variable {Step Other : Type → Type} [Monad Step] [Monad Other]

/-- Steps are alike if they do nothing, and in sequence if the first ones are alike and, whatever
these result in, the next ones. -/
structure AlikeInSequence (alike : (Result : Type) → Step Result → Other Result → Prop) : Prop where
  pure : ∀ {Result : Type} (result : Result), alike Result (Pure.pure result) (Pure.pure result)
  bind : ∀ {First Second : Type} {step : Step First} {other : Other First}
    {next : First → Step Second} {otherNext : First → Other Second}, alike First step other →
      (∀ result, alike Second (next result) (otherNext result)) →
        alike Second (step >>= next) (other >>= otherNext)

/-- A step that does nothing has the property, and steps in sequence have it if the first one has
it and, whatever that results in, the next one. -/
structure KeptInSequence (holds : (Result : Type) → Step Result → Prop) : Prop where
  pure : ∀ {Result : Type} (result : Result), holds Result (Pure.pure result)
  bind : ∀ {First Second : Type} {step : Step First} {next : First → Step Second},
    holds First step → (∀ result, holds Second (next result)) → holds Second (step >>= next)

variable {Item OtherItem Result : Type}

/-- Lists that are gone through side by side are gone through alike. -/
theorem AlikeInSequence.mapM [LawfulMonad Step] [LawfulMonad Other]
    {alike : (Result : Type) → Step Result → Other Result → Prop} (kept : AlikeInSequence alike)
    (act : Item → Step Result) (otherAct : OtherItem → Other Result) {items : List Item}
    {others : List OtherItem}
    (each : List.Forall₂ (fun item other => alike Result (act item) (otherAct other))
      items others) :
    alike (List Result) (items.mapM act) (others.mapM otherAct) := by
  induction each with
  | nil => exact kept.pure []
  | cons head _ inductionHypothesis =>
    rw [List.mapM_cons, List.mapM_cons]
    exact kept.bind head fun result =>
      kept.bind inductionHypothesis fun results => kept.pure (result :: results)

/-- Steps that are told where their item comes from are alike with steps on the related items. -/
theorem AlikeInSequence.mapM_attach [LawfulMonad Step] [LawfulMonad Other]
    {alike : (Result : Type) → Step Result → Other Result → Prop} (kept : AlikeInSequence alike)
    {items : List Item} {others : List OtherItem} {related : Item → OtherItem → Prop}
    (act : { item // item ∈ items } → Step Result) (otherAct : OtherItem → Other Result)
    (pairs : List.Forall₂ related items others)
    (each : ∀ item other, related item.1 other → alike Result (act item) (otherAct other)) :
    alike (List Result) (items.attach.mapM act) (others.mapM otherAct) := by
  rw [← List.attach_map_subtype_val items, List.forall₂_map_left_iff] at pairs
  exact kept.mapM act otherAct (pairs.imp each)

/-- Steps in sequence are equal if they are equal one by one. -/
theorem AlikeInSequence.eq : AlikeInSequence fun Result (step other : Step Result) =>
    step = other where
  pure _ := rfl
  bind first rest := first ▸ congrArg (_ >>= ·) (funext rest)

variable {holds : (Result : Type) → Step Result → Prop}

theorem KeptInSequence.alike (kept : KeptInSequence holds) :
    AlikeInSequence fun Result (step _ : Step Result) => holds Result step where
  pure := kept.pure
  bind := kept.bind

theorem KeptInSequence.mapM [LawfulMonad Step] (kept : KeptInSequence holds) {items : List Item}
    {act : Item → Step Result} (each : ∀ item ∈ items, holds Result (act item)) :
    holds (List Result) (items.mapM act) :=
  kept.alike.mapM act act (List.forall₂_same.mpr each)

theorem KeptInSequence.forM (kept : KeptInSequence holds) {items : List Item}
    {act : Item → Step Unit} (each : ∀ item ∈ items, holds Unit (act item)) :
    holds Unit (ForM.forM items act) := by
  induction items with
  | nil => exact kept.pure ()
  | cons item rest inductionHypothesis =>
    rw [List.forM_cons]
    obtain ⟨first, others⟩ := List.forall_mem_cons.mp each
    exact kept.bind first fun _ => inductionHypothesis others

end Sequence

namespace Effect

variable {World Error First Second Item : Type}

/-! ### One step after another -/

@[simp] theorem perform_pure (result : First) (world : World) :
    Effect.perform (pure result : Effect World Error First) world = (.ok result, world) := rfl

/-- The second step starts in the world that the first one left, unless the first one failed. -/
theorem perform_bind (step : Effect World Error First) (next : First → Effect World Error Second)
    (world : World) :
    Effect.perform (step >>= next) world =
      match step.perform world with
      | (.ok result, after) => (next result).perform after
      | (.error error, after) => (.error error, after) := by
  show ((ExceptT.bind step next).run).run world = _
  unfold ExceptT.bind Effect.perform
  show (StateT.bind step.run (ExceptT.bindCont next)).run world = _
  unfold StateT.bind
  show (ExceptT.bindCont next (step.run.run world).1).run (step.run.run world).2 = _
  rcases step.run.run world with ⟨error | result, after⟩ <;> rfl

theorem perform_bind_of_ok {step : Effect World Error First}
    {next : First → Effect World Error Second} {before reached : World} {result : First}
    (went : step.perform before = (.ok result, reached)) :
    Effect.perform (step >>= next) before = (next result).perform reached := by
  rw [perform_bind, went]

theorem perform_bind_of_error {step : Effect World Error First}
    {next : First → Effect World Error Second} {before after : World} {error : Error}
    (failed : step.perform before = (.error error, after)) :
    Effect.perform (step >>= next) before = (.error error, after) := by
  rw [perform_bind, failed]

/-- Two steps in a row went well if the first did and then the second. -/
theorem perform_bind_eq_ok_iff {step : Effect World Error First}
    {next : First → Effect World Error Second} {before after : World} {result : Second} :
    Effect.perform (step >>= next) before = (.ok result, after) ↔
      ∃ first reached, step.perform before = (.ok first, reached) ∧
        (next first).perform reached = (.ok result, after) := by
  rw [perform_bind]
  rcases step.perform before with ⟨error | first, reached⟩ <;> simp [and_assoc]

/-- Two steps in a row failed if the first did, or if it went well and the second failed. -/
theorem perform_bind_eq_error_iff {step : Effect World Error First}
    {next : First → Effect World Error Second} {before after : World} {error : Error} :
    Effect.perform (step >>= next) before = (.error error, after) ↔
      step.perform before = (.error error, after) ∨
        ∃ first reached, step.perform before = (.ok first, reached) ∧
          (next first).perform reached = (.error error, after) := by
  rw [perform_bind]
  rcases step.perform before with ⟨failure | first, reached⟩ <;> simp [and_assoc]

/-- What is made of the result of a step does not fail. -/
theorem perform_bind_pure_eq_error_iff {step : Effect World Error First} {present : First → Second}
    {before after : World} {error : Error} :
    Effect.perform (step >>= fun result => pure (present result)) before = (.error error, after) ↔
      step.perform before = (.error error, after) := by
  rw [perform_bind]
  rcases step.perform before with ⟨failure | result, reached⟩ <;> simp

/-! ### Lists of steps -/

/-- A list of steps failed if it can be cut at one of them: those before went well, this one failed,
and the world is as it left it. -/
theorem perform_forM_eq_error_iff {items : List Item} {act : Item → Effect World Error Unit}
    {before after : World} {error : Error} :
    Effect.perform (forM items act) before = (.error error, after) ↔
      ∃ earlier item later reached, items = earlier ++ item :: later ∧
        Effect.perform (forM earlier act) before = (.ok (), reached) ∧
        (act item).perform reached = (.error error, after) := by
  induction items generalizing before with
  | nil => simp
  | cons head rest inductionHypothesis =>
    rw [List.forM_cons, perform_bind_eq_error_iff]
    constructor
    · rintro (failed | ⟨⟨⟩, reached, went, failed⟩)
      · exact ⟨[], head, rest, before, rfl, rfl, failed⟩
      · obtain ⟨earlier, item, later, middle, rfl, wentOn, itemFailed⟩ :=
          inductionHypothesis.mp failed
        refine ⟨head :: earlier, item, later, middle, rfl, ?_, itemFailed⟩
        rw [List.forM_cons, perform_bind_of_ok went, wentOn]
    · rintro ⟨earlier, item, later, reached, shape, went, itemFailed⟩
      cases earlier with
      | nil =>
        obtain ⟨rfl, rfl⟩ := List.cons.inj shape
        obtain rfl : before = reached := (Prod.mk.inj went).2
        exact Or.inl itemFailed
      | cons first earlier =>
        obtain ⟨rfl, rfl⟩ := List.cons.inj shape
        rw [List.forM_cons] at went
        obtain ⟨⟨⟩, middle, headWent, restWent⟩ := perform_bind_eq_ok_iff.mp went
        exact Or.inr ⟨(), middle, headWent,
          inductionHypothesis.mpr ⟨earlier, item, later, reached, rfl, restWent, itemFailed⟩⟩

/-- A list of steps that is put together from two went well if both did, one after the other. -/
theorem perform_forM_append_eq_ok_iff {left right : List Item}
    {act : Item → Effect World Error Unit} {before after : World} :
    Effect.perform (forM (left ++ right) act) before = (.ok (), after) ↔
      ∃ reached, Effect.perform (forM left act) before = (.ok (), reached) ∧
        Effect.perform (forM right act) reached = (.ok (), after) := by
  rw [List.forM_append, perform_bind_eq_ok_iff]
  exact ⟨fun ⟨_, reached, leftWent, rightWent⟩ => ⟨reached, leftWent, rightWent⟩,
    fun ⟨reached, leftWent, rightWent⟩ => ⟨(), reached, leftWent, rightWent⟩⟩

/-! ### Steps without their results -/

/-- The step with its result thrown away: only what it does to the world and its error are left. -/
def silent (step : Effect World Error First) : Effect World Error Unit := do
  let _ ← step
  return ()

theorem perform_silent (step : Effect World Error First) (world : World) :
    step.silent.perform world =
      ((step.perform world).1.map fun _ => (), (step.perform world).2) := by
  unfold silent
  rw [perform_bind]
  rcases step.perform world with ⟨error | result, after⟩ <;> rfl

theorem perform_silent_eq_ok_iff {step : Effect World Error First} {before after : World} :
    step.silent.perform before = (.ok (), after) ↔
      ∃ result, step.perform before = (.ok result, after) := by
  rw [perform_silent]
  rcases step.perform before with ⟨error | result, reached⟩ <;> simp [Except.map]

theorem perform_silent_eq_error_iff {step : Effect World Error First} {before after : World}
    {error : Error} :
    step.silent.perform before = (.error error, after) ↔
      step.perform before = (.error error, after) := by
  rw [perform_silent]
  rcases step.perform before with ⟨failure | result, reached⟩ <;> simp [Except.map]

theorem silent_bind (step : Effect World Error First)
    (next : First → Effect World Error Second) :
    silent (step >>= next) = step >>= fun result => (next result).silent := by
  simp only [silent, bind_assoc]

/-- Where what follows throws all results away, the result of the first step is not needed. -/
theorem bind_const (step : Effect World Error First) (next : Effect World Error Second) :
    (step >>= fun _ => next) = step.silent >>= fun _ => next := by
  simp only [silent, bind_assoc, pure_bind]

/-- Joining the results of two steps does nothing more than the steps. -/
theorem silent_join {Result : Type} (first : Effect World Error First)
    (second : Effect World Error Second) (join : First → Second → Result) :
    silent (do
      let left ← first
      let right ← second
      return join left right) = first.silent >>= fun _ => second.silent := by
  rw [silent_bind, ← bind_const]
  refine bind_congr fun left => ?_
  rw [silent_bind]
  rfl

/-- Collecting the results of steps and throwing them away is taking the steps in order. -/
theorem silent_mapM (items : List Item) (act : Item → Effect World Error First) :
    silent (items.mapM act) = forM items fun item => (act item).silent := by
  induction items with
  | nil => rfl
  | cons head rest inductionHypothesis =>
    rw [List.mapM_cons, List.forM_cons, ← inductionHypothesis, silent_join]

end Effect

end Rulebook
