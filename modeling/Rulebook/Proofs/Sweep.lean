/-
This file goes through the sets of an arena from those on top, without knowing how they nest. It
keeps a mark for every position that was reached and a list of positions that wait, the next one in
front. A position that comes up for the first time is marked, and the positions inside it are put in
front; one that is marked is passed over. The list may grow while it is worked off, and nothing in
an arena keeps a position from being inside several others, or inside itself.

It ends all the same. Every turn takes one position from the list, and puts in only what is inside
a position that is not marked yet and is marked by this turn; so what waits, counted together with
what is inside positions without a mark, goes down by one. At the end exactly those positions are
marked to which a way leads down from one on top.
-/
import Rulebook.Proofs.Forest

namespace Rulebook

/-! ### Loops with a limit -/

/-- Why a loop over the positions of an arena breaks off. -/
inductive Halt where
  /-- There is no set at a position. -/
  | outOfRange (index : Nat)
  /-- The turns it was given are used up. -/
  | turnsUsedUp
  deriving DecidableEq

/-- With so many turns, or more, a loop comes to this end, and not for want of turns. -/
structure Settles {Result : Type} (loop : Nat → Except Halt Result) (limit : Nat)
    (ending : Except Halt Result) : Prop where
  free : ending ≠ .error .turnsUsedUp
  same : ∀ turns, limit ≤ turns → loop turns = ending

/-! ### The loop -/

/-- Which positions were reached, and those that wait, the next one in front. -/
structure Sweep where
  reached : List Bool
  waiting : List Nat

namespace Sweep

open Nesting (Way)

/-- Nothing is reached, and the positions on top wait, the last one in front. -/
def start (children : List (List Nat)) (roots : List Nat) : Sweep :=
  ⟨List.replicate children.length false, roots.reverse⟩

/-- One turn, for the position in front of the others. -/
def turn (children : List (List Nat)) (reached : List Bool) (index : Nat) (rest : List Nat) :
    Except Halt Sweep :=
  match reached[index]? with
  | none => .error (.outOfRange index)
  | some true => .ok ⟨reached, rest⟩
  | some false => .ok ⟨reached.set index true, (Nesting.inner children index).reverse ++ rest⟩

/-- Turns until nothing waits: the marks at the end. -/
def run (children : List (List Nat)) : (turns : Nat) → Sweep → Except Halt (List Bool)
  | _, ⟨reached, []⟩ => .ok reached
  | 0, ⟨_, _ :: _⟩ => .error .turnsUsedUp
  | turns + 1, ⟨reached, index :: rest⟩ => do
    run children turns (← turn children reached index rest)

/-! ### Every turn counts -/

/-- How many positions are inside those without a mark. -/
def unopened : List (List Nat) → List Bool → Nat
  | inside :: children, done :: reached =>
    (if done then 0 else inside.length) + unopened children reached
  | _, _ => 0

/-- How many turns are left. -/
def left (children : List (List Nat)) (sweep : Sweep) : Nat :=
  sweep.waiting.length + unopened children sweep.reached

variable {children : List (List Nat)} {roots : List Nat}

/-- What is inside a position counts until the position is marked. -/
theorem unopened_set {reached : List Bool} {index : Nat} (fresh : reached[index]? = some false) :
    unopened children reached =
      (Nesting.inner children index).length + unopened children (reached.set index true) := by
  induction children generalizing reached index with
  | nil => simp [unopened, Nesting.inner]
  | cons inside children inductionHypothesis =>
    cases reached with
    | nil => simp at fresh
    | cons done reached =>
      cases index with
      | zero =>
        obtain rfl : done = false := by simpa using fresh
        simp [unopened, Nesting.inner]
      | succ index =>
        have shifted : Nesting.inner (inside :: children) (index + 1) =
            Nesting.inner children index := by
          simp [Nesting.inner]
        rw [List.set_cons_succ, unopened, unopened, shifted,
          inductionHypothesis (by simpa using fresh : reached[index]? = some false)]
        omega

theorem left_turn {reached : List Bool} {index : Nat} {rest : List Nat} {next : Sweep}
    (turned : turn children reached index rest = .ok next) :
    next.left children + 1 = left children ⟨reached, index :: rest⟩ := by
  unfold turn at turned
  split at turned
  · exact nomatch turned
  · obtain rfl := Except.ok.inj turned
    simp only [left, List.length_cons]
    omega
  · next fresh =>
    obtain rfl := Except.ok.inj turned
    simp only [left, List.length_cons, List.length_append, List.length_reverse,
      @unopened_set children reached index fresh]
    omega

/-- From the start, the positions on top wait and nothing is opened. -/
theorem left_start (children : List (List Nat)) (roots : List Nat) :
    (start children roots).left children = roots.length + children.flatten.length := by
  have unopened_replicate : ∀ children : List (List Nat),
      unopened children (List.replicate children.length false) = children.flatten.length := by
    intro children
    induction children with
    | nil => rfl
    | cons inside children inductionHypothesis =>
      simp [unopened, List.replicate_succ, inductionHypothesis]
  simp [left, start, unopened_replicate]

/-- A sweep comes to an end after as many turns as are left, whatever the positions are. -/
theorem settles_run (children : List (List Nat)) (sweep : Sweep) :
    Settles (run children · sweep) (sweep.left children)
      (run children (sweep.left children) sweep) := by
  obtain ⟨reached, waiting⟩ := sweep
  generalize counted : left children ⟨reached, waiting⟩ = count
  -- On the number of turns that are left: a turn is taken on both sides, or the list is empty.
  induction count generalizing reached waiting with
  | zero =>
    cases waiting with
    | cons index rest => simp [left] at counted
    | nil => exact ⟨nofun, fun turns _ => by cases turns <;> rfl⟩
  | succ count inductionHypothesis =>
    cases waiting with
    | nil => exact ⟨nofun, fun turns _ => by cases turns <;> rfl⟩
    | cons index rest =>
      have step : ∀ turns, run children (turns + 1) ⟨reached, index :: rest⟩ =
          turn children reached index rest >>= run children turns := fun _ => rfl
      have later : Settles
          (fun turns => turn children reached index rest >>= run children turns) count
          (turn children reached index rest >>= run children count) := by
        cases turned : turn children reached index rest with
        | error halt =>
          refine ⟨fun same => ?_, fun _ _ => rfl⟩
          unfold turn at turned
          split at turned
          · obtain rfl := Except.error.inj turned
            exact nomatch same
          · exact nomatch turned
          · exact nomatch turned
        | ok next =>
          obtain ⟨nextReached, nextWaiting⟩ := next
          exact inductionHypothesis nextReached nextWaiting
            (Nat.succ.inj ((left_turn turned).trans counted))
      refine ⟨later.free, fun turns enough => ?_⟩
      have one : 1 ≤ turns := Nat.le_trans (Nat.le_add_left 1 count) enough
      obtain ⟨turns, rfl⟩ := Nat.exists_eq_add_of_le' one
      exact later.same turns (Nat.le_of_succ_le_succ enough)

/-! ### What is reached -/

/-- A mark that is made is added to those made before. -/
theorem marked_set_iff {marks : List Bool} {index other : Nat} (bound : index < marks.length) :
    (marks.set index true)[other]? = some true ↔ other = index ∨ marks[other]? = some true := by
  rw [List.getElem?_set]
  by_cases same : index = other
  · simp [← same, bound]
  · simp [same, Ne.symm same]

/-- A way leads down to a position from one on top. -/
def Leads (children : List (List Nat)) (roots : List Nat) (index : Nat) : Prop :=
  ∃ root ∈ roots, ∃ way, Way children root way index

theorem Leads.inside {above index : Nat} (leads : Leads children roots above)
    (member : index ∈ Nesting.inner children above) : Leads children roots index := by
  obtain ⟨root, onTop, way, before⟩ := leads
  exact ⟨root, onTop, way ++ [index], .down before member⟩

/-- A position is marked, or it waits. -/
def Covers (sweep : Sweep) (index : Nat) : Prop :=
  sweep.reached[index]? = some true ∨ index ∈ sweep.waiting

/-- What a turn keeps: there is a mark for every set; ways lead to all that is covered; and all is
covered that is on top or inside a position with a mark. -/
structure Sound (children : List (List Nat)) (roots : List Nat) (sweep : Sweep) : Prop where
  length : sweep.reached.length = children.length
  leads : ∀ index, sweep.Covers index → Leads children roots index
  tops : ∀ root ∈ roots, sweep.Covers root
  insides : ∀ above, sweep.reached[above]? = some true →
    ∀ index ∈ Nesting.inner children above, sweep.Covers index

theorem sound_start (children : List (List Nat)) (roots : List Nat) :
    (start children roots).Sound children roots := by
  have unmarked : ∀ index : Nat, (start children roots).reached[index]? ≠ some true := by
    intro index marked
    have := List.mem_of_getElem? marked
    simp [start] at this
  refine ⟨List.length_replicate, fun index covered => ?_, fun root onTop => ?_,
    fun above marked => ?_⟩
  · rcases covered with marked | waits
    · exact absurd marked (unmarked index)
    · exact ⟨index, List.mem_reverse.mp waits, [], .here⟩
  · exact Or.inr (List.mem_reverse.mpr onTop)
  · exact absurd marked (unmarked above)

theorem Sound.turn {reached : List Bool} {index : Nat} {rest : List Nat} {next : Sweep}
    (sound : Sound children roots ⟨reached, index :: rest⟩)
    (turned : turn children reached index rest = .ok next) : next.Sound children roots := by
  unfold Sweep.turn at turned
  split at turned
  · exact nomatch turned
  · next marked =>
    obtain rfl := Except.ok.inj turned
    have kept : ∀ other, Covers ⟨reached, index :: rest⟩ other →
        Covers ⟨reached, rest⟩ other := by
      rintro other (marked | waits)
      · exact Or.inl marked
      · rcases List.mem_cons.mp waits with rfl | waits
        · exact Or.inl marked
        · exact Or.inr waits
    exact {
      length := sound.length
      leads := fun other covered => sound.leads other (covered.imp_right (List.mem_cons_of_mem _))
      tops := fun root onTop => kept root (sound.tops root onTop)
      insides := fun above marked other member =>
        kept other (sound.insides above marked other member) }
  · next fresh =>
    obtain rfl := Except.ok.inj turned
    have bound : index < reached.length := (List.getElem?_eq_some_iff.mp fresh).1
    have marked_iff := fun other => @marked_set_iff reached index other bound
    have kept : ∀ other, Covers ⟨reached, index :: rest⟩ other →
        Covers ⟨reached.set index true, (Nesting.inner children index).reverse ++ rest⟩ other := by
      rintro other (marked | waits)
      · exact Or.inl ((marked_iff other).mpr (Or.inr marked))
      · rcases List.mem_cons.mp waits with rfl | waits
        · exact Or.inl ((marked_iff other).mpr (Or.inl rfl))
        · exact Or.inr (List.mem_append_right _ waits)
    have here : Leads children roots index := sound.leads index (Or.inr List.mem_cons_self)
    refine ⟨by rw [List.length_set]; exact sound.length, fun other covered => ?_,
      fun root onTop => kept root (sound.tops root onTop), fun above marked other member => ?_⟩
    · rcases covered with marked | waits
      · rcases (marked_iff other).mp marked with rfl | marked
        · exact here
        · exact sound.leads other (Or.inl marked)
      · rcases List.mem_append.mp waits with inside | waits
        · exact here.inside (List.mem_reverse.mp inside)
        · exact sound.leads other (Or.inr (List.mem_cons_of_mem _ waits))
    · rcases (marked_iff above).mp marked with rfl | marked
      · exact Or.inr (List.mem_append_left _ (List.mem_reverse.mpr member))
      · exact kept other (sound.insides above marked other member)

theorem Sound.run {sweep : Sweep} {turns : Nat} {marks : List Bool}
    (sound : sweep.Sound children roots) (ended : run children turns sweep = .ok marks) :
    Sound children roots ⟨marks, []⟩ := by
  obtain ⟨reached, waiting⟩ := sweep
  induction turns generalizing reached waiting with
  | zero =>
    cases waiting with
    | nil =>
      obtain rfl := Except.ok.inj ended
      exact sound
    | cons index rest => exact nomatch ended
  | succ turns inductionHypothesis =>
    cases waiting with
    | nil =>
      obtain rfl := Except.ok.inj ended
      exact sound
    | cons index rest =>
      obtain ⟨next, turned, ended⟩ := bind_eq_ok_iff.mp ended
      exact inductionHypothesis next.reached next.waiting (sound.turn turned) ended

/-- Where nothing waits any more, exactly the positions are marked that ways lead to. -/
theorem Sound.marked_iff {marks : List Bool} (sound : Sound children roots ⟨marks, []⟩)
    {index : Nat} : marks[index]? = some true ↔ Leads children roots index := by
  have covers_iff : ∀ other, Covers ⟨marks, []⟩ other ↔ marks[other]? = some true :=
    fun other => or_iff_left List.not_mem_nil
  constructor
  · exact fun marked => sound.leads index (Or.inl marked)
  · rintro ⟨root, onTop, way, leads⟩
    induction leads with
    | here => exact (covers_iff root).mp (sound.tops root onTop)
    | down _ inside inductionHypothesis =>
      exact (covers_iff _).mp (sound.insides _ inductionHypothesis _ inside)

/-! ### Arenas whose positions exist -/

/-- The positions inside sets exist. -/
def InRange (children : List (List Nat)) : Prop :=
  ∀ inside ∈ children, ∀ index ∈ inside, index < children.length

theorem InRange.inner (inRange : InRange children) {above index : Nat}
    (member : index ∈ Nesting.inner children above) : index < children.length := by
  unfold Nesting.inner at member
  cases found : children[above]? with
  | none => simp [found] at member
  | some inside =>
    rw [found] at member
    exact inRange inside (List.mem_of_getElem? found) index member

theorem Leads.lt_length {index : Nat} (leads : Leads children roots index)
    (inRange : InRange children) (exist : ∀ root ∈ roots, root < children.length) :
    index < children.length := by
  obtain ⟨root, onTop, way, leads⟩ := leads
  cases leads with
  | here => exact exist _ onTop
  | down _ inside => exact inRange.inner inside

/-- A sweep over positions that exist does not break off. -/
theorem Sound.exists_run {sweep : Sweep} (sound : sweep.Sound children roots)
    (inRange : InRange children) (exist : ∀ root ∈ roots, root < children.length)
    {turns : Nat} (enough : sweep.left children ≤ turns) :
    ∃ marks, Sweep.run children turns sweep = .ok marks := by
  obtain ⟨reached, waiting⟩ := sweep
  induction turns generalizing reached waiting with
  | zero =>
    cases waiting with
    | nil => exact ⟨reached, rfl⟩
    | cons index rest => simp [left] at enough
  | succ turns inductionHypothesis =>
    cases waiting with
    | nil => exact ⟨reached, rfl⟩
    | cons index rest =>
      have bound : index < reached.length := sound.length ▸
        (sound.leads index (Or.inr List.mem_cons_self)).lt_length inRange exist
      obtain ⟨next, turned⟩ : ∃ next, Sweep.turn children reached index rest = .ok next := by
        unfold Sweep.turn
        rw [List.getElem?_eq_getElem bound]
        cases reached[index] <;> exact ⟨_, rfl⟩
      have enoughLeft : next.left children + 1 ≤ turns + 1 := left_turn turned ▸ enough
      obtain ⟨marks, ended⟩ := inductionHypothesis next.reached next.waiting (sound.turn turned)
        (Nat.le_of_succ_le_succ enoughLeft)
      exact ⟨marks, bind_eq_ok_iff.mpr ⟨next, turned, ended⟩⟩

end Sweep

end Rulebook
