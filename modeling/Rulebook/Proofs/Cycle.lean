/-
This file says which set the search for a cycle names. The search takes the first set from which
parents lead to no set on top. On the way up from there it never comes to an end, and as there are
only so many sets it comes around: the set it names is the first one it meets again.

That set is also the first one on the way that lies on a cycle. It does lie on one, because the way
leads back to it. And no set before it does: if one did, the way would be periodic from there on, so
the sets before the two visits of the named one would be the same, though they are met before
anything is met again.
-/
import Mathlib.Logic.Function.Iterate
import Mathlib.Logic.Relation
import Rulebook.Proofs.Arena

namespace Rulebook

/-! ### Walks that come around -/

section Walks

variable {Point : Type} {step : Point → Point → Prop}

/-- Steps lead from a point back to it. -/
def OnCycle (step : Point → Point → Prop) (point : Point) : Prop :=
  Relation.TransGen step point point

/-- Of the points that steps lead to, the first one that lies on a cycle. -/
inductive FirstOnCycle (step : Point → Point → Prop) : Point → Point → Prop where
  | here {point : Point} (cyclic : OnCycle step point) : FirstOnCycle step point point
  | after {point next found : Point} (free : ¬ OnCycle step point) (link : step point next)
      (rest : FirstOnCycle step next found) : FirstOnCycle step point found

variable {walk : Nat → Point} (unique : Relator.RightUnique step)
  (goes : ∀ count, step (walk count) (walk (count + 1)))

include unique goes

/-- Two parts of a walk that start at one point are the same. -/
theorem walk_add_eq {first second : Nat} (same : walk first = walk second) (more : Nat) :
    walk (first + more) = walk (second + more) := by
  induction more with
  | zero => exact same
  | succ more inductionHypothesis =>
    have link := goes (first + more)
    rw [inductionHypothesis] at link
    exact unique link (goes (second + more))

/-- From a point that is met again on, a walk repeats itself. -/
theorem walk_add_mul_eq {first period : Nat} (same : walk first = walk (first + period))
    {later : Nat} (reached : first ≤ later) (times : Nat) :
    walk later = walk (later + times * period) := by
  obtain ⟨more, rfl⟩ := Nat.exists_eq_add_of_le reached
  induction times with
  | zero => rw [Nat.zero_mul, Nat.add_zero]
  | succ times inductionHypothesis =>
    have round := walk_add_eq unique goes same (more + times * period)
    rw [inductionHypothesis, Nat.add_assoc, round]
    congr 1
    rw [Nat.succ_mul]
    omega

/-- A walk is all that steps lead to. -/
theorem exists_of_transGen_walk {count : Nat} {point : Point}
    (leads : Relation.TransGen step (walk count) point) :
    ∃ more, point = walk (count + (more + 1)) := by
  induction leads with
  | single link => exact ⟨0, unique link (goes count)⟩
  | tail _ link inductionHypothesis =>
    obtain ⟨more, rfl⟩ := inductionHypothesis
    exact ⟨more + 1, unique link (goes (count + more + 1))⟩

omit unique in
theorem transGen_walk (count more : Nat) :
    Relation.TransGen step (walk count) (walk (count + (more + 1))) := by
  induction more with
  | zero => exact .single (goes count)
  | succ more inductionHypothesis => exact inductionHypothesis.tail (goes (count + more + 1))

/-- The point that a walk meets again first is the first one on it that lies on a cycle. -/
theorem firstOnCycle_of_walk {first again : Nat} (before : first < again)
    (same : walk first = walk again)
    (fresh : ∀ earlier later, earlier < later → later < again → walk earlier ≠ walk later) :
    FirstOnCycle step (walk 0) (walk first) := by
  obtain ⟨period, rfl⟩ := Nat.exists_eq_add_of_lt before
  rw [Nat.add_assoc] at same
  have cyclic : OnCycle step (walk first) := by
    have leads := transGen_walk goes first period
    rw [← same] at leads
    exact leads
  have free : ∀ earlier < first, ¬ OnCycle step (walk earlier) := by
    intro earlier small back
    obtain ⟨round, again⟩ := exists_of_transGen_walk unique goes back
    -- One step before each of the two visits the walk is at the same point.
    have beforeFirst := walk_add_mul_eq unique goes again (Nat.le_sub_one_of_lt small) (period + 1)
    have beforeAgain := walk_add_mul_eq unique goes same (Nat.le_add_right first period) round
    have meet : first - 1 + (period + 1) * (round + 1) = first + period + round * (period + 1) := by
      rw [Nat.mul_succ, Nat.mul_comm]
      omega
    rw [meet, ← beforeAgain] at beforeFirst
    exact fresh (first - 1) (first + period) (by omega) (by omega) beforeFirst
  have upTo : ∀ left earlier, earlier + left = first →
      FirstOnCycle step (walk earlier) (walk first) := by
    intro left
    induction left with
    | zero =>
      rintro earlier rfl
      exact .here cyclic
    | succ left inductionHypothesis =>
      intro earlier total
      exact .after (free earlier (by omega)) (goes earlier)
        (inductionHypothesis (earlier + 1) (by omega))
  exact upTo first 0 (Nat.zero_add first)

end Walks

/-! ### The search by positions -/

namespace Nesting

variable {nesting : Nesting}

/-- From a set that stands at no depth one goes from parent to parent without end. -/
theorem exists_walk {start : Nat} (astray : ¬ ∃ steps, nesting.Depth start steps) :
    ∃ walk : Nat → Nat, walk 0 = start ∧
      ∀ count, nesting.parent? (walk count) = some (walk (count + 1)) := by
  let walk (count : Nat) : Nat := (fun index => (nesting.parent? index).getD index)^[count] start
  have next : ∀ count, walk (count + 1) = (nesting.parent? (walk count)).getD (walk count) :=
    fun count => Function.iterate_succ_apply' _ count start
  have link : ∀ count, (¬ ∃ steps, nesting.Depth (walk count) steps) →
      nesting.parent? (walk count) = some (walk (count + 1)) := by
    intro count lost
    rw [next]
    cases parent : nesting.parent? (walk count) with
    | none => exact absurd ⟨0, .onTop parent⟩ lost
    | some above => rfl
  have lost : ∀ count, ¬ ∃ steps, nesting.Depth (walk count) steps := by
    intro count
    induction count with
    | zero => exact astray
    | succ count inductionHypothesis =>
      rintro ⟨steps, depth⟩
      exact inductionHypothesis ⟨steps + 1, .inside (link count inductionHypothesis) depth⟩
  exact ⟨walk, rfl, fun count => link count (lost count)⟩

/-- The search for the first set that is met again ends at a set that was met before, and until then
no set is met twice. The fuel is enough, because there are no more sets than that. -/
theorem firstRepeated_walk {walk : Nat → Nat} (bounded : ∀ count, walk count < nesting.size)
    (goes : ∀ count, nesting.parent? (walk count) = some (walk (count + 1))) (start fuel : Nat)
    {met : Nat} (enough : fuel + met = nesting.size + 1)
    (fresh : ((List.range met).map walk).Nodup) :
    ∃ first again, first < again ∧ walk first = walk again ∧
      ((List.range again).map walk).Nodup ∧
      nesting.firstRepeated start ((List.range met).map walk).reverse fuel (walk met) =
        walk first := by
  induction fuel generalizing met with
  | zero =>
    have within : (List.range met).map walk ⊆ List.range nesting.size := by
      intro index member
      obtain ⟨count, -, rfl⟩ := List.mem_map.mp member
      exact List.mem_range.mpr (bounded count)
    have few := (List.subperm_of_subset fresh within).length_le
    simp at few
    omega
  | succ fuel inductionHypothesis =>
    unfold firstRepeated
    by_cases again : walk met ∈ (List.range met).map walk
    · obtain ⟨first, small, same⟩ := List.mem_map.mp again
      rw [if_pos (by simpa using again)]
      exact ⟨first, met, List.mem_range.mp small, same, fresh, same.symm⟩
    · have longer : walk met :: ((List.range met).map walk).reverse =
          ((List.range (met + 1)).map walk).reverse := by simp [List.range_succ]
      rw [if_neg (by simpa using again), goes met]
      simp only [longer]
      refine inductionHypothesis (by omega) (List.nodup_reverse.mp ?_)
      rw [← longer]
      exact List.nodup_cons.mpr ⟨by simpa using again, List.nodup_reverse.mpr fresh⟩

/-- Where the search finds a set, that is the first one met again on the way up from the first set
that stands at no depth. -/
theorem exists_walk_of_cyclic? (closed : nesting.Closed) {found : Nat}
    (cyclic : nesting.cyclic? = some found) :
    ∃ walk : Nat → Nat, (∀ count, walk count < nesting.size) ∧
      (∀ count, nesting.parent? (walk count) = some (walk (count + 1))) ∧
      (∀ earlier < walk 0, ∃ steps, nesting.Depth earlier steps) ∧
      (¬ ∃ steps, nesting.Depth (walk 0) steps) ∧
      ∃ first again, first < again ∧ walk first = walk again ∧
        ((List.range again).map walk).Nodup ∧ found = walk first := by
  obtain ⟨start, least, rfl⟩ := Option.map_eq_some_iff.mp cyclic
  obtain ⟨lost, inRange, others⟩ := List.find?_range_eq_some.mp least
  have bound := List.mem_range.mp inRange
  have astray : ¬ ∃ steps, nesting.Depth start steps := by
    rintro ⟨steps, depth⟩
    have small := depth.lt_size closed bound
    have known : nesting.distance? start = some steps :=
      rootDistance?_eq_some_iff.mpr ⟨depth, by omega⟩
    simp [known] at lost
  obtain ⟨walk, rfl, goes⟩ := exists_walk astray
  have bounded : ∀ count, walk count < nesting.size := fun count => by
    cases count with
    | zero => exact bound
    | succ count => exact closed _ _ (goes count)
  refine ⟨walk, bounded, goes, fun earlier small => ?_, astray, ?_⟩
  · have known := others earlier small
    cases distance : nesting.distance? earlier with
    | none => simp [distance] at known
    | some steps => exact ⟨steps, (rootDistance?_eq_some_iff.mp distance).1⟩
  · obtain ⟨first, again, before, same, fresh, ends⟩ :=
      firstRepeated_walk bounded goes (walk 0) (nesting.size + 1) (Nat.add_zero _) List.nodup_nil
    exact ⟨first, again, before, same, fresh, ends⟩

end Nesting

/-! ### The set that is named -/

/-- One set is directly inside another one of a list. -/
def ConditionSet.DirectlyInside (sets : List ConditionSet) (inner outer : ConditionSet) : Prop :=
  outer ∈ sets ∧ inner.parent = some outer.id

/-- A set lies on the cycle that is met first: it is the first one on a cycle on the way up from the
first set from which parents lead to no set on top. -/
def ConditionSet.FirstCyclic (sets : List ConditionSet) (set : ConditionSet) : Prop :=
  ∃ earlier start later, sets = earlier ++ start :: later ∧
    (∀ before ∈ earlier, before.Grounded sets) ∧ ¬ start.Grounded sets ∧
    FirstOnCycle (ConditionSet.DirectlyInside sets) start set

/-- Where identifiers are all different, a set is directly inside one other at most. -/
theorem RuleBlock.directlyInside_unique (block : RuleBlock) (distinct : block.setIds.Nodup) :
    Relator.RightUnique (ConditionSet.DirectlyInside block.conditionSets) := by
  rintro inner outer other ⟨member, link⟩ ⟨otherMember, otherLink⟩
  exact List.inj_on_of_nodup_map distinct member otherMember
    (Option.some.inj (link.symm.trans otherLink))

/-- The set at the position that the search finds is the one on the cycle that is met first. -/
theorem RuleBlock.Links.firstCyclic {block : RuleBlock} {operators : OperatorRegistry}
    {catalog : Catalog} {location : Location} {linked : LinkedSets}
    (links : block.Links operators catalog location linked) (distinct : block.setIds.Nodup)
    {found : Nat} (cyclic : linked.nesting.cyclic? = some found) :
    ∃ set, block.conditionSets[found]? = some set ∧
      set.FirstCyclic block.conditionSets := by
  obtain ⟨walk, bounded, goes, grounded, astray, first, again, before, same, fresh, rfl⟩ :=
    Nesting.exists_walk_of_cyclic? links.closed cyclic
  rw [links.size_nesting] at bounded
  let sets (count : Nat) : ConditionSet := block.conditionSets.get ⟨walk count, bounded count⟩
  have stands : ∀ count, block.conditionSets[walk count]? = some (sets count) :=
    fun count => List.getElem?_eq_getElem (bounded count)
  have inside : ∀ count,
      ConditionSet.DirectlyInside block.conditionSets (sets count) (sets (count + 1)) :=
    fun count => ⟨List.mem_of_getElem? (stands (count + 1)),
      (links.parent?_eq_some_iff distinct (stands count) (stands (count + 1))).mp (goes count)⟩
  have sameSet : sets first = sets again := by
    have stands' := stands first
    rw [same, stands again] at stands'
    exact (Option.some.inj stands').symm
  have freshSets : ∀ earlier later, earlier < later → later < again →
      sets earlier ≠ sets later := by
    intro earlier later small inTime equal
    have position : ∀ count, block.setIds.idxOf? (sets count).id = some (walk count) :=
      fun count => (idxOf?_eq_some_iff_of_nodup distinct).mpr (by simp [stands count])
    have samePosition : walk earlier = walk later :=
      Option.some.inj ((position earlier).symm.trans (equal ▸ position later))
    have sameCount := List.inj_on_of_nodup_map fresh
      (List.mem_range.mpr (Nat.lt_trans small inTime)) (List.mem_range.mpr inTime) samePosition
    omega
  refine ⟨sets first, stands first, block.conditionSets.take (walk 0), sets 0,
    block.conditionSets.drop (walk 0 + 1), ?_, fun before member => ?_, fun atDepth => ?_, ?_⟩
  · have split := List.take_append_drop (walk 0) block.conditionSets
    rw [List.drop_eq_getElem_cons (bounded 0)] at split
    exact split.symm
  · obtain ⟨earlier, small, rfl⟩ := List.mem_take_iff_getElem.mp member
    have found := List.getElem?_eq_getElem (Nat.lt_of_lt_of_le small (Nat.min_le_right _ _))
    exact (links.depth_iff distinct found).mp
      (grounded earlier (Nat.lt_of_lt_of_le small (Nat.min_le_left _ _)))
  · exact astray ((links.depth_iff distinct (stands 0)).mpr atDepth)
  · exact firstOnCycle_of_walk (block.directlyInside_unique distinct) inside before sameSet
      freshSets

end Rulebook
