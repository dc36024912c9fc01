/-
This file tells when condition sets nest properly, and in which order an evaluation meets them.

A set stands at a depth if that many steps from parent to parent lead to a set without one. Depth is
unique, and where all parents exist it is smaller than the number of sets: the sets on the way up
stand at different depths, so none of them is met twice. The search for a cycle gives up after that
many steps, and therefore finds nothing exactly if every set stands at some depth.

The second half counts. Going down from the sets on top, own position first and then the positions
inside, one meets the sets on top and the children of the sets one meets, and nothing else. A set
is a child of its parent only, so it is met as often as its parent, and by induction on the depth
every set is met once.
-/
import Rulebook.Nesting
import Mathlib.Data.List.Perm.Basic
import Mathlib.Data.List.Nodup

namespace Rulebook.Nesting

/-! ### Depth -/

/-- A number of steps from parent to parent lead from the set at a position to one without a
parent. -/
inductive Depth (nesting : Nesting) : Nat → Nat → Prop where
  | onTop {index : Nat} (alone : nesting.parent? index = none) : Depth nesting index 0
  | inside {index parent steps : Nat} (link : nesting.parent? index = some parent)
      (above : Depth nesting parent steps) : Depth nesting index (steps + 1)

/-- All parents exist. -/
def Closed (nesting : Nesting) : Prop :=
  ∀ index parent, nesting.parent? index = some parent → parent < nesting.size

variable {nesting : Nesting}

theorem Depth.unique {index first second : Nat} (one : nesting.Depth index first)
    (other : nesting.Depth index second) : first = second := by
  induction one generalizing second with
  | onTop alone =>
    cases other with
    | onTop => rfl
    | inside link => simp [alone] at link
  | inside link _ inductionHypothesis =>
    cases other with
    | onTop alone => simp [link] at alone
    | inside otherLink above =>
      obtain rfl := Option.some.inj (link.symm.trans otherLink)
      rw [inductionHypothesis above]

theorem rootDistance?_eq_some_iff {limit index steps : Nat} :
    nesting.rootDistance? limit index = some steps ↔ nesting.Depth index steps ∧ steps ≤ limit := by
  constructor
  · intro found
    refine ⟨?_, rootDistance?_le nesting limit index steps found⟩
    induction limit generalizing index steps with
    | zero =>
      unfold rootDistance? at found
      split at found
      · next alone =>
        obtain rfl := Option.some.inj found
        exact .onTop alone
      · simp at found
    | succ limit inductionHypothesis =>
      unfold rootDistance? at found
      split at found
      · next alone =>
        obtain rfl := Option.some.inj found
        exact .onTop alone
      · next parent link =>
        obtain ⟨above, aboveFound, rfl⟩ := Option.map_eq_some_iff.mp found
        exact .inside link (inductionHypothesis aboveFound)
  · rintro ⟨depth, enough⟩
    induction depth generalizing limit with
    | onTop alone =>
      unfold rootDistance?
      rw [alone]
    | inside link _ inductionHypothesis =>
      obtain ⟨limit, rfl⟩ := Nat.exists_eq_add_of_lt (Nat.lt_of_lt_of_le (Nat.succ_pos _) enough)
      have above := @inductionHypothesis limit (by omega)
      unfold rootDistance?
      simp only [link, Nat.zero_add, above, Option.map_some]

/-- The sets on the way up from a set, itself included, are all different, because they stand at
different depths. -/
theorem Depth.way {index steps : Nat} (depth : nesting.Depth index steps) (closed : nesting.Closed)
    (bound : index < nesting.size) :
    ∃ way : List Nat, way.length = steps + 1 ∧ way.Nodup ∧
      ∀ stop ∈ way, stop < nesting.size ∧ ∃ left ≤ steps, nesting.Depth stop left := by
  induction depth with
  | @onTop index alone =>
    refine ⟨[index], rfl, List.nodup_singleton index, fun stop member => ?_⟩
    obtain rfl := List.mem_singleton.mp member
    exact ⟨bound, 0, Nat.le_refl _, .onTop alone⟩
  | @inside index parent steps link above inductionHypothesis =>
    obtain ⟨way, length, distinct, stops⟩ := inductionHypothesis (closed index parent link)
    have fresh : index ∉ way := by
      intro member
      obtain ⟨_, left, small, again⟩ := stops index member
      have := again.unique (.inside link above)
      omega
    refine ⟨index :: way, by rw [List.length_cons, length],
      List.nodup_cons.mpr ⟨fresh, distinct⟩, fun stop member => ?_⟩
    rcases List.mem_cons.mp member with rfl | later
    · exact ⟨bound, steps + 1, Nat.le_refl _, .inside link above⟩
    · obtain ⟨stopBound, left, small, stopDepth⟩ := stops stop later
      exact ⟨stopBound, left, by omega, stopDepth⟩

theorem Depth.lt_size {index steps : Nat} (depth : nesting.Depth index steps)
    (closed : nesting.Closed) (bound : index < nesting.size) : steps < nesting.size := by
  obtain ⟨way, length, distinct, stops⟩ := depth.way closed bound
  have within : way ⊆ List.range nesting.size := fun stop member =>
    List.mem_range.mpr (stops stop member).1
  have fits := (List.subperm_of_subset distinct within).length_le
  rw [List.length_range, length] at fits
  exact fits

/-- Where all parents exist, no set lies on a cycle exactly if every set stands at some depth. -/
theorem cyclic?_eq_none_iff (closed : nesting.Closed) :
    nesting.cyclic? = none ↔ ∀ index < nesting.size, ∃ steps, nesting.Depth index steps := by
  constructor
  · intro acyclic index bound
    obtain ⟨steps, found⟩ := distance?_isSome_of_cyclic?_eq_none nesting acyclic index bound
    exact ⟨steps, (rootDistance?_eq_some_iff.mp found).1⟩
  · intro depths
    unfold cyclic?
    rw [Option.map_eq_none_iff, List.find?_eq_none]
    intro index member
    have bound := List.mem_range.mp member
    obtain ⟨steps, depth⟩ := depths index bound
    have small := depth.lt_size closed bound
    have found : nesting.distance? index = some steps :=
      rootDistance?_eq_some_iff.mpr ⟨depth, by omega⟩
    simp [found]

/-! ### On top and inside -/

theorem parent?_of_le {index : Nat} (outside : nesting.size ≤ index) :
    nesting.parent? index = none := by
  unfold parent?
  rw [List.getElem?_eq_none outside]
  rfl

/-- Only positions that exist have a parent. -/
theorem lt_size_of_parent? {index parent : Nat} (link : nesting.parent? index = some parent) :
    index < nesting.size := by
  by_contra outside
  simp [parent?_of_le (Nat.le_of_not_lt outside)] at link

theorem mem_roots_iff {index : Nat} :
    index ∈ nesting.roots ↔ index < nesting.size ∧ nesting.parent? index = none := by
  simp [roots_eq_filter]

theorem mem_children_iff {above index : Nat} :
    index ∈ nesting.children above ↔ nesting.parent? index = some above := by
  unfold children
  rw [List.mem_filter, List.mem_range, beq_iff_eq]
  exact and_iff_right_of_imp lt_size_of_parent?

/-- The positions inside the one given. -/
def inner (children : List (List Nat)) (index : Nat) : List Nat := (children[index]?).getD []

theorem inner_childLists (nesting : Nesting) {index : Nat} (bound : index < nesting.size) :
    inner nesting.childLists index = nesting.children index := by
  simp [inner, childLists_eq_map, bound]

theorem inner_childLists_of_le (nesting : Nesting) {index : Nat} (outside : nesting.size ≤ index) :
    inner nesting.childLists index = [] := by
  simp [inner, childLists_eq_map, outside]

theorem childLists_eq_map_inner (nesting : Nesting) :
    nesting.childLists = (List.range nesting.size).map (inner nesting.childLists) :=
  (childLists_eq_map nesting).trans <| List.map_congr_left fun _ member =>
    (inner_childLists nesting (List.mem_range.mp member)).symm

theorem mem_inner_iff (closed : nesting.Closed) {above index : Nat} :
    index ∈ inner nesting.childLists above ↔ nesting.parent? index = some above := by
  by_cases bound : above < nesting.size
  · rw [inner_childLists nesting bound, mem_children_iff]
  · rw [inner_childLists_of_le nesting (Nat.le_of_not_lt bound)]
    exact iff_of_false List.not_mem_nil fun link => bound (closed index above link)

/-! ### The order of an evaluation -/

/-- The position given and those inside it, up to a number of levels: every position comes before
those inside it, and these come in order. -/
def preorder (children : List (List Nat)) : Nat → Nat → List Nat
  | 0, _ => []
  | levels + 1, index => index :: (inner children index).flatMap (preorder children levels)

theorem fits_inner {children : List (List Nat)} {levels index child : Nat}
    (fitting : fits children (levels + 1) index = true) (member : child ∈ inner children index) :
    fits children levels child = true := by
  unfold fits at fitting
  unfold inner at member
  split at fitting
  · simp at fitting
  · next found =>
    rw [found] at member
    exact List.all_eq_true.mp fitting child member

/-- Where the levels suffice, the positions met are the one given and the children of those met. -/
theorem preorder_perm {children : List (List Nat)} {levels index : Nat}
    (fitting : fits children levels index = true) :
    List.Perm (preorder children levels index)
      (index :: (preorder children levels index).flatMap (inner children)) := by
  induction levels generalizing index with
  | zero => simp [fits] at fitting
  | succ levels inductionHypothesis =>
    have below : List.Perm ((inner children index).flatMap (preorder children levels))
        ((inner children index).flatMap fun child =>
          child :: (preorder children levels child).flatMap (inner children)) :=
      List.Perm.flatMap_left _ fun child member =>
        inductionHypothesis (fits_inner fitting member)
    refine List.Perm.cons index (below.trans ?_)
    rw [preorder, List.flatMap_cons, List.flatMap_assoc]
    have split := List.map_append_flatMap_perm (inner children index) id
      fun child => (preorder children levels child).flatMap (inner children)
    rw [List.map_id] at split
    exact split.symm

/-- The positions an evaluation meets: from every set on top, its position and those inside it. -/
def visited (nesting : Nesting) : List Nat :=
  nesting.roots.flatMap (preorder nesting.childLists nesting.size)

/-- What is met is what stands on top and the children of what is met. -/
theorem visited_perm (acyclic : nesting.cyclic? = none) :
    List.Perm nesting.visited
      (nesting.roots ++ nesting.visited.flatMap (inner nesting.childLists)) := by
  have below : List.Perm nesting.visited
      (nesting.roots.flatMap fun root =>
        root :: (preorder nesting.childLists nesting.size root).flatMap
          (inner nesting.childLists)) :=
    List.Perm.flatMap_left _ fun root member => preorder_perm
      (nesting.fits_of_cyclic?_eq_none acyclic root (mem_roots_iff.mp member).1)
  have split := List.map_append_flatMap_perm nesting.roots id
    fun root => (preorder nesting.childLists nesting.size root).flatMap (inner nesting.childLists)
  rw [List.map_id] at split
  refine (below.trans split.symm).trans (List.Perm.of_eq ?_)
  rw [visited, List.flatMap_assoc]

theorem count_roots (index : Nat) :
    nesting.roots.count index =
      if index < nesting.size ∧ nesting.parent? index = none then 1 else 0 := by
  have distinct : nesting.roots.Nodup := by
    rw [roots_eq_filter]
    exact List.nodup_range.filter _
  rw [List.Nodup.count distinct]
  exact if_congr mem_roots_iff rfl rfl

theorem count_inner (closed : nesting.Closed) (above index : Nat) :
    (inner nesting.childLists above).count index =
      if nesting.parent? index = some above then 1 else 0 := by
  have distinct : (inner nesting.childLists above).Nodup := by
    by_cases bound : above < nesting.size
    · rw [inner_childLists nesting bound]
      exact List.nodup_range.filter _
    · rw [inner_childLists_of_le nesting (Nat.le_of_not_lt bound)]
      exact List.nodup_nil
  rw [List.Nodup.count distinct]
  exact if_congr (mem_inner_iff closed) rfl rfl

/-- A set inside another is met as often as that one. -/
theorem count_visited_flatMap_inner (closed : nesting.Closed) {index parent : Nat}
    (link : nesting.parent? index = some parent) (stops : List Nat) :
    (stops.flatMap (inner nesting.childLists)).count index = stops.count parent := by
  induction stops with
  | nil => rfl
  | cons head rest inductionHypothesis =>
    rw [List.flatMap_cons, List.count_append, inductionHypothesis, count_inner closed, link,
      List.count_cons, Nat.add_comm]
    refine congrArg (rest.count parent + ·) (if_congr ?_ rfl rfl)
    rw [Option.some_inj, beq_iff_eq, eq_comm]

/-- A set on top is met inside no other. -/
theorem count_flatMap_inner_of_alone (closed : nesting.Closed) {index : Nat}
    (alone : nesting.parent? index = none) (stops : List Nat) :
    (stops.flatMap (inner nesting.childLists)).count index = 0 := by
  induction stops with
  | nil => rfl
  | cons head rest inductionHypothesis =>
    rw [List.flatMap_cons, List.count_append, inductionHypothesis, count_inner closed, alone]
    simp

theorem Depth.count_visited {index steps : Nat} (depth : nesting.Depth index steps)
    (closed : nesting.Closed) (acyclic : nesting.cyclic? = none) (bound : index < nesting.size) :
    nesting.visited.count index = 1 := by
  induction depth with
  | onTop alone =>
    rw [(visited_perm acyclic).count_eq, List.count_append, count_roots,
      count_flatMap_inner_of_alone closed alone, if_pos ⟨bound, alone⟩]
  | inside link _ inductionHypothesis =>
    rw [(visited_perm acyclic).count_eq, List.count_append, count_roots,
      count_visited_flatMap_inner closed link, inductionHypothesis (closed _ _ link)]
    simp [link]

/-- Sets that nest properly are met once each. -/
theorem visited_perm_range (closed : nesting.Closed) (acyclic : nesting.cyclic? = none) :
    List.Perm nesting.visited (List.range nesting.size) := by
  refine List.perm_iff_count.mpr fun index => ?_
  rw [List.Nodup.count List.nodup_range]
  by_cases bound : index < nesting.size
  · obtain ⟨steps, depth⟩ := (cyclic?_eq_none_iff closed).mp acyclic index bound
    rw [depth.count_visited closed acyclic bound, if_pos (List.mem_range.mpr bound)]
  · have alone := parent?_of_le (Nat.le_of_not_lt bound)
    rw [(visited_perm acyclic).count_eq, List.count_append, count_roots,
      count_flatMap_inner_of_alone closed alone]
    simp [bound]

end Rulebook.Nesting
