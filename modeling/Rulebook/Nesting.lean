/-
This file holds how the condition sets of a block nest. Every set is known by its position and has
at most one parent, which is another position. Positions are put in place one after the other, on
top or inside their parents, so the positions in one place are in order. Sets nest properly when
following parents leads from every set to one without a parent; otherwise some sets lie on a cycle.
The file shows that proper nesting bounds the depth of sets inside sets, which is what lets an
evaluation descend.
-/

namespace Rulebook

/-- The parent of each set, by position. -/
structure Nesting where
  parents : List (Option Nat)
  deriving DecidableEq

namespace Nesting

/-- The number of sets. -/
def size (nesting : Nesting) : Nat := nesting.parents.length

/-- The parent of the set at a position. -/
def parent? (nesting : Nesting) (index : Nat) : Option Nat := (nesting.parents[index]?).join

/-- The positions whose parent is the one given, in order. -/
def children (nesting : Nesting) (index : Nat) : List Nat :=
  (List.range nesting.size).filter fun child => nesting.parent? child == some index

/-- The number of steps from a set to one without a parent, if `limit` steps are enough. -/
def rootDistance? (nesting : Nesting) : Nat → Nat → Option Nat
  | limit, index =>
    match nesting.parent? index with
    | none => some 0
    | some parent =>
      match limit with
      | 0 => none
      | limit + 1 => (nesting.rootDistance? limit parent).map (· + 1)

/-- The number of steps from a set to one without a parent. A way that does not repeat itself has
fewer steps than there are sets. -/
def distance? (nesting : Nesting) (index : Nat) : Option Nat :=
  nesting.rootDistance? (nesting.size - 1) index

/-- The first set that is met again on the way up. -/
def firstRepeated (nesting : Nesting) (start : Nat) (seen : List Nat) : Nat → Nat → Nat
  | 0, current => current
  | fuel + 1, current =>
    if seen.contains current then current
    else
      match nesting.parent? current with
      | some parent => nesting.firstRepeated start (current :: seen) fuel parent
      | none => start

/-- A set on a cycle, if there is one: the first one met again on the way up from the first set
that leads to no root. -/
def cyclic? (nesting : Nesting) : Option Nat :=
  ((List.range nesting.size).find? fun index => (nesting.distance? index).isNone).map fun start =>
    nesting.firstRepeated start [] (nesting.size + 1) start

/-! ### Putting positions in place -/

/-- Where positions are: those on top, and for every set those inside it. -/
structure Placement where
  onTop : List Nat
  inside : List (List Nat)

/-- The position comes last on top, or last inside its parent. -/
def Placement.add (placement : Placement) (index : Nat) : Option Nat → Placement
  | none => { placement with onTop := placement.onTop ++ [index] }
  | some parent => { placement with inside := placement.inside.modify parent (· ++ [index]) }

/-- All positions, each added with its parent, in order. -/
def placement (nesting : Nesting) : Placement :=
  nesting.parents.zipIdx.foldl (fun placement entry => placement.add entry.2 entry.1)
    ⟨[], List.replicate nesting.size []⟩

/-- The positions on top. -/
def roots (nesting : Nesting) : List Nat := nesting.placement.onTop

/-- The positions inside every set, by its position. -/
def childLists (nesting : Nesting) : List (List Nat) := nesting.placement.inside

theorem Placement.onTop_add (placement : Placement) (index : Nat) (parent? : Option Nat) :
    (placement.add index parent?).onTop =
      placement.onTop ++ if parent?.isNone then [index] else [] := by
  cases parent? <;> simp [add]

theorem Placement.inside_add (placement : Placement) (index : Nat) (parent? : Option Nat)
    (parent : Nat) :
    (placement.add index parent?).inside[parent]? =
      placement.inside[parent]?.map fun inner =>
        inner ++ if parent? == some parent then [index] else [] := by
  cases parent? with
  | none => simp [add]
  | some above =>
    show (placement.inside.modify above (· ++ [index]))[parent]? = _
    rw [List.getElem?_modify]
    by_cases same : above = parent <;> simp [same]

theorem onTop_foldl_add (entries : List (Option Nat × Nat)) (placement : Placement) :
    (entries.foldl (fun placement entry => placement.add entry.2 entry.1) placement).onTop =
      placement.onTop ++ (entries.filter fun entry => entry.1.isNone).map (·.2) := by
  induction entries generalizing placement with
  | nil => simp
  | cons entry rest inductionHypothesis =>
    rw [List.foldl_cons, inductionHypothesis, Placement.onTop_add, List.filter_cons]
    split <;> simp

/-- What is inside one position is not touched by positions that are added elsewhere. -/
theorem inside_foldl_add (entries : List (Option Nat × Nat)) (placement : Placement)
    (parent : Nat) :
    (entries.foldl (fun placement entry => placement.add entry.2 entry.1)
        placement).inside[parent]? =
      placement.inside[parent]?.map fun inner =>
        inner ++ (entries.filter fun entry => entry.1 == some parent).map (·.2) := by
  induction entries generalizing placement with
  | nil => simp
  | cons entry rest inductionHypothesis =>
    rw [List.foldl_cons, inductionHypothesis, Placement.inside_add, List.filter_cons,
      Option.map_map]
    cases placement.inside[parent]? with
    | none => rfl
    | some inner => split <;> simp [*]

/-- The positions are gone through with their parents. -/
theorem zipIdx_parents (nesting : Nesting) :
    nesting.parents.zipIdx =
      (List.range nesting.size).map fun index => (nesting.parent? index, index) := by
  refine List.ext_getElem (by simp [size]) fun index bound _ => ?_
  have inRange : index < nesting.parents.length := by simpa using bound
  simp [parent?, inRange]

/-- On top are the positions without a parent, in order. -/
theorem roots_eq_filter (nesting : Nesting) :
    nesting.roots =
      (List.range nesting.size).filter fun index => (nesting.parent? index).isNone := by
  unfold roots placement
  rw [onTop_foldl_add, zipIdx_parents, List.filter_map, List.map_map]
  exact List.map_id _

/-- Inside every set are the positions whose parent it is, in order. -/
theorem childLists_eq_map (nesting : Nesting) :
    nesting.childLists = (List.range nesting.size).map nesting.children := by
  refine List.ext_getElem? fun parent => ?_
  unfold childLists placement
  rw [inside_foldl_add, zipIdx_parents, List.filter_map, List.map_map, List.getElem?_map]
  by_cases bound : parent < nesting.size
  · rw [List.getElem?_replicate_of_lt bound, List.getElem?_range bound]
    exact congrArg some (List.map_id _)
  · simp [bound]

/-! ### Descending -/

/-- Whether the sets inside the one at a position nest at most `levels` deep, itself included, and
all of them exist. -/
def fits (children : List (List Nat)) : Nat → Nat → Bool
  | 0, _ => false
  | levels + 1, index =>
    match children[index]? with
    | none => false
    | some inner => inner.all (fits children levels)

theorem rootDistance?_le (nesting : Nesting) (limit index steps : Nat)
    (found : nesting.rootDistance? limit index = some steps) : steps ≤ limit := by
  induction limit generalizing index steps with
  | zero =>
    unfold rootDistance? at found
    split at found
    · simp_all
    · simp at found
  | succ limit inductionHypothesis =>
    unfold rootDistance? at found
    split at found
    · injection found with found
      omega
    · next parent _ =>
      obtain ⟨inner, innerFound, equal⟩ := Option.map_eq_some_iff.mp found
      have := inductionHypothesis parent inner innerFound
      omega

/-- Steps that are enough stay enough. -/
theorem rootDistance?_mono (nesting : Nesting) (limit more index steps : Nat)
    (found : nesting.rootDistance? limit index = some steps) :
    nesting.rootDistance? (limit + more) index = some steps := by
  induction limit generalizing index steps with
  | zero =>
    unfold rootDistance? at found ⊢
    split at found
    · next none? => simp_all
    · simp at found
  | succ limit inductionHypothesis =>
    have shift : limit + 1 + more = (limit + more) + 1 := by omega
    unfold rootDistance? at found
    rw [shift]
    unfold rootDistance?
    split at found
    · next none? => simp_all
    · next parent some? =>
      obtain ⟨inner, innerFound, equal⟩ := Option.map_eq_some_iff.mp found
      simp only [inductionHypothesis parent inner innerFound, Option.map_some, equal]

/-- A child is one step farther from its root than its parent, where `limit` steps are enough for
both. -/
theorem rootDistance?_child (nesting : Nesting) (limit child parent own above : Nat)
    (link : nesting.parent? child = some parent)
    (ownFound : nesting.rootDistance? limit child = some own)
    (aboveFound : nesting.rootDistance? limit parent = some above) : own = above + 1 := by
  cases limit with
  | zero =>
    unfold rootDistance? at ownFound
    simp [link] at ownFound
  | succ limit =>
    unfold rootDistance? at ownFound
    simp only [link] at ownFound
    obtain ⟨inner, innerFound, equal⟩ := Option.map_eq_some_iff.mp ownFound
    have same := rootDistance?_mono nesting limit 1 parent inner innerFound
    rw [aboveFound] at same
    injection same with same
    omega

theorem distance?_isSome_of_cyclic?_eq_none (nesting : Nesting) (none? : nesting.cyclic? = none)
    (index : Nat) (bound : index < nesting.size) :
    ∃ steps, nesting.distance? index = some steps := by
  unfold cyclic? at none?
  rw [Option.map_eq_none_iff, List.find?_eq_none] at none?
  have := none? index (List.mem_range.mpr bound)
  cases found : nesting.distance? index with
  | none => simp [found] at this
  | some steps => exact ⟨steps, rfl⟩

theorem fits_of_distance (nesting : Nesting) (none? : nesting.cyclic? = none) (levels : Nat) :
    ∀ index steps, index < nesting.size → nesting.distance? index = some steps →
      steps + levels = nesting.size → fits nesting.childLists levels index = true := by
  induction levels with
  | zero =>
    intro index steps bound found total
    have := rootDistance?_le nesting _ _ _ found
    omega
  | succ levels inductionHypothesis =>
    intro index steps bound found total
    have lookup : nesting.childLists[index]? = some (nesting.children index) := by
      simp [childLists_eq_map, bound]
    unfold fits
    rw [lookup]
    refine List.all_eq_true.mpr fun child member => ?_
    obtain ⟨inRange, link⟩ := List.mem_filter.mp member
    have childBound : child < nesting.size := List.mem_range.mp inRange
    obtain ⟨own, ownFound⟩ :=
      distance?_isSome_of_cyclic?_eq_none nesting none? child childBound
    have step := rootDistance?_child nesting _ child index own steps
      (by simpa using link) ownFound found
    exact inductionHypothesis child own childBound ownFound (by omega)

/-- More levels are as good. -/
theorem fits_mono (children : List (List Nat)) (levels more index : Nat)
    (fitting : fits children levels index = true) :
    fits children (levels + more) index = true := by
  induction levels generalizing index with
  | zero => simp [fits] at fitting
  | succ levels inductionHypothesis =>
    have shift : levels + 1 + more = (levels + more) + 1 := by omega
    rw [shift]
    unfold fits at fitting ⊢
    split at fitting
    · simp at fitting
    · exact List.all_eq_true.mpr fun child member =>
        inductionHypothesis child (List.all_eq_true.mp fitting child member)

/-- Where there is no cycle, sets nest at most as deep as there are sets. -/
theorem fits_of_cyclic?_eq_none (nesting : Nesting) (none? : nesting.cyclic? = none)
    (index : Nat) (bound : index < nesting.size) :
    fits nesting.childLists nesting.size index = true := by
  obtain ⟨steps, found⟩ := distance?_isSome_of_cyclic?_eq_none nesting none? index bound
  have := rootDistance?_le nesting _ _ _ found
  have fitting := fits_of_distance nesting none? (nesting.size - steps) index steps bound found
    (by omega)
  have extended := fits_mono _ _ steps _ fitting
  rwa [show nesting.size - steps + steps = nesting.size by omega] at extended

end Nesting

end Rulebook
