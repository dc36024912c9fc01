/-
This file looks for a cycle among condition sets by two loops over the compiled arena. The first one
goes down from the sets on top; if it reaches every set there is no cycle. Otherwise the second one
goes up from the first set that was not reached, from every set to the one it is inside, until it
meets a set again. Which set that one is, is noted in advance by going through the sets that have
others inside them; should a set be inside none, the second loop falls back on the set where it
began.

Both loops end on every arena, also on one that no rules describe. On the arena of a block the first
loop misses a set exactly if parents lead from it to no set on top. Such a set has a parent that is
missed as well, so the second loop never falls back; it meets a set again, which therefore lies on a
cycle, and that is the set that the compiler names.
-/
import Rulebook.Proofs.Rejection
import Rulebook.Proofs.Sweep

namespace Rulebook

/-! ### The way up -/

/-- The positions inside sets, each with the position of the set it is inside. -/
def inward (children : List (List Nat)) : List (Nat × Nat) :=
  children.zipIdx.flatMap fun entry => entry.1.map fun index => (index, entry.2)

/-- The position of a set that a position is inside, the later one if there are several. -/
def above? (children : List (List Nat)) (index : Nat) : Option Nat :=
  (inward children).reverse.lookup index

/-- How a search ends. -/
inductive Finding where
  /-- Every set was reached. -/
  | allReached
  /-- On the way up this position was met again. -/
  | metAgain (index : Nat)
  /-- The way up came to a set that is inside no other; it began at this position. -/
  | fellBack (start : Nat)
  deriving DecidableEq

/-- The position that is given as the one on a cycle. -/
def Finding.position? : Finding → Option Nat
  | .allReached => none
  | .metAgain index => some index
  | .fellBack start => some start

/-- What is found where a position on a cycle is known, or known to be missing. -/
def Finding.of : Option Nat → Finding
  | none => .allReached
  | some index => .metAgain index

@[simp] theorem Finding.position?_of (index? : Option Nat) : (of index?).position? = index? := by
  cases index? <;> rfl

theorem Finding.of_ne_fellBack (index? : Option Nat) (start : Nat) :
    of index? ≠ .fellBack start := by
  cases index? <;> exact nofun

/-- Goes up from a position until a position with a mark is met, and marks those it comes
through. -/
def climb (children : List (List Nat)) (start : Nat) :
    (turns : Nat) → (seen : List Bool) → (current : Nat) → Except Halt Finding
  | turns, seen, current =>
    match seen[current]? with
    | none => .error (.outOfRange current)
    | some true => .ok (.metAgain current)
    | some false =>
      match turns with
      | 0 => .error .turnsUsedUp
      | turns + 1 =>
        match above? children current with
        | some above => climb children start turns (seen.set current true) above
        | none => .ok (.fellBack start)

/-- Goes up from a position with no marks made before. -/
def climbFrom (children : List (List Nat)) (start turns : Nat) : Except Halt Finding :=
  climb children start turns (List.replicate children.length false) start

/-- Looks for a set on a cycle: down from the sets on top, and up from the first one that was not
reached. -/
def search (children : List (List Nat)) (roots : List Nat) (turns : Nat) :
    Except Halt Finding := do
  let reached ← Sweep.run children turns (.start children roots)
  match reached.findIdx? (!·) with
  | none => return .allReached
  | some start => climbFrom children start turns

/-! ### The way up ends -/

section Climb

variable {children : List (List Nat)} {start : Nat}

theorem mem_inward_iff {index above : Nat} :
    (index, above) ∈ inward children ↔ index ∈ Nesting.inner children above := by
  unfold inward Nesting.inner
  rw [List.mem_flatMap]
  constructor
  · rintro ⟨⟨inside, position⟩, listed, member⟩
    obtain ⟨other, inInside, same⟩ := List.mem_map.mp member
    obtain ⟨rfl, rfl⟩ := Prod.mk.inj same
    rw [List.mk_mem_zipIdx_iff_getElem?] at listed
    rw [listed]
    exact inInside
  · intro member
    cases found : children[above]? with
    | none => simp [found] at member
    | some inside =>
      rw [found] at member
      exact ⟨(inside, above), List.mk_mem_zipIdx_iff_getElem?.mpr found,
        List.mem_map.mpr ⟨index, member, rfl⟩⟩

theorem mem_of_above? {index above : Nat} (noted : above? children index = some above) :
    index ∈ Nesting.inner children above := by
  obtain ⟨earlier, later, split, -⟩ := List.lookup_eq_some_iff.mp noted
  have listed : (index, above) ∈ (inward children).reverse := by
    rw [split]
    exact List.mem_append_right _ List.mem_cons_self
  exact mem_inward_iff.mp (List.mem_reverse.mp listed)

theorem not_mem_of_above? {index : Nat} (none? : above? children index = none) (above : Nat) :
    index ∉ Nesting.inner children above := by
  intro member
  have listed := List.mem_reverse.mpr (mem_inward_iff.mpr member)
  simpa using List.lookup_eq_none_iff.mp none? _ listed

theorem lt_length_of_above? {index above : Nat} (noted : above? children index = some above) :
    above < children.length := by
  have member := mem_of_above? noted
  unfold Nesting.inner at member
  by_contra outside
  simp [List.getElem?_eq_none (Nat.le_of_not_lt outside)] at member

theorem climb_of_marked {seen : List Bool} {current : Nat} (marked : seen[current]? = some true)
    (turns : Nat) : climb children start turns seen current = .ok (.metAgain current) := by
  unfold climb
  rw [marked]

theorem climb_succ_of_above? {seen : List Bool} {current above : Nat}
    (unmarked : seen[current]? = some false) (noted : above? children current = some above)
    (turns : Nat) : climb children start (turns + 1) seen current =
      climb children start turns (seen.set current true) above := by
  rw [climb, unmarked]
  simp only [noted]

theorem climb_succ_of_alone {seen : List Bool} {current : Nat}
    (unmarked : seen[current]? = some false) (alone : above? children current = none)
    (turns : Nat) : climb children start (turns + 1) seen current = .ok (.fellBack start) := by
  rw [climb, unmarked]
  simp only [alone]

/-- The way up comes to an end after as many turns as there are sets without a mark, whatever the
sets are. -/
theorem settles_climb {seen : List Bool} {current : Nat} (length : seen.length = children.length)
    (bound : current < children.length) :
    ∃ finding, Settles (climb children start · seen current) (seen.count false)
      (.ok finding) := by
  generalize counted : seen.count false = count
  induction count generalizing seen current with
  | zero =>
    have markedAll : false ∉ seen := List.count_eq_zero.mp counted
    have marked : seen[current]? = some true := by
      have present := List.getElem?_eq_getElem (length ▸ bound : current < seen.length)
      have isTrue : seen[current] = true :=
        eq_true_of_ne_false fun unmarked => markedAll (unmarked ▸ List.getElem_mem _)
      rw [present, isTrue]
    exact ⟨.metAgain current, nofun, fun turns _ => climb_of_marked marked turns⟩
  | succ count inductionHypothesis =>
    have present := List.getElem?_eq_getElem (length ▸ bound : current < seen.length)
    have oneMore : ∀ turns, count + 1 ≤ turns → ∃ fewer, turns = fewer + 1 ∧ count ≤ fewer :=
      fun turns enough => ⟨turns - 1, by omega, by omega⟩
    cases mark : seen[current] with
    | true =>
      exact ⟨.metAgain current, nofun, fun turns _ =>
        climb_of_marked (present.trans (congrArg some mark)) turns⟩
    | false =>
      have unmarked := present.trans (congrArg some mark)
      cases noted : above? children current with
      | none =>
        refine ⟨.fellBack start, nofun, fun turns enough => ?_⟩
        obtain ⟨fewer, rfl, -⟩ := oneMore turns enough
        exact climb_succ_of_alone unmarked noted fewer
      | some above =>
        have counted' : (seen.set current true).count false = count := by
          rw [List.count_set (length ▸ bound), mark, counted]
          simp
        obtain ⟨finding, free, same⟩ := inductionHypothesis
          (List.length_set.trans length) (lt_length_of_above? noted) counted'
        refine ⟨finding, free, fun turns enough => ?_⟩
        obtain ⟨fewer, rfl, enoughLeft⟩ := oneMore turns enough
        exact (climb_succ_of_above? unmarked noted fewer).trans (same fewer enoughLeft)

/-- Both loops of a search end: the one that goes down after as many turns as there are positions
on top and inside sets, and the one that goes up after as many as there are sets. -/
structure LoopsEnd (children : List (List Nat)) (roots : List Nat) : Prop where
  down : ∃ ending, Settles (Sweep.run children · (.start children roots))
      (roots.length + children.flatten.length) ending ∧
    ((∀ root ∈ roots, root < children.length) → ∃ marks, ending = .ok marks)
  up : ∀ start < children.length, ∃ finding,
    Settles (climbFrom children start) children.length (.ok finding)

theorem loopsEnd (inRange : Sweep.InRange children) (roots : List Nat) :
    LoopsEnd children roots where
  down := by
    rw [← Sweep.left_start]
    exact ⟨_, Sweep.settles_run children _, fun exist =>
      (Sweep.sound_start children roots).exists_run inRange exist (Nat.le_refl _)⟩
  up := fun start bound => by
    have ends := @settles_climb children start (List.replicate children.length false) start
      List.length_replicate bound
    rwa [List.count_replicate_self] at ends

end Climb

/-! ### The search on an arena that parents describe -/

namespace Nesting

variable {nesting : Nesting}

/-- What is noted for the way up are the parents. -/
theorem above?_childLists (closed : nesting.Closed) (index : Nat) :
    above? nesting.childLists index = nesting.parent? index := by
  cases noted : above? nesting.childLists index with
  | some above => exact ((mem_inner_iff closed).mp (mem_of_above? noted)).symm
  | none =>
    refine (Option.eq_none_iff_forall_ne_some.mpr fun above link => ?_).symm
    exact not_mem_of_above? noted above ((mem_inner_iff closed).mpr link)

/-- Ways lead down to exactly those sets that stand at some depth. -/
theorem leads_iff (closed : nesting.Closed) {index : Nat} (bound : index < nesting.size) :
    Sweep.Leads nesting.childLists nesting.roots index ↔ ∃ steps, nesting.Depth index steps := by
  constructor
  · rintro ⟨root, onTop, way, leads⟩
    clear bound
    induction leads with
    | here => exact ⟨0, .onTop (mem_roots_iff.mp onTop).2⟩
    | down _ inside inductionHypothesis =>
      obtain ⟨steps, depth⟩ := inductionHypothesis
      exact ⟨steps + 1, .inside ((mem_inner_iff closed).mp inside) depth⟩
  · rintro ⟨steps, depth⟩
    exact depth.exists_way closed bound

/-- On a walk from parent to parent, the way up goes on until a set is met again. -/
theorem climb_walk (closed : nesting.Closed) {walk : Nat → Nat}
    (goes : ∀ count, nesting.parent? (walk count) = some (walk (count + 1)))
    {first again : Nat} (before : first < again) (same : walk first = walk again)
    (fresh : ((List.range again).map walk).Nodup) (start : Nat) {left met turns : Nat}
    (total : met + left = again) (enough : left ≤ turns) {seen : List Bool}
    (length : seen.length = nesting.size)
    (marked_iff : ∀ index, seen[index]? = some true ↔ ∃ count < met, walk count = index) :
    climb nesting.childLists start turns seen (walk met) = .ok (.metAgain (walk again)) := by
  induction left generalizing met turns seen with
  | zero =>
    obtain rfl : met = again := total
    exact climb_of_marked ((marked_iff _).mpr ⟨first, before, same⟩) turns
  | succ left inductionHypothesis =>
    obtain ⟨turns, rfl⟩ := Nat.exists_eq_add_of_le' (Nat.le_trans (Nat.le_add_left 1 left) enough)
    have bound : walk met < seen.length := length ▸ lt_size_of_parent? (goes met)
    have unmarked : seen[walk met]? = some false := by
      have notMarked : seen[walk met]? ≠ some true := by
        intro marked
        obtain ⟨count, small, sameSet⟩ := (marked_iff _).mp marked
        have sameCount := List.inj_on_of_nodup_map fresh
          (List.mem_range.mpr (by omega)) (List.mem_range.mpr (by omega)) sameSet
        omega
      rw [List.getElem?_eq_getElem bound] at notMarked ⊢
      simpa using notMarked
    rw [climb_succ_of_above? unmarked ((above?_childLists closed _).trans (goes met))]
    refine inductionHypothesis (by omega) (Nat.le_of_succ_le_succ enough)
      (List.length_set.trans length) fun index => ?_
    rw [Sweep.marked_set_iff bound, marked_iff, Nat.exists_lt_succ_right, or_comm, eq_comm]

theorem length_childLists (nesting : Nesting) : nesting.childLists.length = nesting.size := by
  simp [childLists_eq_map]

theorem inRange_childLists (closed : nesting.Closed) : Sweep.InRange nesting.childLists := by
  intro inside listed index member
  have among : index ∈ nesting.roots ++ nesting.childLists.flatten :=
    List.mem_append_right _ (List.mem_flatten.mpr ⟨inside, listed, member⟩)
  rw [length_childLists]
  exact List.mem_range.mp ((roots_append_childLists_perm closed).mem_iff.mp among)

/-- As many turns as there are sets are enough to go down, and those are reached that stand at some
depth. -/
theorem exists_marks (closed : nesting.Closed) {turns : Nat} (enough : nesting.size ≤ turns) :
    ∃ marks, Sweep.run nesting.childLists turns (.start nesting.childLists nesting.roots) =
        .ok marks ∧ marks.length = nesting.size ∧
      ∀ index < nesting.size,
        marks[index]? = some true ↔ ∃ steps, nesting.Depth index steps := by
  have positions := (roots_append_childLists_perm closed).length_eq
  rw [List.length_append, List.length_range, ← Sweep.left_start] at positions
  have onTop : ∀ root ∈ nesting.roots, root < nesting.childLists.length := fun root member =>
    nesting.length_childLists ▸ (mem_roots_iff.mp member).1
  have starts := Sweep.sound_start nesting.childLists nesting.roots
  obtain ⟨marks, swept⟩ := starts.exists_run (inRange_childLists closed) onTop
    (Nat.le_trans (Nat.le_of_eq positions) enough)
  have sound := starts.run swept
  exact ⟨marks, swept, sound.length.trans nesting.length_childLists,
    fun index bound => sound.marked_iff.trans (leads_iff closed bound)⟩

/-- No more sets are met before one is met again than there are sets. -/
theorem le_size_of_walk {walk : Nat → Nat} (bounded : ∀ count, walk count < nesting.size)
    {again : Nat} (fresh : ((List.range again).map walk).Nodup) : again ≤ nesting.size := by
  have within : (List.range again).map walk ⊆ List.range nesting.size := by
    intro index member
    obtain ⟨count, -, rfl⟩ := List.mem_map.mp member
    exact List.mem_range.mpr (bounded count)
  simpa using (List.subperm_of_subset fresh within).length_le

/-- Where sets are missed, the search goes up from the first of them until a set is met again. -/
theorem search_eq (closed : nesting.Closed) {turns : Nat} (enough : nesting.size ≤ turns) :
    search nesting.childLists nesting.roots turns = .ok (.of nesting.cyclic?) := by
  obtain ⟨marks, swept, length, marked_iff⟩ := exists_marks closed enough
  have found_iff : ∀ {index : Nat} (bound : index < marks.length),
      marks[index] = true ↔ ∃ steps, nesting.Depth index steps := by
    intro index bound
    rw [← marked_iff index (length ▸ bound), List.getElem?_eq_getElem bound, Option.some_inj]
  have unfolded : search nesting.childLists nesting.roots turns =
      match marks.findIdx? (!·) with
      | none => .ok .allReached
      | some start => climbFrom nesting.childLists start turns := by
    unfold search
    rw [swept]
    rfl
  rw [unfolded]
  cases cyclic : nesting.cyclic? with
  | none =>
    have allMarked : marks.findIdx? (!·) = none := by
      rw [List.findIdx?_eq_none_iff]
      intro mark member
      obtain ⟨index, bound, rfl⟩ := List.mem_iff_getElem.mp member
      rw [(found_iff bound).mpr ((cyclic?_eq_none_iff closed).mp cyclic index (length ▸ bound))]
      rfl
    rw [allMarked]
    rfl
  | some found =>
    obtain ⟨walk, bounded, goes, grounded, astray, first, again, before, same, fresh, rfl⟩ :=
      exists_walk_of_cyclic? closed cyclic
    have start : marks.findIdx? (!·) = some (walk 0) := by
      refine List.findIdx?_eq_some_iff_getElem.mpr ⟨length ▸ bounded 0, ?_, fun earlier small => ?_⟩
      · simpa using mt (found_iff _).mp astray
      · simpa using (found_iff _).mpr (grounded earlier small)
    rw [start]
    show climb _ _ _ _ _ = _
    rw [climb_walk closed goes before same fresh (walk 0) (Nat.zero_add again)
      (Nat.le_trans (le_size_of_walk bounded fresh) enough)
      (List.length_replicate.trans nesting.length_childLists) fun index => ?_, same]
    · rfl
    · simp [List.getElem?_replicate]

end Nesting

/-! ### The search in a block -/

theorem FirstOnCycle.onCycle {Point : Type} {step : Point → Point → Prop} {point found : Point}
    (first : FirstOnCycle step point found) : OnCycle step found := by
  induction first with
  | here cyclic => exact cyclic
  | after _ _ _ inductionHypothesis => exact inductionHypothesis

/-- If going through a list fails, it does so at one of the items. -/
theorem exists_of_mapM_eq_error {Error Item Result : Type} {act : Item → Except Error Result}
    {items : List Item} {error : Error} (failed : items.mapM act = .error error) :
    ∃ item ∈ items, act item = .error error := by
  induction items with
  | nil => exact nomatch failed
  | cons item items inductionHypothesis =>
    rw [List.mapM_cons] at failed
    cases tried : act item with
    | error first =>
      rw [tried] at failed
      obtain rfl := Except.error.inj failed
      exact ⟨item, List.mem_cons_self, tried⟩
    | ok result =>
      rw [tried] at failed
      cases others : items.mapM act with
      | ok results =>
        simp only [others] at failed
        exact nomatch failed
      | error later =>
        simp only [others] at failed
        obtain rfl := Except.error.inj failed
        obtain ⟨other, member, fails⟩ := inductionHypothesis others
        exact ⟨other, List.mem_cons_of_mem item member, fails⟩

namespace RuleBlock

variable {operators : OperatorRegistry} {catalog : Catalog} {location : Location}
  {block : RuleBlock} {linked : LinkedSets}

theorem bind_of_ok {Error First Second : Type} {first : Except Error First} {value : First}
    (ended : first = .ok value) (next : First → Except Error Second) :
    (first >>= next) = next value := by
  rw [ended]
  rfl

/-- A cycle is told with the set that the search finds. -/
theorem Links.compile_of_cyclic? (links : block.Links operators catalog location linked)
    (distinct : block.setIds.Nodup) {index : Nat} {set : ConditionSet}
    (cyclic : linked.nesting.cyclic? = some index)
    (found : block.conditionSets[index]? = some set) :
    block.compile operators catalog location =
      .error (.located .cyclicConditionSet (location.ofSet set)) := by
  have unrepeated : firstRepeated? [] block.setIds = none :=
    firstRepeated?_eq_none_iff.mpr ⟨distinct, fun _ _ => List.not_mem_nil⟩
  obtain ⟨checked, checkedOk, linkedOk⟩ := RuleBlock.links_iff.mpr links
  unfold RuleBlock.compile
  simp only [unrepeated]
  refine (bind_of_ok checkedOk _).trans ((bind_of_ok linkedOk _).trans ?_)
  split
  · next first again =>
    obtain rfl := Option.some.inj (cyclic.symm.trans again)
    rw [links.id_of_getElem? found]
    rfl
  · next acyclic => cases acyclic.symm.trans cyclic

/-- Where there is no cycle, what is left are the actions. -/
theorem Links.exists_of_compile_eq_error (links : block.Links operators catalog location linked)
    (distinct : block.setIds.Nodup) (acyclic : linked.nesting.cyclic? = none) {error : RuleError}
    (failed : block.compile operators catalog location = .error error) :
    ∃ action ∈ block.actions, action.compile catalog { location with action := some action.id } =
      .error error := by
  have unrepeated : firstRepeated? [] block.setIds = none :=
    firstRepeated?_eq_none_iff.mpr ⟨distinct, fun _ _ => List.not_mem_nil⟩
  obtain ⟨checked, checkedOk, linkedOk⟩ := RuleBlock.links_iff.mpr links
  unfold RuleBlock.compile at failed
  simp only [unrepeated] at failed
  have failed := (bind_of_ok checkedOk _).symm.trans failed
  have failed := (bind_of_ok linkedOk _).symm.trans failed
  split at failed
  · next again => cases acyclic.symm.trans again
  · cases offered : block.actions.mapM fun action =>
        action.compile catalog { location with action := some action.id } with
    | ok actions => cases (bind_of_ok offered _).symm.trans failed
    | error first =>
      rw [offered] at failed
      obtain rfl := Except.error.inj failed
      exact exists_of_mapM_eq_error offered

/-- What a finding says about a block: whether there is a cycle, and where. -/
structure Blames (block : RuleBlock) (operators : OperatorRegistry) (catalog : Catalog)
    (location : Location) (finding : Finding) : Prop where
  /-- Nothing is found exactly if parents lead from every set to one without a parent. -/
  exact : finding.position? = none ↔
    ∀ set ∈ block.conditionSets, set.Grounded block.conditionSets
  /-- The way up does not come to a set that is inside no other. -/
  goesOn : ∀ start, finding ≠ .fellBack start
  /-- The set at the position that is found lies on a cycle, and the block is refused for it. -/
  cyclic : ∀ index, finding.position? = some index →
    ∃ set, block.conditionSets[index]? = some set ∧
      OnCycle (ConditionSet.DirectlyInside block.conditionSets) set ∧
      block.compile operators catalog location =
        .error (.located .cyclicConditionSet (location.ofSet set))
  /-- If nothing is found the block is not refused for a cycle. -/
  acyclic : finding.position? = none → ∀ place,
    block.compile operators catalog location ≠ .error (.located .cyclicConditionSet place)

theorem Links.blames (links : block.Links operators catalog location linked)
    (distinct : block.setIds.Nodup) :
    block.Blames operators catalog location (.of linked.nesting.cyclic?) where
  exact := by
    rw [Finding.position?_of]
    exact links.cyclic?_eq_none_iff distinct
  goesOn := Finding.of_ne_fellBack _
  cyclic := fun index found => by
    rw [Finding.position?_of] at found
    obtain ⟨set, stands, _, _, _, -, -, -, first⟩ := links.firstCyclic distinct found
    exact ⟨set, stands, first.onCycle, links.compile_of_cyclic? distinct found stands⟩
  acyclic := fun found place failed => by
    rw [Finding.position?_of] at found
    obtain ⟨action, -, refused⟩ := links.exists_of_compile_eq_error distinct found failed
    unfold Action.compile refuse at refused
    split at refused
    · exact nomatch refused
    · exact nomatch refused

/-- Both loops of the search end on every arena whose positions exist. On the arena of a block
whose sets compile and whose parents exist, the search finds what the compiler blames: nothing if
all parents lead to sets on top, and otherwise a set on a cycle. -/
theorem search_blames_cycle {operators : OperatorRegistry} {catalog : Catalog}
    {location : Location} {block : RuleBlock} (distinct : block.setIds.Nodup)
    (valid : ∀ set ∈ block.conditionSets,
      ∃ compiled, set.compile operators catalog (location.ofSet set) = .ok compiled)
    (parents : ∀ set ∈ block.conditionSets,
      ∀ parent, set.parent = some parent → ∃ above ∈ block.conditionSets, above.id = parent) :
    (∀ children roots, Sweep.InRange children → LoopsEnd children roots) ∧
    ∃ linked finding, block.Links operators catalog location linked ∧
      (∀ turns, linked.length ≤ turns →
        search (linked.arranged.map (·.children)) linked.nesting.roots turns = .ok finding) ∧
      finding.position? = linked.nesting.cyclic? ∧
      block.Blames operators catalog location finding := by
  obtain ⟨linked, links⟩ := exists_links_iff_forall.mpr fun set member =>
    ⟨valid set member, parents set member⟩
  refine ⟨fun children roots inRange => loopsEnd inRange roots, linked,
    .of linked.nesting.cyclic?, links, fun turns enough => ?_, Finding.position?_of _,
    links.blames distinct⟩
  rw [linked.children_arranged]
  exact Nesting.search_eq links.closed (linked.size_nesting ▸ enough)

/-- A block with two cycles, a set that hangs below one of them, and sets that nest properly. -/
def tangled : RuleBlock where
  id := "block"
  name := "block"
  enabled := true
  conditionSets := [
    { id := "top", name := "top" },
    { id := "inner", name := "inner", parent := some "top" },
    { id := "leaf", name := "leaf", parent := some "hanging" },
    { id := "hanging", name := "hanging", parent := some "second" },
    { id := "first", name := "first", parent := some "second" },
    { id := "second", name := "second", parent := some "first" },
    { id := "own", name := "own", parent := some "own" }]

theorem search_blames_cycle_tangled :
    ∃ linked finding, tangled.Links .defaults ⟨[], []⟩ {} linked ∧
      (∀ turns, linked.length ≤ turns →
        search (linked.arranged.map (·.children)) linked.nesting.roots turns = .ok finding) ∧
      tangled.Blames .defaults ⟨[], []⟩ {} finding ∧ finding.position? ≠ none := by
  have plain : ∀ set ∈ tangled.conditionSets, set.combinationRule = "all" ∧
      set.conditions = [] := by decide
  have valid : ∀ set ∈ tangled.conditionSets, ∃ compiled,
      set.compile .defaults ⟨[], []⟩ (Location.ofSet {} set) = .ok compiled := by
    intro set member
    obtain ⟨rule, conditions⟩ := plain set member
    refine ⟨_, ConditionSet.compile_eq_ok_iff.mpr ⟨.all, [], ?_, ?_, rfl⟩⟩
    · rw [rule]
      decide +kernel
    · rw [conditions]
      exact .nil
  have refused : (match tangled.compile .defaults ⟨[], []⟩ {} with
      | .ok _ => none
      | .error error => some error) =
        some (.located .cyclicConditionSet { conditionSet := some "second" }) := by
    decide +kernel
  obtain ⟨-, linked, finding, links, ends, -, blames⟩ :=
    search_blames_cycle (by decide) valid (by decide)
  refine ⟨linked, finding, links, ends, blames, fun nothing => ?_⟩
  cases compiled : tangled.compile .defaults ⟨[], []⟩ {} with
  | ok block => simp [compiled] at refused
  | error error =>
    rw [compiled] at refused
    exact blames.acyclic nothing _ (compiled.trans (congrArg _ (Option.some.inj refused)))

/-- The search begins at the leaf and finds the set that the one above it is inside. -/
example : search [[1], [], [], [2], [5], [3, 4], [6]] [0] 7 = .ok (.metAgain 5) := by
  decide

end RuleBlock

end Rulebook
