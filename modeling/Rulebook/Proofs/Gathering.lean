/-
This file puts one more set around a block. The new set stands on top, combines by `all`, has no
conditions, and all sets that were on top are inside it. It is not there for an evaluation: the sets
inside it are evaluated in the order in which they were, each tells its own place in its errors, and
what they give is combined as the block would have combined it. So the evaluation of the block is
the same step as before, for every instance of the variables, down to what it asks of them.

Positions are not the same any more. Two compiled blocks are matched by a relation between their
positions that goes on to the positions inside; sets that are matched are evaluated by the same
steps. Here the sets are matched that were compiled from the same set of the source.
-/
import Rulebook.Proofs.Dissolving

namespace Rulebook

variable {World : Type}

/-! ### Matched positions -/

/-- Steps that are told where their item comes from are the steps on the related items. -/
theorem Effect.mapM_attach_congr {Error Item Other Result : Type} {items : List Item}
    {others : List Other} {related : Item → Other → Prop}
    {act : { item // item ∈ items } → Effect World Error Result}
    {otherAct : Other → Effect World Error Result} (pairs : List.Forall₂ related items others)
    (same : ∀ item other, related item.1 other → act item = otherAct other) :
    items.attach.mapM act = others.mapM otherAct :=
  AlikeInSequence.eq.mapM_attach act otherAct pairs same

namespace CompiledBlock

/-- A relation between the positions of two blocks at which sets are alike, with positions inside
them that are related again. -/
def Matches (first second : CompiledBlock) (related : Nat → Nat → Prop) : Prop :=
  ∀ index other, related index other → ∃ set otherSet,
    first.sets[index]? = some set ∧ second.sets[other]? = some otherSet ∧
    set.id = otherSet.id ∧ set.rule = otherSet.rule ∧ set.conditions = otherSet.conditions ∧
    List.Forall₂ related set.children otherSet.children

variable {first second : CompiledBlock} {related : Nat → Nat → Prop}

/-- An evaluation puts the set at its position in the place that is told. -/
theorem evaluateWithin_place (block : CompiledBlock) (vars : VariablesInstance World)
    (levels index : Nat)
    (fits : Nesting.fits (block.sets.map (·.children)) levels index = true) (place : Location)
    (id? : Option String) :
    block.evaluateWithin vars levels index fits { place with conditionSet := id? } =
      block.evaluateWithin vars levels index fits place := by
  cases levels with
  | zero => exact absurd fits (by simp [Nesting.fits])
  | succ levels => rfl

/-- Sets at related positions are evaluated by the same steps. -/
theorem Matches.evaluateWithin_eq (matched : first.Matches second related)
    (vars : VariablesInstance World) {levels otherLevels index other : Nat}
    (pair : related index other)
    (fits : Nesting.fits (first.sets.map (·.children)) levels index = true)
    (otherFits : Nesting.fits (second.sets.map (·.children)) otherLevels other = true)
    (place : Location) :
    first.evaluateWithin vars levels index fits place =
      second.evaluateWithin vars otherLevels other otherFits place := by
  induction levels generalizing otherLevels index other place with
  | zero => exact absurd fits (by simp [Nesting.fits])
  | succ levels inductionHypothesis =>
    cases otherLevels with
    | zero => exact absurd otherFits (by simp [Nesting.fits])
    | succ otherLevels =>
      obtain ⟨set, otherSet, found, otherFound, id, rule, conditions, children⟩ :=
        matched index other pair
      obtain ⟨bound, inside, unfolded⟩ := first.evaluateWithin_succ vars levels index fits place
      obtain ⟨otherBound, otherInside, otherUnfolded⟩ :=
        second.evaluateWithin_succ vars otherLevels other otherFits place
      obtain ⟨_, rfl⟩ := List.getElem?_eq_some_iff.mp found
      obtain ⟨_, rfl⟩ := List.getElem?_eq_some_iff.mp otherFound
      rw [← List.attach_map_subtype_val second.sets[other].children, List.forall₂_map_right_iff]
        at children
      rw [unfolded, otherUnfolded]
      simp only [id, rule, conditions]
      refine bind_congr fun own => congrArg (· >>= _) ?_
      exact Effect.mapM_attach_congr children fun child otherChild childPair =>
        inductionHypothesis childPair _ _ _

end CompiledBlock

/-! ### One more set around a block -/

/-- What becomes of a set when a root is put around all: if it was on top, it is inside the root. -/
def ConditionSet.under (set root : ConditionSet) : ConditionSet :=
  { set with parent := some (set.parent.getD root.id) }

/-- The block with a root around all its sets, which stands at a position among them. -/
def RuleBlock.gather (block : RuleBlock) (root : ConditionSet) (position : Nat) : RuleBlock :=
  { block with
    conditionSets := (block.conditionSets.take position).map (·.under root) ++
      root :: (block.conditionSets.drop position).map (·.under root) }

/-- A set that can be put around a block: it is on top and combines nothing by `all`, and its
identifier is new. -/
structure ConditionSet.Gathers (root : ConditionSet) (block : RuleBlock) : Prop where
  alone : root.parent = none
  all : Combination.ofText? root.combinationRule = some .all
  empty : root.conditions = []
  fresh : root.id ∉ block.setIds

namespace ConditionSet.Gathers

variable {operators : OperatorRegistry} {catalog : Catalog} {location : Location}
  {block : RuleBlock} {root : ConditionSet}

theorem mem_iff (block : RuleBlock) (root : ConditionSet) (position : Nat) {set : ConditionSet} :
    set ∈ (block.gather root position).conditionSets ↔
      set = root ∨ ∃ inner ∈ block.conditionSets, inner.under root = set := by
  have split := List.take_append_drop position block.conditionSets
  unfold RuleBlock.gather
  rw [List.mem_append, List.mem_cons, or_left_comm, ← List.mem_append, ← List.map_append, split,
    List.mem_map]

/-- What is chosen of the sets inside the root is what was chosen before. -/
theorem filter_gather (block : RuleBlock) (root : ConditionSet) (position : Nat)
    {chosen choice : ConditionSet → Bool} (notRoot : chosen root = false)
    (same : ∀ set ∈ block.conditionSets, chosen (set.under root) = choice set) :
    (block.gather root position).conditionSets.filter chosen =
      (block.conditionSets.filter choice).map (·.under root) := by
  unfold RuleBlock.gather
  rw [List.filter_append, List.filter_cons, if_neg (Bool.not_eq_true _ ▸ notRoot), List.filter_map,
    List.filter_map, ← List.map_append, ← List.filter_append, List.take_append_drop]
  exact congrArg (List.map _) (List.filter_congr same)

/-- What is asked of a block is still fulfilled. -/
theorem acceptable (gathers : root.Gathers block)
    (acceptable : block.Acceptable operators catalog location) (position : Nat) :
    (block.gather root position).Acceptable operators catalog location := by
  have members := fun set => @mem_iff block root position set
  have up : ∀ set ∈ block.conditionSets, set.Grounded block.conditionSets →
      (set.under root).Grounded (block.gather root position).conditionSets := by
    intro set _ grounded
    induction grounded with
    | onTop alone =>
      refine .inside ((members root).mpr (.inl rfl)) ?_ (.onTop gathers.alone)
      simp [under, alone]
    | inside member link _ inductionHypothesis =>
      refine .inside ((members _).mpr (.inr ⟨_, member, rfl⟩)) ?_ (inductionHypothesis member)
      simp [under, link]
  refine { distinct := ?_, compiles := ?_, parents := ?_, grounded := ?_,
           actions := acceptable.actions }
  · have ids : (block.gather root position).setIds.Perm (root.id :: block.setIds) := by
      have split := List.take_append_drop position block.setIds
      unfold RuleBlock.setIds RuleBlock.gather at *
      rw [List.map_append, List.map_cons, List.map_map, List.map_map]
      rw [← List.map_take, ← List.map_drop] at split
      exact List.perm_middle.trans (.of_eq (congrArg _ split))
    exact ids.nodup_iff.mpr (List.nodup_cons.mpr ⟨gathers.fresh, acceptable.distinct⟩)
  · intro set member
    rcases (members set).mp member with rfl | ⟨inner, innerMember, rfl⟩
    · refine ⟨_, ConditionSet.compile_eq_ok_iff.mpr ⟨.all, [], gathers.all, ?_, rfl⟩⟩
      rw [gathers.empty]
      exact .nil
    · exact acceptable.compiles inner innerMember
  · intro set member parent named
    rcases (members set).mp member with rfl | ⟨inner, innerMember, rfl⟩
    · exact nomatch gathers.alone.symm.trans named
    · have named := Option.some.inj named
      cases link : inner.parent with
      | none => exact ⟨root, (members root).mpr (.inl rfl), by simpa [link] using named⟩
      | some id =>
        obtain ⟨above, aboveMember, same⟩ := acceptable.parents inner innerMember id link
        refine ⟨above.under root, (members _).mpr (.inr ⟨above, aboveMember, rfl⟩), same.trans ?_⟩
        simpa [link] using named
  · intro set member
    rcases (members set).mp member with rfl | ⟨inner, innerMember, rfl⟩
    · exact .onTop gathers.alone
    · exact up inner innerMember (acceptable.grounded inner innerMember)

/-- Inside a set that was there are the sets that were. -/
theorem filter_gather_inside (gathers : root.Gathers block) (position : Nat) {set : ConditionSet}
    (member : set ∈ block.conditionSets) :
    (block.gather root position).conditionSets.filter (·.parent == some set.id) =
      (block.conditionSets.filter (·.parent == some set.id)).map (·.under root) := by
  refine filter_gather block root position (by simp [gathers.alone]) fun other _ => ?_
  have notRoot : root.id ≠ set.id := fun same =>
    gathers.fresh (same ▸ List.mem_map.mpr ⟨set, member, rfl⟩)
  unfold under
  cases other.parent <;> simp [notRoot]

/-- Inside the root are the sets that were on top. -/
theorem filter_gather_root (gathers : root.Gathers block)
    (acceptable : block.Acceptable operators catalog location) (position : Nat) :
    (block.gather root position).conditionSets.filter (·.parent == some root.id) =
      (block.conditionSets.filter (·.parent.isNone)).map (·.under root) := by
  refine filter_gather block root position (by simp [gathers.alone]) fun set member => ?_
  unfold under
  cases link : set.parent with
  | none => simp
  | some parent =>
    obtain ⟨above, aboveMember, rfl⟩ := acceptable.parents set member parent link
    have notRoot : above.id ≠ root.id := fun same =>
      gathers.fresh (same ▸ List.mem_map.mpr ⟨above, aboveMember, rfl⟩)
    simp [notRoot]

/-- On top is the root. -/
theorem filter_gather_none (gathers : root.Gathers block) (position : Nat) :
    (block.gather root position).conditionSets.filter (·.parent.isNone) = [root] := by
  unfold RuleBlock.gather
  have none? : ∀ sets : List ConditionSet,
      (sets.map (·.under root)).filter (·.parent.isNone) = [] := by
    intro sets
    rw [List.filter_map, List.map_eq_nil_iff, List.filter_eq_nil_iff]
    simp [under]
  rw [List.filter_append, List.filter_cons, if_pos (by rw [gathers.alone]; rfl), none?, none?,
    List.nil_append]

/-! ### The evaluation with a root -/

/-- Positions are matched at which the same set of the source stands, inside the root and before. -/
def Corresponds (block : RuleBlock) (root : ConditionSet) (position index other : Nat) : Prop :=
  ∃ set, block.conditionSets[index]? = some set ∧
    (block.gather root position).conditionSets[other]? = some (set.under root)

/-- Where the sets of one list stand before, and inside the root, positions are matched. -/
theorem forall₂_corresponds {position : Nat} {indices others : List Nat} {sets : List ConditionSet}
    (before : List.Forall₂ (fun index set => block.conditionSets[index]? = some set) indices sets)
    (after : List.Forall₂
      (fun index set => (block.gather root position).conditionSets[index]? = some set)
      others (sets.map (·.under root))) :
    List.Forall₂ (Corresponds block root position) indices others :=
  exists_forall₂_forall₂_iff.mp ⟨sets, before, (List.forall₂_map_right_iff.mp after).flip⟩

theorem matched (gathers : root.Gathers block) {position : Nat} {compiled gathered : CompiledBlock}
    (accepted : block.compile operators catalog location = .ok compiled)
    (gatheredAccepted :
      (block.gather root position).compile operators catalog location = .ok gathered) :
    compiled.Matches gathered (Corresponds block root position) := by
  obtain ⟨distinct, linked, _, links, -, -, -, -, -, sets, -⟩ :=
    RuleBlock.compile_eq_ok_iff.mp accepted
  obtain ⟨gatheredDistinct, gatheredLinked, _, gatheredLinks, -, -, -, -, -, gatheredSets, -⟩ :=
    RuleBlock.compile_eq_ok_iff.mp gatheredAccepted
  rintro index other ⟨set, found, otherFound⟩
  obtain ⟨one, _, linkedFound, oneAccepted, -⟩ := links.entry found
  obtain ⟨two, _, otherLinkedFound, twoAccepted, -⟩ := gatheredLinks.entry otherFound
  -- A set is compiled without a look at its parent.
  obtain rfl : one = two := Except.ok.inj (oneAccepted.symm.trans twoAccepted)
  have inside := gatheredLinks.children_forall₂ gatheredDistinct otherFound
  rw [show (set.under root).id = set.id from rfl,
    gathers.filter_gather_inside position (List.mem_of_getElem? found)] at inside
  have here := LinkedSets.getElem?_arranged linkedFound
  have there := LinkedSets.getElem?_arranged otherLinkedFound
  rw [← sets] at here
  rw [← gatheredSets] at there
  exact ⟨_, _, here, there, rfl, rfl, rfl,
    forall₂_corresponds (links.children_forall₂ distinct found) inside⟩

/-- The root evaluates the sets that were on top, and holds if all of them do. -/
theorem evaluateWithin_root (gathers : root.Gathers block) {position : Nat}
    {compiled gathered : CompiledBlock}
    (accepted : block.compile operators catalog location = .ok compiled)
    (gatheredAccepted :
      (block.gather root position).compile operators catalog location = .ok gathered)
    (vars : VariablesInstance World) (place : Location) {levels index : Nat}
    (found : (block.gather root position).conditionSets[index]? = some root)
    (fits : Nesting.fits (gathered.sets.map (·.children)) levels index = true) :
    gathered.evaluateWithin vars levels index fits place =
      compiled.allConditionsTrue vars place := by
  cases levels with
  | zero => exact absurd fits (by simp [Nesting.fits])
  | succ levels =>
    obtain ⟨_, linked, _, links, -, -, -, -, roots, -, -⟩ := RuleBlock.compile_eq_ok_iff.mp accepted
    obtain ⟨distinct, gatheredLinked, _, gatheredLinks, -, -, -, -, -, gatheredSets, -⟩ :=
      RuleBlock.compile_eq_ok_iff.mp gatheredAccepted
    obtain ⟨compiledRoot, _, linkedFound, rootAccepted, -⟩ := gatheredLinks.entry found
    obtain ⟨rule, conditions, parsed, conditionsAccepted, rfl⟩ :=
      ConditionSet.compile_eq_ok_iff.mp rootAccepted
    obtain rfl : rule = .all := Option.some.inj (parsed.symm.trans gathers.all)
    obtain rfl : conditions = [] :=
      List.forall₂_nil_left_iff.mp (gathers.empty ▸ conditionsAccepted)
    have here := LinkedSets.getElem?_arranged linkedFound
    rw [← gatheredSets] at here
    obtain ⟨_, here⟩ := List.getElem?_eq_some_iff.mp here
    have onTop : List.Forall₂ (Corresponds block root position) compiled.roots
        gathered.sets[index].children := by
      have inside := gatheredLinks.children_forall₂ distinct found
      rw [gathers.filter_gather_root
        (RuleBlock.exists_compile_iff_acceptable.mp ⟨compiled, accepted⟩) position] at inside
      rw [here, roots]
      exact forall₂_corresponds links.roots_forall₂ inside
    obtain ⟨bound, within, unfolded⟩ :=
      gathered.evaluateWithin_succ vars levels index fits place
    rw [← List.attach_map_subtype_val gathered.sets[index].children, List.forall₂_map_right_iff]
      at onTop
    have noConditions : gathered.sets[index].conditions = [] := by rw [here]
    have all : gathered.sets[index].rule = .all := by rw [here]
    rw [unfolded]
    simp only [noConditions, all, List.mapM_nil, pure_bind, List.nil_append]
    unfold CompiledBlock.allConditionsTrue
    refine congrArg (· >>= _) (Effect.mapM_attach_congr onTop fun child other pair => ?_).symm
    rw [CompiledBlock.evaluateWithin_place]
    exact (gathers.matched accepted gatheredAccepted).evaluateWithin_eq vars pair _ _ place

/-- With a root around it a block evaluates by the same steps. -/
theorem allConditionsTrue_eq (gathers : root.Gathers block) {position : Nat}
    {compiled gathered : CompiledBlock}
    (accepted : block.compile operators catalog location = .ok compiled)
    (gatheredAccepted :
      (block.gather root position).compile operators catalog location = .ok gathered)
    (vars : VariablesInstance World) (place : Location) :
    gathered.allConditionsTrue vars place = compiled.allConditionsTrue vars place := by
  obtain ⟨_, linked, _, links, -, -, -, -, roots, -, -⟩ :=
    RuleBlock.compile_eq_ok_iff.mp gatheredAccepted
  have onTop := links.roots_forall₂
  rw [gathers.filter_gather_none position, ← roots] at onTop
  have single : List.Forall₂ (fun index (_ : ConditionSet) =>
      (block.gather root position).conditionSets[index]? = some root) gathered.roots [root] := by
    obtain ⟨index, rest, found, others, same⟩ := List.forall₂_cons_right_iff.mp onTop
    obtain rfl := List.forall₂_nil_right_iff.mp others
    rw [same]
    exact .cons found .nil
  have evaluated : gathered.allConditionsTrue vars place = do
      let results ← [root].mapM fun _ => compiled.allConditionsTrue vars place
      return results.all fun result => result :=
    congrArg (· >>= _) (Effect.mapM_attach_congr single fun index _ found =>
      gathers.evaluateWithin_root accepted gatheredAccepted vars place found _)
  rw [evaluated]
  simp

end ConditionSet.Gathers

/-! ### Nesting is transparent -/

/-- A block that compiles may be nested otherwise. A set that combines by the rule of the set it is
inside may be dissolved into it, and the block compiles and, for variables that answer alike every
time, decides alike or fails as well. And a set that combines nothing by `all` may be put around the
block, and the block compiles and is evaluated by the same steps, whatever the variables do. -/
theorem RuleBlock.nesting_transparent {operators : OperatorRegistry} {catalog : Catalog}
    {location : Location} {block : RuleBlock} {compiled : CompiledBlock}
    (accepted : block.compile operators catalog location = .ok compiled) :
    (∀ inner ∈ block.conditionSets, ∀ outer ∈ block.conditionSets, inner.parent = some outer.id →
      Combination.ofText? inner.combinationRule = Combination.ofText? outer.combinationRule →
      ∃ dissolved, (block.dissolve inner outer).compile operators catalog location = .ok dissolved ∧
        ∀ (World : Type) (vars : VariablesInstance World) (answers : Answers),
          vars.AnswersBy answers → ∀ (place otherPlace : Location) (before otherBefore : World),
            EndAlike ((compiled.allConditionsTrue vars place).perform before).1
              ((dissolved.allConditionsTrue vars otherPlace).perform otherBefore).1) ∧
    ∀ (root : ConditionSet) (position : Nat), root.Gathers block →
      ∃ gathered, (block.gather root position).compile operators catalog location = .ok gathered ∧
        ∀ (World : Type) (vars : VariablesInstance World) (place : Location),
          gathered.allConditionsTrue vars place = compiled.allConditionsTrue vars place := by
  have acceptable := exists_compile_iff_acceptable.mp ⟨compiled, accepted⟩
  constructor
  · intro inner innerMember outer outerMember link sameRule
    obtain ⟨dissolved, dissolvedAccepted⟩ :=
      exists_compile_iff_acceptable.mpr (acceptable.dissolve innerMember outerMember link)
    refine ⟨dissolved, dissolvedAccepted,
      fun World vars answers alike place otherPlace before otherBefore => .of_toOption_eq ?_⟩
    rw [CompiledBlock.allConditionsTrue_decides accepted alike place before,
      CompiledBlock.allConditionsTrue_decides dissolvedAccepted alike otherPlace otherBefore,
      verdict?_dissolve accepted innerMember outerMember link sameRule dissolvedAccepted answers]
  · intro root position gathers
    obtain ⟨gathered, gatheredAccepted⟩ :=
      exists_compile_iff_acceptable.mpr (gathers.acceptable acceptable position)
    exact ⟨gathered, gatheredAccepted, fun World vars place =>
      gathers.allConditionsTrue_eq accepted gatheredAccepted vars place⟩

/-- A set on top. -/
def ConditionSet.outermost : ConditionSet where
  id := "outer"
  name := "outer"
  conditions := [⟨"third", "kind", [], "eq", some "a"⟩]

/-- A set that might as well be dissolved into the one on top: its rule only looks different. -/
def ConditionSet.middle : ConditionSet where
  id := "middle"
  name := "middle"
  combinationRule := " All "
  parent := some "outer"
  conditions := [⟨"fourth", "kind", [], "contains", some "b"⟩]

/-- A block of three sets, one inside the other. -/
def RuleBlock.threefold : RuleBlock where
  id := "block"
  name := "block"
  enabled := true
  conditionSets := [
    { id := "leaf"
      name := "leaf"
      combinationRule := "any"
      parent := some "middle"
      conditions := [⟨"first", "kind", [], "eq", some "a"⟩, ⟨"second", "kind", [], "eq", none⟩] },
    .outermost, .middle]

theorem RuleBlock.nesting_transparent_threefold :
    ∃ compiled dissolved gathered,
      threefold.compile .defaults ⟨[("kind", { name := "kind" })], []⟩ {} = .ok compiled ∧
      (threefold.dissolve .middle .outermost).compile .defaults
        ⟨[("kind", { name := "kind" })], []⟩ {} = .ok dissolved ∧
      (∀ (vars : VariablesInstance Unit) (answers : Answers), vars.AnswersBy answers →
        EndAlike ((compiled.allConditionsTrue vars {}).perform ()).1
          ((dissolved.allConditionsTrue vars {}).perform ()).1) ∧
      (threefold.gather { id := "root", name := "root" } 1).compile .defaults
        ⟨[("kind", { name := "kind" })], []⟩ {} = .ok gathered ∧
      ∀ vars : VariablesInstance Unit,
        gathered.allConditionsTrue vars {} = compiled.allConditionsTrue vars {} := by
  have accepts : (threefold.compile .defaults
      ⟨[("kind", { name := "kind" })], []⟩ {}).isOk = true := by decide +kernel
  obtain ⟨compiled, accepted⟩ := exists_of_isOk accepts
  obtain ⟨dissolves, gathers⟩ := nesting_transparent accepted
  obtain ⟨dissolved, dissolvedAccepted, alike⟩ := dissolves .middle
    (.tail _ (.tail _ (.head _))) .outermost (.tail _ (.head _)) rfl (by decide +kernel)
  obtain ⟨gathered, gatheredAccepted, same⟩ := gathers { id := "root", name := "root" } 1
    ⟨rfl, by decide +kernel, rfl, by decide⟩
  exact ⟨compiled, dissolved, gathered, accepted, dissolvedAccepted,
    fun vars answers answered => alike Unit vars answers answered {} {} () (), gatheredAccepted,
    fun vars => same Unit vars {}⟩

end Rulebook
