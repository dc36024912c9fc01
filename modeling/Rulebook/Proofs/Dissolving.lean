/-
This file dissolves a condition set into the one it is inside. The conditions of the inner set are
added to those of the outer one, the sets inside the inner one move up to the outer one, and the
inner set is gone. Where both combine by the same rule, nothing changes in what the block decides:
results that are combined first and then combined with others are as good as results that are all
combined at once, and of nothing at all both rules make what does not count.

Positions do not survive this, and neither does the order of evaluation, so verdicts are compared.
The verdict of a set does not depend on the number of levels it is given once they are enough. The
verdicts of the old block are then shown to be those of the new one, by induction on the levels of
the new one: around the outer set the sets inside it change, and everywhere else they stay.
-/
import Rulebook.Proofs.Rearrangement

namespace Rulebook

/-! ### Combining what is combined -/

namespace Combination

/-- The combined verdict, if none is missing. -/
def combine? (rule : Combination) (verdicts : List (Option Bool)) : Option Bool :=
  verdicts.mapM id >>= fun results => some (rule.combine results)

theorem combine?_perm (rule : Combination) {first second : List (Option Bool)}
    (perm : first.Perm second) : rule.combine? first = rule.combine? second :=
  bind_mapM_perm perm id fun _ _ same => congrArg some (rule.combine_perm same)

theorem combine_cons_combine (rule : Combination) (first second : List Bool) :
    rule.combine (rule.combine first :: second) = rule.combine (first ++ second) := by
  cases rule <;> simp [combine]

/-- Verdicts that are combined beforehand might as well be combined with the others. -/
theorem combine?_cons_combine? (rule : Combination) (first second : List (Option Bool)) :
    rule.combine? (rule.combine? first :: second) = rule.combine? (first ++ second) := by
  unfold combine?
  rw [List.mapM_cons, List.mapM_append]
  cases first.mapM id with
  | none => rfl
  | some results =>
    cases second.mapM id with
    | none => rfl
    | some others => exact congrArg some (rule.combine_cons_combine results others)

/-- It does not matter whether some of the verdicts are combined among themselves first. -/
theorem combine?_regroup (rule : Combination) (own inner moved others : List (Option Bool)) :
    rule.combine? (own ++ inner ++ (moved ++ others)) =
      rule.combine? (own ++ rule.combine? (inner ++ moved) :: others) := by
  have gathered : (own ++ inner ++ (moved ++ others)).Perm (inner ++ moved ++ (own ++ others)) :=
    List.perm_iff_count.mpr fun verdict => by
      simp only [List.count_append]
      omega
  rw [rule.combine?_perm gathered, ← combine?_cons_combine?]
  exact rule.combine?_perm List.perm_middle.symm

end Combination

/-! ### Verdicts and levels -/

/-- Sets nest at most so many levels deep from a set on, itself included. -/
def ConditionSet.Within (sets : List ConditionSet) : Nat → ConditionSet → Prop
  | 0, _ => False
  | levels + 1, set => ∀ inner ∈ sets, inner.parent = some set.id → Within sets levels inner

section Levels

variable {operators : OperatorRegistry} {answers : Answers} {sets : List ConditionSet}

/-- The verdict of a set combines those of its conditions and of the sets inside it. -/
theorem ConditionSet.verdict?_succ (levels : Nat) (set : ConditionSet) :
    ConditionSet.verdict? sets operators answers (levels + 1) set =
      Combination.ofText? set.combinationRule >>= fun rule =>
        rule.combine? (set.conditions.map (·.verdict? operators answers) ++
          (sets.filter (·.parent == some set.id)).map
            (ConditionSet.verdict? sets operators answers levels)) := by
  rw [ConditionSet.verdict?]
  refine bind_congr fun rule => ?_
  rw [Combination.combine?, List.mapM_append, List.mapM_map, List.mapM_map]
  simp only [bind_assoc]
  rfl

theorem RuleBlock.verdict?_eq (block : RuleBlock) :
    block.verdict? operators answers =
      Combination.all.combine? ((block.conditionSets.filter (·.parent.isNone)).map
        (ConditionSet.verdict? block.conditionSets operators answers
          block.conditionSets.length)) := by
  rw [Combination.combine?, List.mapM_map]
  rfl

/-- More levels than enough make no difference. -/
theorem ConditionSet.Within.verdict?_eq {levels : Nat} {set : ConditionSet}
    (within : set.Within sets levels) {more : Nat} (enough : levels ≤ more) :
    ConditionSet.verdict? sets operators answers more set =
      ConditionSet.verdict? sets operators answers levels set := by
  induction levels generalizing set more with
  | zero => exact within.elim
  | succ levels inductionHypothesis =>
    obtain ⟨more, rfl⟩ := Nat.exists_eq_add_of_le' (Nat.le_trans (Nat.le_add_left 1 levels) enough)
    rw [verdict?_succ, verdict?_succ]
    refine bind_congr fun rule => congrArg rule.combine? (congrArg _ ?_)
    refine List.map_congr_left fun inner member => ?_
    obtain ⟨inSets, link⟩ := List.mem_filter.mp member
    exact inductionHypothesis (within inner inSets (beq_iff_eq.mp link))
      (Nat.le_of_succ_le_succ enough)

end Levels

/-- In a block that compiles sets nest at most as deep as there are sets. -/
theorem RuleBlock.within_of_compile {block : RuleBlock} {operators : OperatorRegistry}
    {catalog : Catalog} {location : Location} {compiled : CompiledBlock}
    (accepted : block.compile operators catalog location = .ok compiled) {set : ConditionSet}
    (member : set ∈ block.conditionSets) :
    set.Within block.conditionSets block.conditionSets.length := by
  obtain ⟨distinct, linked, actions, links, acyclic, -⟩ := RuleBlock.compile_eq_ok_iff.mp accepted
  have descend : ∀ levels index set, block.conditionSets[index]? = some set →
      Nesting.fits linked.nesting.childLists levels index = true →
        set.Within block.conditionSets levels := by
    intro levels
    induction levels with
    | zero =>
      intro index set _ fits
      simp [Nesting.fits] at fits
    | succ levels inductionHypothesis =>
      intro index set found fits inner innerMember link
      have bound : index < linked.nesting.size :=
        links.size_nesting ▸ (List.getElem?_eq_some_iff.mp found).1
      have inside := links.children_forall₂ distinct found
      obtain ⟨child, childMember, childFound⟩ := exists_mem_of_forall₂ inside.flip
        (List.mem_filter.mpr ⟨innerMember, beq_iff_eq.mpr link⟩)
      rw [← Nesting.inner_childLists linked.nesting bound] at childMember
      exact inductionHypothesis child inner childFound (Nesting.fits_inner fits childMember)
  obtain ⟨index, found⟩ := List.mem_iff_getElem?.mp member
  have bound := (List.getElem?_eq_some_iff.mp found).1
  rw [← links.size_nesting] at bound ⊢
  exact descend _ index set found
    (linked.nesting.fits_of_cyclic?_eq_none acyclic index bound)

/-! ### Dissolving a set -/

/-- What becomes of a set when an inner set is dissolved into an outer one: what was inside the
inner set is inside the outer one, and the outer one has the conditions of both. -/
def ConditionSet.absorb (inner outer set : ConditionSet) : ConditionSet :=
  { set with
    parent := if set.parent = some inner.id then some outer.id else set.parent
    conditions := if set.id = outer.id then set.conditions ++ inner.conditions
      else set.conditions }

/-- The sets that are left when an inner set is dissolved into an outer one. -/
def ConditionSet.absorbed (sets : List ConditionSet) (inner outer : ConditionSet) :
    List ConditionSet :=
  (sets.filter (·.id != inner.id)).map (absorb inner outer)

theorem ConditionSet.absorb_mem_absorbed {sets : List ConditionSet} {set : ConditionSet}
    (inner outer : ConditionSet) (member : set ∈ sets) (left : set.id ≠ inner.id) :
    absorb inner outer set ∈ absorbed sets inner outer :=
  List.mem_map.mpr ⟨set, List.mem_filter.mpr ⟨member, bne_iff_ne.mpr left⟩, rfl⟩

/-- The block without an inner set, which is dissolved into the outer one. -/
def RuleBlock.dissolve (block : RuleBlock) (inner outer : ConditionSet) : RuleBlock :=
  { block with conditionSets := ConditionSet.absorbed block.conditionSets inner outer }

/-- One set of a list is inside another one, and identifiers tell sets apart. -/
structure ConditionSet.Nested (sets : List ConditionSet) (inner outer : ConditionSet) : Prop where
  distinct : (sets.map (·.id)).Nodup
  innerMember : inner ∈ sets
  outerMember : outer ∈ sets
  link : inner.parent = some outer.id
  apart : inner.id ≠ outer.id

namespace ConditionSet.Nested

variable {sets : List ConditionSet} {inner outer : ConditionSet}

theorem parent_absorb_iff {set : ConditionSet} {id : String} (notInner : id ≠ inner.id)
    (notOuter : id ≠ outer.id) :
    (absorb inner outer set).parent = some id ↔ set.parent = some id := by
  unfold absorb
  by_cases moves : set.parent = some inner.id
  · simp [moves, notInner.symm, notOuter.symm]
  · simp [moves]

theorem parent_absorb_outer_iff {set : ConditionSet} :
    (absorb inner outer set).parent = some outer.id ↔
      set.parent = some inner.id ∨ set.parent = some outer.id := by
  unfold absorb
  by_cases moves : set.parent = some inner.id <;> simp [moves]

theorem parent_absorb_none_iff {set : ConditionSet} :
    (absorb inner outer set).parent = none ↔ set.parent = none := by
  unfold absorb
  by_cases moves : set.parent = some inner.id <;> simp [moves]

theorem eq_of_id (nested : Nested sets inner outer) {set other : ConditionSet}
    (member : set ∈ sets) (otherMember : other ∈ sets) (same : set.id = other.id) :
    set = other :=
  List.inj_on_of_nodup_map nested.distinct member otherMember same

/-- Only the inner set has its identifier, and it is inside the outer one. -/
theorem parent_of_id (nested : Nested sets inner outer) {set : ConditionSet} (member : set ∈ sets)
    (same : set.id = inner.id) : set.parent = some outer.id := by
  rw [nested.eq_of_id member nested.innerMember same, nested.link]

/-- All sets are the inner one and those that are left. -/
theorem perm (nested : Nested sets inner outer) :
    sets.Perm (inner :: sets.filter (·.id != inner.id)) := by
  obtain ⟨before, after, rfl⟩ := List.append_of_mem nested.innerMember
  have distinct := nested.distinct
  rw [List.map_append, List.map_cons, List.nodup_middle, List.nodup_cons,
    List.mem_append] at distinct
  have left : ∀ set, set ∈ before ∨ set ∈ after → (set.id != inner.id) = true := by
    intro set member
    refine bne_iff_ne.mpr fun same => distinct.1 ?_
    exact member.imp (fun member => List.mem_map.mpr ⟨set, member, same⟩)
      fun member => List.mem_map.mpr ⟨set, member, same⟩
  rw [List.filter_append, List.filter_cons_of_neg (by simp),
    List.filter_eq_self.mpr fun set member => left set (Or.inl member),
    List.filter_eq_self.mpr fun set member => left set (Or.inr member)]
  exact List.perm_middle

/-- What is inside other sets stays there. -/
theorem filter_absorbed (nested : Nested sets inner outer) {id : String}
    (notInner : id ≠ inner.id) (notOuter : id ≠ outer.id) :
    (absorbed sets inner outer).filter (·.parent == some id) =
      (sets.filter (·.parent == some id)).map (absorb inner outer) := by
  unfold absorbed
  rw [List.filter_map, List.filter_filter]
  refine congrArg (List.map _) (List.filter_congr fun set member => ?_)
  rw [Bool.eq_iff_iff]
  simp only [Function.comp, Bool.and_eq_true, beq_iff_eq, bne_iff_ne]
  rw [parent_absorb_iff notInner notOuter]
  refine and_iff_left_of_imp fun link same => notOuter ?_
  exact Option.some.inj (link.symm.trans (nested.parent_of_id member same))

/-- The sets on top stay there. -/
theorem filter_absorbed_none (nested : Nested sets inner outer) :
    (absorbed sets inner outer).filter (·.parent.isNone) =
      (sets.filter (·.parent.isNone)).map (absorb inner outer) := by
  unfold absorbed
  rw [List.filter_map, List.filter_filter]
  refine congrArg (List.map _) (List.filter_congr fun set member => ?_)
  rw [Bool.eq_iff_iff]
  simp only [Function.comp, Bool.and_eq_true, Option.isNone_iff_eq_none, bne_iff_ne]
  rw [parent_absorb_none_iff]
  refine and_iff_left_of_imp fun alone same => ?_
  cases alone.symm.trans (nested.parent_of_id member same)

/-- Inside the outer set were the inner one and others. -/
theorem filter_outer_perm (nested : Nested sets inner outer) :
    (sets.filter (·.parent == some outer.id)).Perm
      (inner :: (sets.filter (·.id != inner.id)).filter (·.parent == some outer.id)) := by
  have chosen := nested.perm.filter (·.parent == some outer.id)
  rwa [List.filter_cons, if_pos (beq_iff_eq.mpr nested.link)] at chosen

/-- Inside the outer set are then those that were inside the inner one, and the others. -/
theorem filter_absorbed_outer_perm (nested : Nested sets inner outer) :
    ((absorbed sets inner outer).filter (·.parent == some outer.id)).Perm
      ((sets.filter (·.parent == some inner.id) ++
        (sets.filter (·.id != inner.id)).filter (·.parent == some outer.id)).map
          (absorb inner outer)) := by
  have notInside : ¬ (inner.parent == some inner.id) = true := by
    simp [nested.link, nested.apart.symm]
  have moved : (sets.filter (·.parent == some inner.id)).Perm
      ((sets.filter (·.id != inner.id)).filter (·.parent == some inner.id)) := by
    have chosen := nested.perm.filter (·.parent == some inner.id)
    rwa [List.filter_cons, if_neg notInside] at chosen
  refine List.Perm.trans ?_ ((moved.symm.append_right _).map _)
  unfold absorbed
  rw [List.filter_map]
  refine List.Perm.map _ ?_
  generalize sets.filter (·.id != inner.id) = others
  have split := (List.filter_append_perm (·.parent == some inner.id)
    (others.filter ((·.parent == some outer.id) ∘ absorb inner outer))).symm
  rw [List.filter_filter, List.filter_filter] at split
  refine split.trans (List.Perm.of_eq (congrArg₂ _ ?_ ?_))
  · refine List.filter_congr fun set _ => ?_
    rw [Bool.eq_iff_iff]
    simp only [Function.comp, Bool.and_eq_true, beq_iff_eq, parent_absorb_outer_iff]
    exact and_iff_left_of_imp Or.inl
  · refine List.filter_congr fun set _ => ?_
    rw [Bool.eq_iff_iff]
    simp only [Function.comp, Bool.and_eq_true, Bool.not_eq_true', beq_eq_false_iff_ne,
      beq_iff_eq, parent_absorb_outer_iff]
    constructor
    · exact fun both => both.2.resolve_left both.1
    · intro link
      refine ⟨fun other => nested.apart ?_, Or.inr link⟩
      exact Option.some.inj (other.symm.trans link)

/-! ### The verdicts after dissolving -/

section Verdicts

variable {verdict verdictAfter : ConditionSet → Option Bool} {id : String}
  (agree : ∀ set ∈ sets, set.id ≠ inner.id → (absorb inner outer set).parent = some id →
    verdictAfter (absorb inner outer set) = verdict set)

include agree in
/-- Inside sets other than the outer one the verdicts are those they were. -/
theorem map_filter_absorbed (nested : Nested sets inner outer) (notInner : id ≠ inner.id)
    (notOuter : id ≠ outer.id) :
    ((absorbed sets inner outer).filter (·.parent == some id)).map verdictAfter =
      (sets.filter (·.parent == some id)).map verdict := by
  rw [nested.filter_absorbed notInner notOuter, List.map_map]
  refine List.map_congr_left fun set chosen => ?_
  obtain ⟨member, link⟩ := List.mem_filter.mp chosen
  have link := beq_iff_eq.mp link
  refine agree set member (fun same => notOuter ?_) ((parent_absorb_iff notInner notOuter).mpr link)
  exact Option.some.inj (link.symm.trans (nested.parent_of_id member same))

include agree in
/-- In the outer set the verdict of the inner one is replaced by what it was combined of. -/
theorem combine?_filter_absorbed (nested : Nested sets inner outer) (isOuter : id = outer.id)
    {rule : Combination} {innerOwn : List (Option Bool)} (own : List (Option Bool))
    (combined : verdict inner = rule.combine?
      (innerOwn ++ (sets.filter (·.parent == some inner.id)).map verdict)) :
    rule.combine? (own ++ innerOwn ++
        ((absorbed sets inner outer).filter (·.parent == some id)).map verdictAfter) =
      rule.combine? (own ++ (sets.filter (·.parent == some id)).map verdict) := by
  subst isOuter
  let moved := sets.filter (·.parent == some inner.id)
  let others := (sets.filter (·.id != inner.id)).filter (·.parent == some outer.id)
  have kept : ((moved ++ others).map (absorb inner outer)).map verdictAfter =
      moved.map verdict ++ others.map verdict := by
    rw [List.map_map, ← List.map_append]
    refine List.map_congr_left fun set chosen => ?_
    rcases List.mem_append.mp chosen with chosen | chosen
    · obtain ⟨member, link⟩ := List.mem_filter.mp chosen
      have link := beq_iff_eq.mp link
      refine agree set member (fun same => nested.apart ?_)
        (parent_absorb_outer_iff.mpr (.inl link))
      exact Option.some.inj (link.symm.trans (nested.parent_of_id member same))
    · obtain ⟨chosen, link⟩ := List.mem_filter.mp chosen
      obtain ⟨member, left⟩ := List.mem_filter.mp chosen
      exact agree set member (bne_iff_ne.mp left)
        (parent_absorb_outer_iff.mpr (.inr (beq_iff_eq.mp link)))
  have after := (nested.filter_absorbed_outer_perm.map verdictAfter).trans (.of_eq kept)
  have before := nested.filter_outer_perm.map verdict
  rw [rule.combine?_perm (after.append_left _), rule.combine?_perm (before.append_left _),
    rule.combine?_regroup, List.map_cons, combined]

end Verdicts

variable {operators : OperatorRegistry} {answers : Answers}

/-- What solves the equation of verdicts for the sets of a list also tells the verdicts of those
that are left after dissolving, on as many levels as they need. -/
theorem verdict?_absorb (nested : Nested sets inner outer)
    (sameRule : Combination.ofText? inner.combinationRule =
      Combination.ofText? outer.combinationRule)
    {verdict : ConditionSet → Option Bool}
    (equation : ∀ set ∈ sets, verdict set =
      Combination.ofText? set.combinationRule >>= fun rule =>
        rule.combine? (set.conditions.map (·.verdict? operators answers) ++
          (sets.filter (·.parent == some set.id)).map verdict))
    {levels : Nat} {set : ConditionSet} (member : set ∈ sets) (left : set.id ≠ inner.id)
    (within : (absorb inner outer set).Within (absorbed sets inner outer) levels) :
    ConditionSet.verdict? (absorbed sets inner outer) operators answers levels
      (absorb inner outer set) = verdict set := by
  induction levels generalizing set with
  | zero => exact within.elim
  | succ levels inductionHypothesis =>
    have agree : ∀ other ∈ sets, other.id ≠ inner.id →
        (absorb inner outer other).parent = some set.id →
        ConditionSet.verdict? (absorbed sets inner outer) operators answers levels
          (absorb inner outer other) = verdict other := by
      intro other otherMember otherLeft link
      exact inductionHypothesis otherMember otherLeft
        (within _ (absorb_mem_absorbed inner outer otherMember otherLeft) link)
    rw [verdict?_succ, equation set member]
    show (Combination.ofText? set.combinationRule >>= _) = _
    by_cases isOuter : set.id = outer.id
    · have same := nested.eq_of_id member nested.outerMember isOuter
      have combined := equation inner nested.innerMember
      rw [sameRule, ← same] at combined
      cases parsed : Combination.ofText? set.combinationRule with
      | none => rfl
      | some rule =>
        rw [parsed] at combined
        have conditions :
            (absorb inner outer set).conditions = set.conditions ++ inner.conditions :=
          if_pos isOuter
        have regrouped := nested.combine?_filter_absorbed agree isOuter
          (set.conditions.map (·.verdict? operators answers)) combined
        rw [← List.map_append, ← conditions] at regrouped
        exact regrouped
    · have conditions : (absorb inner outer set).conditions = set.conditions := if_neg isOuter
      rw [conditions]
      exact bind_congr fun rule =>
        congrArg rule.combine? (congrArg _ (nested.map_filter_absorbed agree left isOuter))

end ConditionSet.Nested

/-! ### The block after dissolving -/

section Blocks

variable {operators : OperatorRegistry} {catalog : Catalog} {location : Location}
  {inner outer : ConditionSet}

/-- No set that parents lead up from is its own parent. -/
theorem ConditionSet.Grounded.parent_ne {sets : List ConditionSet}
    (distinct : (sets.map (·.id)).Nodup) {set : ConditionSet} (grounded : set.Grounded sets)
    (member : set ∈ sets) : set.parent ≠ some set.id := by
  induction grounded with
  | onTop alone => simp [alone]
  | @inside set above aboveMember link _ inductionHypothesis =>
    intro own
    have sameId : set.id = above.id := Option.some.inj (own.symm.trans link)
    obtain rfl := List.inj_on_of_nodup_map distinct member aboveMember sameId
    exact inductionHypothesis member own

/-- A set inside another one of a block that compiles is nested in it. -/
theorem RuleBlock.Acceptable.nested {block : RuleBlock}
    (acceptable : block.Acceptable operators catalog location)
    (innerMember : inner ∈ block.conditionSets) (outerMember : outer ∈ block.conditionSets)
    (link : inner.parent = some outer.id) :
    ConditionSet.Nested block.conditionSets inner outer where
  distinct := acceptable.distinct
  innerMember
  outerMember
  link
  apart := fun same => (acceptable.grounded inner innerMember).parent_ne acceptable.distinct
    innerMember (same ▸ link)

namespace ConditionSet.Nested

variable {sets : List ConditionSet}

/-- Ways up lead past the inner set to the outer one. -/
theorem grounded_absorb (nested : Nested sets inner outer) {set : ConditionSet}
    (grounded : set.Grounded sets) (member : set ∈ sets) :
    (set.id ≠ inner.id → (absorb inner outer set).Grounded (absorbed sets inner outer)) ∧
      (set.id = inner.id → (absorb inner outer outer).Grounded (absorbed sets inner outer)) := by
  have outerRemains := absorb_mem_absorbed inner outer nested.outerMember nested.apart.symm
  induction grounded with
  | @onTop set alone =>
    refine ⟨fun _ => .onTop (parent_absorb_none_iff.mpr alone), fun same => ?_⟩
    cases alone.symm.trans (nested.parent_of_id member same)
  | @inside set above aboveMember link _ inductionHypothesis =>
    obtain ⟨aboveLeft, aboveInner⟩ := inductionHypothesis aboveMember
    refine ⟨fun _ => ?_, fun same => ?_⟩
    · by_cases isInner : above.id = inner.id
      · have up : (absorb inner outer set).parent = some outer.id :=
          parent_absorb_outer_iff.mpr (.inl (isInner ▸ link))
        exact .inside outerRemains up (aboveInner isInner)
      · have up : (absorb inner outer set).parent = some above.id := by
          by_cases isOuter : above.id = outer.id
          · rw [isOuter] at link ⊢
            exact parent_absorb_outer_iff.mpr (.inr link)
          · exact (parent_absorb_iff isInner isOuter).mpr link
        exact .inside (absorb_mem_absorbed inner outer aboveMember isInner) up (aboveLeft isInner)
    · have sameId := Option.some.inj ((nested.parent_of_id member same).symm.trans link)
      obtain rfl := nested.eq_of_id nested.outerMember aboveMember sameId
      exact aboveLeft nested.apart.symm

end ConditionSet.Nested

/-- Whether a condition compiles does not depend on its place. -/
theorem Condition.compile_anywhere {condition : Condition} {compiled : CompiledCondition}
    (accepted : condition.compile operators catalog location = .ok compiled) (place : Location) :
    condition.compile operators catalog place = .ok compiled := by
  obtain ⟨property, operator, bound, offered, found, allowed, boundTo, same⟩ :=
    Condition.compile_eq_ok_iff.mp accepted
  exact Condition.compile_eq_ok_iff.mpr ⟨property, operator, bound, offered, found, allowed,
    Operator.bind_eq_ok_iff.mpr (Operator.bind_eq_ok_iff.mp boundTo), same⟩

theorem ConditionSet.exists_compile_absorb {place innerPlace : Location} {set : ConditionSet}
    {compiled compiledInner : CompiledConditionSet}
    (accepted : set.compile operators catalog place = .ok compiled)
    (innerAccepted : inner.compile operators catalog innerPlace = .ok compiledInner) :
    ∃ compiled, (absorb inner outer set).compile operators catalog place = .ok compiled := by
  obtain ⟨rule, conditions, parsed, conditionsAccepted, -⟩ :=
    ConditionSet.compile_eq_ok_iff.mp accepted
  obtain ⟨-, innerConditions, -, innerConditionsAccepted, -⟩ :=
    ConditionSet.compile_eq_ok_iff.mp innerAccepted
  by_cases isOuter : set.id = outer.id
  · refine ⟨_, ConditionSet.compile_eq_ok_iff.mpr
      ⟨rule, conditions ++ innerConditions, parsed, ?_, rfl⟩⟩
    rw [show (absorb inner outer set).conditions = set.conditions ++ inner.conditions from
      if_pos isOuter]
    exact List.rel_append conditionsAccepted
      (innerConditionsAccepted.imp fun _ _ accepted => Condition.compile_anywhere accepted _)
  · refine ⟨_, ConditionSet.compile_eq_ok_iff.mpr ⟨rule, conditions, parsed, ?_, rfl⟩⟩
    rw [show (absorb inner outer set).conditions = set.conditions from if_neg isOuter]
    exact conditionsAccepted

namespace RuleBlock

variable {block : RuleBlock}

/-- What is asked of a block is still fulfilled. -/
theorem Acceptable.dissolve (acceptable : block.Acceptable operators catalog location)
    (innerMember : inner ∈ block.conditionSets) (outerMember : outer ∈ block.conditionSets)
    (link : inner.parent = some outer.id) :
    (block.dissolve inner outer).Acceptable operators catalog location := by
  have nested := acceptable.nested innerMember outerMember link
  have origin : ∀ after ∈ (block.dissolve inner outer).conditionSets,
      ∃ set ∈ block.conditionSets, set.id ≠ inner.id ∧
        ConditionSet.absorb inner outer set = after := by
    intro after member
    obtain ⟨set, chosen, same⟩ := List.mem_map.mp member
    obtain ⟨setMember, left⟩ := List.mem_filter.mp chosen
    exact ⟨set, setMember, bne_iff_ne.mp left, same⟩
  refine { distinct := ?_, compiles := ?_, parents := ?_, grounded := ?_,
           actions := acceptable.actions }
  · have ids : (block.dissolve inner outer).setIds =
        (block.conditionSets.filter (·.id != inner.id)).map (·.id) := List.map_map
    rw [ids]
    exact acceptable.distinct.sublist (List.filter_sublist.map _)
  · intro after member
    obtain ⟨set, setMember, -, rfl⟩ := origin after member
    obtain ⟨compiled, accepted⟩ := acceptable.compiles set setMember
    obtain ⟨compiledInner, innerAccepted⟩ := acceptable.compiles inner innerMember
    exact ConditionSet.exists_compile_absorb accepted innerAccepted
  · intro after member parent named
    obtain ⟨set, setMember, -, rfl⟩ := origin after member
    by_cases toOuter : parent = outer.id
    · exact ⟨_, ConditionSet.absorb_mem_absorbed inner outer outerMember nested.apart.symm,
        toOuter.symm⟩
    · have notInner : parent ≠ inner.id := by
        rintro rfl
        unfold ConditionSet.absorb at named
        split at named
        · exact nested.apart (Option.some.inj named).symm
        · next stays => exact stays named
      obtain ⟨above, aboveMember, rfl⟩ := acceptable.parents set setMember parent
        ((ConditionSet.Nested.parent_absorb_iff notInner toOuter).mp named)
      exact ⟨_, ConditionSet.absorb_mem_absorbed inner outer aboveMember notInner, rfl⟩
  · intro after member
    obtain ⟨set, setMember, left, rfl⟩ := origin after member
    exact (nested.grounded_absorb (acceptable.grounded set setMember) setMember).1 left

/-- Where both sets combine by the same rule, the verdict of the block is what it was. -/
theorem verdict?_dissolve {compiled dissolved : CompiledBlock}
    (accepted : block.compile operators catalog location = .ok compiled)
    (innerMember : inner ∈ block.conditionSets) (outerMember : outer ∈ block.conditionSets)
    (link : inner.parent = some outer.id)
    (sameRule : Combination.ofText? inner.combinationRule =
      Combination.ofText? outer.combinationRule)
    (dissolvedAccepted :
      (block.dissolve inner outer).compile operators catalog location = .ok dissolved)
    (answers : Answers) :
    (block.dissolve inner outer).verdict? operators answers = block.verdict? operators answers := by
  have nested := (exists_compile_iff_acceptable.mp ⟨compiled, accepted⟩).nested innerMember
    outerMember link
  -- One level more than enough makes no difference, so the verdicts solve their equation.
  have settled := fun set (member : set ∈ block.conditionSets) =>
    @ConditionSet.Within.verdict?_eq operators answers _ _ set
      (within_of_compile accepted member) _ (Nat.le_succ block.conditionSets.length)
  have equation := fun set member =>
    (settled set member).symm.trans (ConditionSet.verdict?_succ block.conditionSets.length set)
  rw [verdict?_eq, verdict?_eq]
  refine congrArg _ ((congrArg _ nested.filter_absorbed_none).trans ?_)
  rw [List.map_map]
  refine List.map_congr_left fun root chosen => ?_
  obtain ⟨member, onTop⟩ := List.mem_filter.mp chosen
  have left : root.id ≠ inner.id := by
    intro same
    rw [nested.parent_of_id member same] at onTop
    exact nomatch onTop
  exact nested.verdict?_absorb sameRule equation member left (within_of_compile dissolvedAccepted
    (ConditionSet.absorb_mem_absorbed inner outer member left))

end RuleBlock

end Blocks

end Rulebook
