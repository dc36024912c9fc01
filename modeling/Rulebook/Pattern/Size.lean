/-
This file measures patterns. A pattern may be written in a few characters and still stand for a
huge automaton, because a counted repetition is a sequence of copies. The size is the number of
bytes of an automaton over the bytes of a text, in the direction of the text or against it, and it
is computed without building one. A pattern above the limit is refused.
-/
import Rulebook.Pattern.Expr
import Rulebook.Pattern.Tally

namespace Rulebook.Pattern

/-- In which direction an automaton reads. -/
inductive Direction where
  | onward
  | backward
  deriving DecidableEq

/-- The plan of an automaton: what is laid out in turn. -/
inductive Plan where
  | states (count held : Nat)
  | characters (sequences : List CharSet.ByteSequence)
  | steps (plans : List Plan)
  | copies (count : Nat) (plan : Plan)

/-! ### Branches that are texts -/

/-- A place in the tree of some texts: how many steps its finished groups have, the latest first,
and the steps of its last group, each a byte and a place. A group is finished where a text ends. -/
structure Place where
  groups : List Nat
  steps : List (Nat × Nat)

/-- Whether a place has no steps. -/
def Place.isLeaf (place : Place) : Bool := place.steps.isEmpty && place.groups.all (· == 0)

/-- The place where one more text ends. -/
def Place.finish (place : Place) : Place :=
  if place.isLeaf && !place.groups.isEmpty then place
  else ⟨place.steps.length :: place.groups, []⟩

/-- The tree with one more text. -/
def addText (tree : Array Place) (start : Nat) : List Nat → Array Place
  | [] => tree.modify start Place.finish
  | byte :: bytes =>
    match ((tree[start]?.map Place.steps).getD []).lookup byte with
    | some next => addText tree next bytes
    | none =>
      let next := tree.size
      let grown := tree.modify start fun place => ⟨place.groups, (byte, next) :: place.steps⟩
      addText (grown.push ⟨[], []⟩) next bytes

/-- What a place of the tree needs: a state for each group with steps, and a state that jumps to
them and to the end. -/
def Place.plan (place : Place) : Plan :=
  if place.isLeaf then .states 0 0
  else
    let groups := (place.steps.length :: place.groups).filter (0 < ·)
    let held := groups.foldl (fun held steps =>
      held + if steps = 1 then 0 else stepSize * steps) 0
    .states (groups.length + 1) (held + jumpSize * (groups.length + place.groups.length))

/-- The bytes of a text. -/
def bytesOf (text : List Char) : List Nat :=
  (String.ofList text).toUTF8.toList.map UInt8.toNat

/-- What branches that are texts need: the tree of the texts and an end. -/
def planOfTexts (direction : Direction) (texts : List (List Char)) : Plan :=
  let tree := texts.foldl (fun tree text =>
    let bytes := bytesOf text
    addText tree 0 (if direction = .onward then bytes else bytes.reverse)) #[⟨[], []⟩]
  .steps (.states 1 0 :: tree.toList.map Place.plan)

/-- The texts of expressions that are all texts. -/
def Expr.texts? (branches : List Expr) : Option (List (List Char)) :=
  branches.mapM fun branch =>
    match branch with
    | .literal text => some text
    | _ => none

/-! ### The plan of an expression -/

/-- The plan of a repetition of a part. -/
def Plan.repeated (plan : Plan) (consuming : Bool) (least : Nat) : Option Nat → Plan
  | none =>
    if 0 < least then .steps [.copies least plan, .states 1 (2 * jumpSize)]
    else if consuming then .steps [.states 1 (2 * jumpSize), plan]
    else .steps [plan, .states 3 (4 * jumpSize)]
  | some most =>
    let exact := if least = 0 then .states 1 0 else .copies least plan
    if least = most then exact
    else if least = 0 ∧ most = 1 then .steps [.states 1 (2 * jumpSize), plan, .states 1 0]
    else
      .steps [exact, .states 1 0,
        .copies (most - least) (.steps [.states 1 (2 * jumpSize), plan])]

/-- The plan of branches. The state that jumps to them and their end come behind the second one. -/
def Plan.ofBranches : List Plan → Plan
  | first :: second :: others =>
    .steps (first :: second :: .states 2 (jumpSize * (others.length + 2)) :: others)
  | plans => .steps plans

mutual

/-- The plan of an expression. Groups are only marked onward. -/
def Expr.plan (direction : Direction) : Expr → Plan
  | .empty => .states 1 0
  | .look _ => .states 1 0
  | .literal text => .states (byteLength text) 0
  | .set unicode members =>
    if members.isAscii || !unicode then .states 2 (stepSize * members.ranges.length)
    else .characters members.byteSequences
  | .sequence items =>
    let plans := Expr.plans direction items
    .steps (if direction = .onward then plans else plans.reverse)
  | .alternation branches =>
    match Expr.texts? branches with
    | some texts => planOfTexts direction texts
    | none => Plan.ofBranches (Expr.plans direction branches)
  | .repetition least most _ body =>
    (body.plan direction).repeated (0 < body.leastLength?.getD 0) least most
  | .capture body =>
    match direction with
    | .onward => .steps [.states 1 0, body.plan direction, .states 1 0]
    | .backward => body.plan direction

/-- The plans of some expressions. -/
def Expr.plans (direction : Direction) : List Expr → List Plan
  | [] => []
  | item :: rest => item.plan direction :: Expr.plans direction rest

end

/-- The plan of a whole automaton: an entry that may skip bytes, unless the pattern is bound to the
end that is read first; then the expression, and the end. Onward the whole match is marked like a
group. -/
def Expr.wholePlan (expr : Expr) (direction : Direction) : Plan :=
  let bound := match direction with
    | .onward => expr.startsAt .textStart
    | .backward => expr.endsAt .textEnd
  let entry := if bound then .states 1 0 else .states 3 (2 * jumpSize + stepSize)
  .steps [entry, (Expr.capture expr).plan direction, .states 1 0]

/-! ### The size -/

/-- The most bytes that an automaton may have. -/
def sizeLimit : Nat := 10 * 1024 * 1024

/-- The tally with so many copies, up to the first one above the limit. -/
def Tally.addCopies (grow : Tally → Tally) : Nat → Tally → Tally
  | 0, tally => tally
  | count + 1, tally =>
    if sizeLimit < tally.bytes then tally else Tally.addCopies grow count (grow tally)

mutual

/-- The tally with what a plan lays out, up to the limit. -/
def Plan.tally (direction : Direction) : Plan → Tally → Tally
  | .states count held, tally => tally.add count held
  | .characters sequences, tally =>
    match direction with
    | .onward => tally.addOnward sequences
    | .backward => tally.addBackward sequences
  | .steps plans, tally => Plan.tallyAll direction plans tally
  | .copies count plan, tally => Tally.addCopies (plan.tally direction) count tally

/-- The tally with what some plans lay out in turn, up to the limit. -/
def Plan.tallyAll (direction : Direction) : List Plan → Tally → Tally
  | [], tally => tally
  | plan :: rest, tally =>
    if sizeLimit < tally.bytes then tally
    else Plan.tallyAll direction rest (plan.tally direction tally)

end

/-- Whether the automata of an expression are within the limit. -/
def Expr.fits (expr : Expr) : Bool :=
  [Direction.onward, .backward].all fun direction =>
    ((expr.wholePlan direction).tally direction ⟨0, 0⟩).bytes ≤ sizeLimit

end Rulebook.Pattern
