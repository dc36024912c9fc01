/-
This file counts the states of an automaton over the bytes of a text, as far as single characters
out of a set are concerned. Onward, the encodings of a set are laid out from their ends, and states
with the same steps are laid out once; backward, they are laid out from their fronts, and the same
step in front of the same state is laid out once. What has been laid out is remembered in a table
with a limited number of places. The place follows from a checksum, which is taken over the numbers
of the states, and a newer entry replaces an older one at its place. Therefore the same set may need
a few states more at one position of a pattern than at another.
-/
import Rulebook.CharSet.Encoding
import Std.Data.HashMap

namespace Rulebook.Pattern

/-- The states laid out so far, and their bytes. The number of a new state is the number of states
before it. -/
structure Tally where
  states : Nat
  bytes : Nat

/-- The bytes of a state. -/
def stateSize : Nat := 32

/-- The bytes of a step on a byte range, in a state with several of them. -/
def stepSize : Nat := 8

/-- The bytes of a step without a byte of the text. -/
def jumpSize : Nat := 4

/-- The tally with more states, and with bytes for what they hold. -/
def Tally.add (tally : Tally) (states held : Nat) : Tally :=
  ⟨tally.states + states, tally.bytes + states * stateSize + held⟩

/-! ### The table of what has been laid out -/

/-- A step on the bytes of a range, to a state. -/
structure Step where
  first : Nat
  last : Nat
  target : Nat
  deriving DecidableEq

/-- What the table holds at a place: the steps of a state and the number of the state. -/
abbrev Memory := Std.HashMap Nat (List Step × Nat)

/-- A checksum that takes in one more number. -/
def absorb (checksum : UInt64) (number : Nat) : UInt64 :=
  (checksum ^^^ UInt64.ofNat number) * 1099511628211

/-- The checksum of some numbers. -/
def checksum (numbers : List Nat) : UInt64 := numbers.foldl absorb 14695981039346656037

/-- The number of places of the table for states. -/
def onwardPlaces : Nat := 10000

/-- The number of places of the table for steps. -/
def backwardPlaces : Nat := 1000

/-- The place of the steps of a state. -/
def placeOfSteps (steps : List Step) : Nat :=
  (checksum (steps.flatMap fun step => [step.first, step.last, step.target])).toNat % onwardPlaces

/-- The place of a step, where the state behind it counts first. -/
def placeOfStep (step : Step) : Nat :=
  (checksum [step.target, step.first, step.last]).toNat % backwardPlaces

/-- The number of the state with some steps, and what is laid out then: nothing new if the table
still holds it. -/
def layOut (place held : Nat) (steps : List Step) (memory : Memory) (tally : Tally) :
    Nat × Memory × Tally :=
  match memory[place]? with
  | some (known, state) =>
    if known = steps then (state, memory, tally)
    else (tally.states, memory.insert place (steps, tally.states), tally.add 1 held)
  | none => (tally.states, memory.insert place (steps, tally.states), tally.add 1 held)

/-! ### Onward -/

/-- A state that is not laid out yet: its steps up to now, the latest first, and the range of the
step that is still open. -/
structure Draft where
  steps : List Step
  range : Option (Nat × Nat)

/-- The draft with its open step led to a state. -/
def Draft.close (draft : Draft) (target : Nat) : Draft :=
  match draft.range with
  | some (first, last) => ⟨⟨first, last, target⟩ :: draft.steps, none⟩
  | none => draft

/-- The number of the state that a draft becomes, with its steps in order. -/
def Draft.layOut (draft : Draft) (memory : Memory) (tally : Tally) : Nat × Memory × Tally :=
  let steps := draft.steps.reverse
  Pattern.layOut (placeOfSteps steps) (stepSize * steps.length) steps memory tally

/-- The drafts of one path from the first byte on. -/
abbrev Path := List Draft

/-- How many ranges of a sequence are the open steps of a path. -/
def sharedCount : CharSet.ByteSequence → Path → Nat
  | range :: ranges, draft :: path =>
    if draft.range = some range then sharedCount ranges path + 1 else 0
  | _, _ => 0

/-- Lays out the drafts of a path behind the first `kept` ones, from its end, and closes the last
one that is kept. `goal` is where the encodings end. -/
def layOutPath (goal : Nat) (memory : Memory) (tally : Tally) :
    Nat → Path → Path × Nat × Memory × Tally
  | _, [] => ([], goal, memory, tally)
  | kept, draft :: path =>
    let (path, target, memory, tally) := layOutPath goal memory tally (kept - 1) path
    if kept = 0 then
      let (state, memory, tally) := (draft.close target).layOut memory tally
      ([], state, memory, tally)
    else if kept = 1 then ([draft.close target], target, memory, tally)
    else (draft :: path, target, memory, tally)

/-- The path with open steps for the ranges of a sequence, the first of them at its end. -/
def Path.extend (ranges : CharSet.ByteSequence) : Path → Path
  | [] => ranges.map fun range => ⟨[], some range⟩
  | [draft] =>
    match ranges with
    | [] => [draft]
    | range :: rest => ⟨draft.steps, some range⟩ :: rest.map fun range => ⟨[], some range⟩
  | draft :: path => draft :: Path.extend ranges path

/-- The tally with one character out of a set, onward. -/
def Tally.addOnward (tally : Tally) (sequences : List CharSet.ByteSequence) : Tally :=
  let goal := tally.states
  let (path, memory, tally) := sequences.foldl (fun (path, memory, tally) sequence =>
    let shared := sharedCount sequence path
    let (path, _, memory, tally) := layOutPath goal memory tally (shared + 1) path
    (Path.extend (sequence.drop shared) path, memory, tally))
    (([⟨[], none⟩], {}, tally.add 1 0) : Path × Memory × Tally)
  (layOutPath goal memory tally 0 path).2.2.2

/-! ### Backward -/

/-- The tally with one character out of a set, backward: a state that jumps to the last byte of each
sequence, the state in front of the character, and the steps between. -/
def Tally.addBackward (tally : Tally) (sequences : List CharSet.ByteSequence) : Tally :=
  let goal := tally.states + 1
  (sequences.foldl (fun (memory, tally) sequence =>
    let (_, memory, tally) := sequence.foldl (fun (target, memory, tally) (first, last) =>
      let step : Step := ⟨first, last, target⟩
      layOut (placeOfStep step) 0 [step] memory tally)
      ((goal, memory, tally) : Nat × Memory × Tally)
    (memory, tally.add 0 jumpSize)) (({}, tally.add 2 0) : Memory × Tally)).2

end Rulebook.Pattern
