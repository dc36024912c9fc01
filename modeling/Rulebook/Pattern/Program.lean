/-
This file runs patterns. An expression becomes a program of small instructions, and a text is
tried by walking it once with the set of all instructions that can be reached, so the time is
proportional to the length of the text and to the size of the program.
-/
import Rulebook.Pattern.ClassName
import Rulebook.Pattern.Expr

namespace Rulebook.Pattern

/-- One instruction. Targets are positions in the program. -/
inductive Instruction where
  | character (set : CharSet) (target : Nat)
  | look (look : Look) (target : Nat)
  | fork (first second : Nat)
  | done

/-- A program; matching starts at `start`. -/
structure Program where
  instructions : Array Instruction
  start : Nat

/-! ### Building -/

/-- The code built so far and the position to enter it. -/
abbrev Code := Array Instruction × Nat

/-- The code with an instruction in front. -/
def Code.push (code : Code) (instruction : Instruction) : Code :=
  let position := code.1.size
  (code.1.push instruction, position)

/-- The code with `more` copies of a part in front. -/
def Code.repeated (build : Code → Code) : Nat → Code → Code
  | 0, code => code
  | more + 1, code => Code.repeated build more (build code)

/-- The code with `more` copies in front, each of which may be left out with all that follow. -/
def Code.optional (build : Code → Code) (exit : Nat) : Nat → Code → Code
  | 0, code => code
  | more + 1, code =>
    let inner := build code
    let first := inner.2
    Code.optional build exit more (inner.push (.fork first exit))

/-- The code with any number of copies of a part in front. -/
def Code.starred (build : Code → Code) (code : Code) : Code :=
  let entry := code.1.size
  let exit := code.2
  let inner := build (code.1.push .done, entry)
  let again := inner.2
  (inner.1.setIfInBounds entry (.fork again exit), entry)

/-- The code that matches the characters of a text. -/
def Code.spell (text : List Char) (code : Code) : Code :=
  text.foldr (fun character code =>
    let target := code.2
    code.push (.character (CharSet.singleton character) target)) code

mutual

/-- The code that matches an expression and goes on with other code. -/
def Expr.code : Expr → Code → Code
  | .empty, code => code
  | .literal text, code => Code.spell text code
  | .set _ members, code => code.push (.character members code.2)
  | .look condition, code => code.push (.look condition code.2)
  | .sequence items, code => Expr.sequenceCode items code
  | .alternation branches, code => Expr.branchesCode branches code.2 code
  | .repetition least none _ body, code =>
    Code.repeated body.code least (Code.starred body.code code)
  | .repetition least (some most) _ body, code =>
    Code.repeated body.code least (Code.optional body.code code.2 (most - least) code)
  | .capture body, code => body.code code

/-- The code that matches expressions one after the other. -/
def Expr.sequenceCode : List Expr → Code → Code
  | [], code => code
  | [item], code => item.code code
  | item :: rest, code => item.code (Expr.sequenceCode rest code)

/-- The code that matches one of some branches and goes on at `exit`. -/
def Expr.branchesCode : List Expr → Nat → Code → Code
  | [], _, code => code.push (.character CharSet.empty 0)
  | [branch], exit, code => branch.code (code.1, exit)
  | branch :: rest, exit, code =>
    let others := Expr.branchesCode rest exit code
    let second := others.2
    let inner := branch.code (others.1, exit)
    let first := inner.2
    inner.push (.fork first second)

end

/-- The program of an expression. -/
def Expr.program (expr : Expr) : Program :=
  let code := expr.code (#[.done], 0)
  ⟨code.1, code.2⟩

/-! ### Running -/

/-- Whether a character belongs to words. -/
def isWord (unicode : Bool) (character : Option Char) : Bool :=
  match character with
  | some character =>
    (if unicode then wordCharacters else asciiWordCharacters).contains character
  | none => false

/-- Whether a condition holds between two characters; none stands for the end of the text. -/
def Look.holds (before after : Option Char) : Look → Bool
  | .textStart => before.isNone
  | .textEnd => after.isNone
  | .lineStart false => before.isNone || before == some '\n'
  | .lineEnd false => after.isNone || after == some '\n'
  | .lineStart true =>
    before.isNone || before == some '\n' || (before == some '\r' && after != some '\n')
  | .lineEnd true =>
    after.isNone || after == some '\r' || (after == some '\n' && before != some '\r')
  | .boundary unicode => isWord unicode before != isWord unicode after
  | .notBoundary unicode => isWord unicode before == isWord unicode after
  | .wordStart unicode => !isWord unicode before && isWord unicode after
  | .wordEnd unicode => isWord unicode before && !isWord unicode after
  | .wordStartHalf unicode => !isWord unicode before
  | .wordEndHalf unicode => !isWord unicode after

/-- What is reached at a position of the text: the instructions that wait for a character, and
whether the program is done. -/
structure Reached where
  waiting : List (CharSet × Nat)
  done : Bool
  seen : Array Bool

/-- Follows everything that can be reached without a character. Each instruction is entered once
and adds at most two positions, so the fuel bounds the rounds. -/
def Program.follow (program : Program) (before after : Option Char) :
    Nat → List Nat → Reached → Reached
  | 0, _, reached => reached
  | _ + 1, [], reached => reached
  | fuel + 1, position :: rest, reached =>
    if reached.seen.getD position true then program.follow before after fuel rest reached
    else
      let reached := { reached with seen := reached.seen.setIfInBounds position true }
      match program.instructions[position]? with
      | none => program.follow before after fuel rest reached
      | some (.character set target) =>
        program.follow before after fuel rest
          { reached with waiting := (set, target) :: reached.waiting }
      | some (.look look target) =>
        program.follow before after fuel
          (if look.holds before after then target :: rest else rest) reached
      | some (.fork first second) =>
        program.follow before after fuel (first :: second :: rest) reached
      | some .done => program.follow before after fuel rest { reached with done := true }

/-- What is reached from some positions. -/
def Program.reach (program : Program) (before after : Option Char) (positions : List Nat) :
    Reached :=
  let size := program.instructions.size
  program.follow before after (3 * size + positions.length + 1) positions
    ⟨[], false, Array.replicate size false⟩

/-- Whether a match ends somewhere in the text, when these positions are entered; a match may also
start at every later place. -/
def Program.matchesFrom (program : Program) (before : Option Char) (positions : List Nat) :
    List Char → Bool
  | [] => (program.reach before none (positions ++ [program.start])).done
  | character :: rest =>
    let reached := program.reach before (some character) (positions ++ [program.start])
    reached.done || program.matchesFrom (some character)
      (reached.waiting.filterMap fun (set, target) =>
        if set.contains character then some target else none) rest

end Rulebook.Pattern
