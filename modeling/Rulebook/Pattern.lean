/-
This file holds patterns: regular expressions without look-around and back-references, over the
characters of a text. A text matches a pattern if a part of it does.
-/
import Rulebook.Pattern.Meaning
import Rulebook.Pattern.Program
import Rulebook.Pattern.Size

namespace Rulebook

/-- A pattern that is ready to run. -/
structure Pattern where
  program : Pattern.Program

namespace Pattern

/-- The pattern that a text describes, if it is not too large. -/
def ofText? (text : String) : Except PatternFault Pattern := do
  let expr ← Expr.ofText? text
  if expr.fits then return ⟨expr.program⟩ else throw .programTooLarge

/-- Whether a part of the text matches. -/
def isMatch (pattern : Pattern) (text : String) : Bool :=
  pattern.program.matchesFrom none [] text.toList

end Pattern

end Rulebook
