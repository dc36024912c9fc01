/-
This file gives a pattern its meaning: an expression over sets of characters, in which flags are
resolved and classes are computed. Flags set inside a group hold up to the end of the group, also
in its later branches.
-/
import Rulebook.Pattern.Reader
import Rulebook.Pattern.ClassName
import Rulebook.Pattern.Expr
import Rulebook.CharSet.Folding

namespace Rulebook.Pattern

/-- The switches in force at a place of a pattern. -/
structure Flags where
  ignoreCase : Bool := false
  multiLine : Bool := false
  dotNewline : Bool := false
  swapGreed : Bool := false
  unicode : Bool := true
  carriageReturn : Bool := false

/-- The switches after some marks. -/
def Flags.apply (flags : Flags) (marks : List FlagMark) : Flags where
  ignoreCase := (flagState? .ignoreCase marks).getD flags.ignoreCase
  multiLine := (flagState? .multiLine marks).getD flags.multiLine
  dotNewline := (flagState? .dotNewline marks).getD flags.dotNewline
  swapGreed := (flagState? .swapGreed marks).getD flags.swapGreed
  unicode := (flagState? .unicode marks).getD flags.unicode
  carriageReturn := (flagState? .carriageReturn marks).getD flags.carriageReturn

/-! ### Computing classes -/

/-- The set with the ASCII letters of the other case. -/
def ignoringAsciiCase (set : CharSet) : CharSet :=
  let letters := (List.range 26).flatMap fun index =>
    let upper := 65 + index
    let lower := 97 + index
    if set.containsCode upper || set.containsCode lower then [(upper, upper), (lower, lower)]
    else []
  set.union (CharSet.ofRanges letters)

/-- The set with case ignored, if the flags say so. -/
def fold (flags : Flags) (set : CharSet) : CharSet :=
  if !flags.ignoreCase then set
  else if flags.unicode then set.ignoringCase
  else ignoringAsciiCase set

/-- The set, or what is left of all characters. Without Unicode what is left holds single bytes,
which are not text. -/
def negate (flags : Flags) (negated : Bool) (set : CharSet) : Except PatternFault CharSet :=
  if !negated then return set
  else if flags.unicode then return set.complement
  else throw .notText

/-- The character of a literal in a class. -/
def classLiteral (flags : Flags) (literal : Literal) : Except PatternFault Char :=
  if flags.unicode || literal.character.toNat < 128 then return literal.character
  else if literal.byte then throw .notText
  else throw .unicodeRequired

/-- The set of a Unicode class. Case is ignored first; then a negated query of what differs asks for
the class itself. -/
def querySet (flags : Flags) (query : UnicodeQuery) (negated : Bool) :
    Except PatternFault CharSet :=
  if !flags.unicode then throw .unicodeRequired
  else
    match query.class? with
    | none => throw .classUnknown
    | some set => negate flags (negated != query.differs) (fold flags set)

/-- The set of an operation on two sets. -/
def operate (kind : ClassOperation) (left right : CharSet) : CharSet :=
  match kind with
  | .intersection => left.intersection right
  | .difference => left.difference right
  | .symmetricDifference => left.symmetricDifference right

mutual

/-- The set that the content of a class describes. -/
def ClassTree.set (flags : Flags) : ClassTree → Except PatternFault CharSet
  | .literal written => do return CharSet.singleton (← classLiteral flags written)
  | .range first last => do
    let first ← classLiteral flags first
    let last ← classLiteral flags last
    return ⟨[(first.toNat, last.toNat)]⟩
  | .ascii name negated => negate flags negated (fold flags (asciiClass name))
  | .letter kind negated => negate flags negated (letterClass flags.unicode kind)
  | .unicode query negated => querySet flags query negated
  | .bracketed negated content => do negate flags negated (fold flags (← content.set flags))
  | .union items => ClassTree.unionSet flags items
  | .operation kind left right => do
    let left ← left.set flags
    let right ← right.set flags
    return operate kind (fold flags left) (fold flags right)

/-- The union of the sets of some members. -/
def ClassTree.unionSet (flags : Flags) : List ClassTree → Except PatternFault CharSet
  | [] => return CharSet.empty
  | item :: rest => do
    let set ← item.set flags
    return set.union (← ClassTree.unionSet flags rest)

end

/-! ### Computing expressions -/

/-- The expression of a literal. With case ignored it is a class if it has another case. -/
def literalExpr (flags : Flags) (literal : Literal) : Except PatternFault Expr :=
  if !flags.unicode && literal.byte && 128 ≤ literal.character.toNat then throw .notText
  else return Expr.ofSet flags.unicode (fold flags (CharSet.singleton literal.character))

/-- The expression of the point: any character, but no line end unless the flags say so. -/
def dotExpr (flags : Flags) : Except PatternFault Expr :=
  if !flags.unicode then throw .notText
  else if flags.dotNewline then return Expr.ofSet true CharSet.all
  else if flags.carriageReturn then
    return Expr.ofSet true (CharSet.mk [(10, 10), (13, 13)]).complement
  else return Expr.ofSet true (CharSet.mk [(10, 10)]).complement

/-- The condition of an assertion. -/
def lookOf (flags : Flags) : Assertion → Look
  | .startLine => if flags.multiLine then .lineStart flags.carriageReturn else .textStart
  | .endLine => if flags.multiLine then .lineEnd flags.carriageReturn else .textEnd
  | .startText => .textStart
  | .endText => .textEnd
  | .boundary => .boundary flags.unicode
  | .notBoundary => .notBoundary flags.unicode
  | .boundaryStart => .wordStart flags.unicode
  | .boundaryEnd => .wordEnd flags.unicode
  | .boundaryStartHalf => .wordStartHalf flags.unicode
  | .boundaryEndHalf => .wordEndHalf flags.unicode

mutual

/-- The expression of a part, and the flags in force behind it. -/
def Tree.expr (flags : Flags) : Tree → Except PatternFault (Expr × Flags)
  | .empty => return (.empty, flags)
  | .flags marks => return (.empty, flags.apply marks)
  | .literal written => do return (← literalExpr flags written, flags)
  | .dot => do return (← dotExpr flags, flags)
  | .assertion written => return (.look (lookOf flags written), flags)
  | .letter kind negated => do
    let set ← negate flags negated (letterClass flags.unicode kind)
    return (Expr.ofSet flags.unicode set, flags)
  | .unicode query negated => do
    return (Expr.ofSet flags.unicode (← querySet flags query negated), flags)
  | .bracketed negated content => do
    let set ← negate flags negated (fold flags (← content.set flags))
    return (Expr.ofSet flags.unicode set, flags)
  | .repetition least most reluctant body => do
    let (body, after) ← body.expr flags
    return (Expr.repeated least most (reluctant == flags.swapGreed) body, after)
  | .group captures marks body => do
    let (body, _) ← body.expr (flags.apply marks)
    return (if captures then .capture body else body, flags)
  | .alternation branches => do
    let (branches, flags) ← Tree.exprs flags branches
    return (Expr.ofBranches branches, flags)
  | .sequence items => do
    let (items, flags) ← Tree.exprs flags items
    return (Expr.ofItems items, flags)

/-- The expressions of parts in the order of the text. -/
def Tree.exprs (flags : Flags) : List Tree → Except PatternFault (List Expr × Flags)
  | [] => return ([], flags)
  | item :: rest => do
    let (expr, flags) ← item.expr flags
    let (exprs, flags) ← Tree.exprs flags rest
    return (expr :: exprs, flags)

end

/-- The expression of a pattern. -/
def Expr.ofText? (text : String) : Except PatternFault Expr := do
  let tree ← Tree.ofText? text
  let (expr, _) ← tree.expr {}
  return expr

end Rulebook.Pattern
