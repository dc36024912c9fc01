/-
This file holds the structure of a pattern as it is written: literals, classes, assertions,
repetitions, groups with their flags, and what can be wrong with a pattern.
-/

namespace Rulebook

/-- Why a text is not a pattern. -/
inductive PatternFault where
  | groupUnclosed
  | groupUnopened
  | groupName
  | groupNameRepeated
  | lookAround
  | repetitionMissing
  | countUnclosed
  | countInvalid
  | flagUnknown
  | flagRepeated
  | flagDangling
  | flagsUnclosed
  | escapeUnknown
  | escapeUnfinished
  | escapeInvalidCode
  | backReference
  | boundaryUnknown
  | classUnclosed
  | classRangeReversed
  | classMember
  | classUnknown
  | unicodeRequired
  | notText
  | nestedTooDeep
  | programTooLarge
  deriving DecidableEq, Repr

/-- The words for a fault. -/
def PatternFault.message : PatternFault → String
  | .groupUnclosed => "unclosed group"
  | .groupUnopened => "unopened group"
  | .groupName => "invalid group name"
  | .groupNameRepeated => "duplicate group name"
  | .lookAround => "look-around is not supported"
  | .repetitionMissing => "repetition operator missing expression"
  | .countUnclosed => "unclosed counted repetition"
  | .countInvalid => "invalid repetition count"
  | .flagUnknown => "unrecognized flag"
  | .flagRepeated => "duplicate flag"
  | .flagDangling => "dangling flag negation operator"
  | .flagsUnclosed => "expected flag but got end of pattern"
  | .escapeUnknown => "unrecognized escape sequence"
  | .escapeUnfinished => "incomplete escape sequence"
  | .escapeInvalidCode => "escape sequence is not a character"
  | .backReference => "backreferences are not supported"
  | .boundaryUnknown => "unrecognized word boundary"
  | .classUnclosed => "unclosed character class"
  | .classRangeReversed => "invalid character class range, the start must be <= the end"
  | .classMember => "invalid member of a character class"
  | .classUnknown => "Unicode property not found"
  | .unicodeRequired => "Unicode not allowed here"
  | .notText => "pattern can match invalid UTF-8"
  | .nestedTooDeep => "exceeds the nesting limit"
  | .programTooLarge => "compiled pattern exceeds the size limit"

namespace Pattern

/-- A switch that changes how the rest of a group is read. -/
inductive Flag where
  | ignoreCase
  | multiLine
  | dotNewline
  | swapGreed
  | unicode
  | carriageReturn
  | verbose
  deriving DecidableEq

/-- One mark in a list of flags: a flag, or the sign that turns the following ones off. -/
inductive FlagMark where
  | flag (flag : Flag)
  | off
  deriving DecidableEq

/-- What the last mark about a flag says, if there is one. -/
def flagState? (wanted : Flag) (marks : List FlagMark) : Option Bool :=
  (marks.foldl (fun (negated, found) mark =>
    match mark with
    | .off => (true, found)
    | .flag flag => (negated, if flag = wanted then some !negated else found))
    ((false, none) : Bool × Option Bool)).2

/-- A condition on a position between two characters. -/
inductive Assertion where
  | startLine
  | endLine
  | startText
  | endText
  | boundary
  | notBoundary
  | boundaryStart
  | boundaryEnd
  | boundaryStartHalf
  | boundaryEndHalf
  deriving DecidableEq

/-- The classes with a one-letter escape. -/
inductive LetterClass where
  | digit
  | space
  | word
  deriving DecidableEq

/-- How a Unicode class is asked for. -/
inductive UnicodeQuery where
  | named (name : String)
  | valued (differs : Bool) (name value : String)
  deriving DecidableEq

/-- The operations on classes. -/
inductive ClassOperation where
  | intersection
  | difference
  | symmetricDifference
  deriving DecidableEq

/-- A literal character; `byte` if it was written as a byte with two hexadecimal digits. -/
structure Literal where
  character : Char
  byte : Bool
  deriving DecidableEq

/-- What stands in a bracketed class. -/
inductive ClassTree where
  | literal (literal : Literal)
  | range (first last : Literal)
  | ascii (name : String) (negated : Bool)
  | letter (kind : LetterClass) (negated : Bool)
  | unicode (query : UnicodeQuery) (negated : Bool)
  | bracketed (negated : Bool) (content : ClassTree)
  | union (items : List ClassTree)
  | operation (kind : ClassOperation) (left right : ClassTree)
  deriving Inhabited

/-- A pattern as it is written. -/
inductive Tree where
  | empty
  | flags (marks : List FlagMark)
  | literal (literal : Literal)
  | dot
  | assertion (assertion : Assertion)
  | letter (kind : LetterClass) (negated : Bool)
  | unicode (query : UnicodeQuery) (negated : Bool)
  | bracketed (negated : Bool) (content : ClassTree)
  | repetition (least : Nat) (most : Option Nat) (reluctant : Bool) (body : Tree)
  | group (captures : Bool) (marks : List FlagMark) (body : Tree)
  | alternation (branches : List Tree)
  | sequence (items : List Tree)
  deriving Inhabited

/-! ### Nesting -/

/-- How deep a pattern may nest. -/
def nestingLimit : Nat := 250

mutual

/-- How deep the parts of a class nest. -/
def ClassTree.depth : ClassTree → Nat
  | .bracketed _ content => content.depth + 1
  | .union [] => 0
  | .union items => ClassTree.itemsDepth items + 1
  | .operation _ left right => max left.depth right.depth + 1
  | _ => 0

/-- The greatest depth among the items of a class. -/
def ClassTree.itemsDepth : List ClassTree → Nat
  | [] => 0
  | item :: rest => max item.depth (ClassTree.itemsDepth rest)

end

mutual

/-- How deep the parts of a pattern nest. -/
def Tree.depth : Tree → Nat
  | .bracketed _ content => content.depth + 1
  | .repetition _ _ _ body => body.depth + 1
  | .group _ _ body => body.depth + 1
  | .alternation branches => Tree.itemsDepth branches + 1
  | .sequence items => Tree.itemsDepth items + 1
  | _ => 0

/-- The greatest depth among several parts. -/
def Tree.itemsDepth : List Tree → Nat
  | [] => 0
  | item :: rest => max item.depth (Tree.itemsDepth rest)

end

end Pattern

end Rulebook
