/-
This file holds expressions: what a pattern matches, built from texts, sets of characters and
conditions on a position. An expression is built in a normal form, so that two ways to write the
same thing are often one expression: texts in a row are one text, a set of one character is a text,
branches that are characters are one set, and what all branches start with stands in front of them.
-/
import Rulebook.CharSet

namespace Rulebook.Pattern

/-- A condition on a position, with its flags resolved. -/
inductive Look where
  | textStart
  | textEnd
  | lineStart (carriageReturn : Bool)
  | lineEnd (carriageReturn : Bool)
  | boundary (unicode : Bool)
  | notBoundary (unicode : Bool)
  | wordStart (unicode : Bool)
  | wordEnd (unicode : Bool)
  | wordStartHalf (unicode : Bool)
  | wordEndHalf (unicode : Bool)
  deriving DecidableEq

/-- What a pattern matches. A text is never empty, a sequence has at least two items and an
alternation at least two branches. A set of characters may stand for single bytes only. -/
inductive Expr where
  | empty
  | literal (text : List Char)
  | set (unicode : Bool) (members : CharSet)
  | look (look : Look)
  | sequence (items : List Expr)
  | alternation (branches : List Expr)
  | repetition (least : Nat) (most : Option Nat) (greedy : Bool) (body : Expr)
  | capture (body : Expr)
  deriving Inhabited

/-! ### Lengths -/

/-- The bytes of a text. -/
def byteLength (text : List Char) : Nat :=
  text.foldl (fun length character => length + character.utf8Size) 0

mutual

/-- The number of bytes that a match has at least, if the expression can match at all. -/
def Expr.leastLength? : Expr → Option Nat
  | .empty => some 0
  | .look _ => some 0
  | .literal text => some (byteLength text)
  | .set _ members => members.ranges.head?.map fun range => (Char.ofNat range.1).utf8Size
  | .sequence items => Expr.leastSum? items
  | .alternation branches => Expr.leastOfAll? branches
  | .repetition least _ _ body => body.leastLength?.map (least * ·)
  | .capture body => body.leastLength?

/-- The least lengths of some expressions taken together. -/
def Expr.leastSum? : List Expr → Option Nat
  | [] => some 0
  | item :: rest => do return (← item.leastLength?) + (← Expr.leastSum? rest)

/-- The least of the least lengths of some expressions. -/
def Expr.leastOfAll? : List Expr → Option Nat
  | [] => none
  | [item] => item.leastLength?
  | item :: rest => do return min (← item.leastLength?) (← Expr.leastOfAll? rest)

end

mutual

/-- Whether only the empty text can match, whatever the conditions on the position. -/
def Expr.isAlwaysEmpty : Expr → Bool
  | .empty => true
  | .look _ => true
  | .literal _ => false
  | .set _ _ => false
  | .sequence items => Expr.areAlwaysEmpty items
  | .alternation branches => Expr.areAlwaysEmpty branches
  | .repetition _ most _ body => most.isSome && body.isAlwaysEmpty
  | .capture body => body.isAlwaysEmpty

/-- Whether only the empty text can match each of some expressions. -/
def Expr.areAlwaysEmpty : List Expr → Bool
  | [] => true
  | item :: rest => item.isAlwaysEmpty && Expr.areAlwaysEmpty rest

end

/-! ### Conditions at the ends -/

mutual

/-- Whether every match starts where a condition holds, as far as the form of the expression
shows it. -/
def Expr.startsAt (condition : Look) : Expr → Bool
  | .look found => found = condition
  | .sequence items => Expr.someStartAt condition items
  | .alternation branches => Expr.allStartAt condition branches
  | .repetition least _ _ body => 0 < least && body.startsAt condition
  | .capture body => body.startsAt condition
  | _ => false

/-- Whether one of the items up to the first one that is not always empty starts there. -/
def Expr.someStartAt (condition : Look) : List Expr → Bool
  | [] => false
  | item :: rest =>
    item.startsAt condition || (item.isAlwaysEmpty && Expr.someStartAt condition rest)

/-- Whether all branches start there. -/
def Expr.allStartAt (condition : Look) : List Expr → Bool
  | [] => true
  | branch :: rest => branch.startsAt condition && Expr.allStartAt condition rest

end

mutual

/-- Whether every match ends where a condition holds, as far as the form of the expression shows
it. -/
def Expr.endsAt (condition : Look) : Expr → Bool
  | .look found => found = condition
  | .sequence items => Expr.someEndAt condition items
  | .alternation branches => Expr.allEndAt condition branches
  | .repetition least _ _ body => 0 < least && body.endsAt condition
  | .capture body => body.endsAt condition
  | _ => false

/-- Whether one of the items from the last one that is not always empty on ends there. -/
def Expr.someEndAt (condition : Look) : List Expr → Bool
  | [] => false
  | item :: rest =>
    Expr.someEndAt condition rest || (Expr.areAlwaysEmpty rest && item.endsAt condition)

/-- Whether all branches end there. -/
def Expr.allEndAt (condition : Look) : List Expr → Bool
  | [] => true
  | branch :: rest => branch.endsAt condition && Expr.allEndAt condition rest

end

/-! ### Expressions that are alike -/

mutual

/-- Whether two expressions are the same. Two groups that capture are different, since each one
has a number of its own. -/
def Expr.isSame : Expr → Expr → Bool
  | .empty, .empty => true
  | .literal left, .literal right => left = right
  | .set leftUnicode left, .set rightUnicode right => leftUnicode = rightUnicode && left = right
  | .look left, .look right => left = right
  | .sequence left, .sequence right => Expr.areSame left right
  | .alternation left, .alternation right => Expr.areSame left right
  | .repetition least most greedy left, .repetition otherLeast otherMost otherGreedy right =>
    least = otherLeast && most = otherMost && greedy = otherGreedy && left.isSame right
  | _, _ => false

/-- Whether two lists hold the same expressions. -/
def Expr.areSame : List Expr → List Expr → Bool
  | [], [] => true
  | left :: lefts, right :: rights => left.isSame right && Expr.areSame lefts rights
  | _, _ => false

end

/-- How many expressions two lists have in common at their fronts. -/
def Expr.commonCount : List Expr → List Expr → Nat
  | left :: lefts, right :: rights =>
    if left.isSame right then Expr.commonCount lefts rights + 1 else 0
  | _, _ => 0

mutual

/-- The number of parts of an expression. -/
def Expr.partCount : Expr → Nat
  | .sequence items => Expr.partsCount items + 1
  | .alternation branches => Expr.partsCount branches + 1
  | .repetition _ _ _ body => body.partCount + 1
  | .capture body => body.partCount + 1
  | _ => 1

/-- The number of parts of some expressions. -/
def Expr.partsCount : List Expr → Nat
  | [] => 0
  | item :: rest => item.partCount + Expr.partsCount rest

end

/-! ### Building expressions -/

/-- One character out of a set: a text if there is only one. -/
def Expr.ofSet (unicode : Bool) (members : CharSet) : Expr :=
  match members.ranges with
  | [] => .set false CharSet.empty
  | [(first, last)] => if first = last then .literal [Char.ofNat first] else .set unicode members
  | _ => .set unicode members

/-- Some expressions with texts in a row joined. -/
def Expr.joinLiterals : List Expr → List Expr
  | [] => []
  | .literal text :: rest =>
    match Expr.joinLiterals rest with
    | .literal more :: others => .literal (text ++ more) :: others
    | others => .literal text :: others
  | item :: rest => item :: Expr.joinLiterals rest

/-- Some expressions one after the other, without those that are empty. Items of an item are
items. -/
def Expr.ofItems (items : List Expr) : Expr :=
  let flat := items.flatMap fun item =>
    match item with
    | .empty => []
    | .sequence inner => inner
    | _ => [item]
  match Expr.joinLiterals flat with
  | [] => .empty
  | [item] => item
  | joined => .sequence joined

/-- The characters of expressions that are all texts of one character. -/
def Expr.characters? (branches : List Expr) : Option (List Char) :=
  branches.mapM fun branch =>
    match branch with
    | .literal [character] => some character
    | _ => none

/-- The sets of expressions that are all sets. -/
def Expr.sets? (branches : List Expr) : Option (List CharSet) :=
  branches.mapM fun branch =>
    match branch with
    | .set _ members => some members
    | _ => none

/-- The items of expressions that are all sequences. -/
def Expr.sequences? (branches : List Expr) : Option (List (List Expr)) :=
  branches.mapM fun branch =>
    match branch with
    | .sequence items => some items
    | _ => none

/-- What all of some lists start with, and how many expressions that are. -/
def Expr.commonFront : List (List Expr) → List Expr
  | [] => []
  | first :: others =>
    others.foldl (fun front items => front.take (Expr.commonCount front items)) first

/-- One of some expressions. What all branches have in common at their fronts stands in front of
them only once. The fuel is used up by one for each time that this is done. -/
def Expr.branchesOf (fuel : Nat) (branches : List Expr) : Expr :=
  let flat := branches.flatMap fun branch =>
    match branch with
    | .alternation inner => inner
    | _ => [branch]
  match flat with
  | [] => .set false CharSet.empty
  | [branch] => branch
  | _ =>
    match Expr.characters? flat with
    | some characters =>
      .ofSet true (CharSet.ofRanges (characters.map fun character =>
        (character.toNat, character.toNat)))
    | none =>
      match Expr.sets? flat with
      | some sets => .ofSet true (sets.foldl CharSet.union CharSet.empty)
      | none =>
        match fuel, Expr.sequences? flat with
        | fuel + 1, some sequences =>
          match Expr.commonFront sequences with
          | [] => .alternation flat
          | front =>
            let others := sequences.map fun items => Expr.ofItems (items.drop front.length)
            Expr.ofItems (front ++ [Expr.branchesOf fuel others])
        | _, _ => .alternation flat

/-- One of some expressions. Branches of a branch are branches, and branches that are all characters
or all sets are one set. -/
def Expr.ofBranches (branches : List Expr) : Expr :=
  Expr.branchesOf (Expr.partsCount branches) branches

/-- A repetition. Nothing is gained by repeating what only matches the empty text. -/
def Expr.repeated (least : Nat) (most : Option Nat) (greedy : Bool) (body : Expr) : Expr :=
  let (least, most) :=
    if body.isAlwaysEmpty then (min least 1, some (min (most.getD 1) 1)) else (least, most)
  if most = some 0 then .empty
  else if least = 1 ∧ most = some 1 then body
  else .repetition least most greedy body

end Rulebook.Pattern
