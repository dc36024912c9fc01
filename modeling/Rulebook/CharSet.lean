/-
This file holds sets of characters, as ranges of codes. The ranges of a set are kept in increasing
order, apart from each other, so that a set has one form and membership is found by one walk.
-/

namespace Rulebook

/-- A set of characters: the first and last code of each range, in increasing order. -/
structure CharSet where
  ranges : List (Nat × Nat)
  deriving DecidableEq, Inhabited

namespace CharSet

/-- The last code of a character. -/
def lastCode : Nat := 0x10FFFF

/-- Whether one of the ranges, in increasing order, holds a code. -/
def rangesContain (code : Nat) : List (Nat × Nat) → Bool
  | [] => false
  | (first, last) :: rest =>
    if code < first then false else if code ≤ last then true else rangesContain code rest

/-- Whether the set holds the character of a code. -/
def containsCode (set : CharSet) (code : Nat) : Bool := rangesContain code set.ranges

/-- Whether the set holds a character. -/
def contains (set : CharSet) (character : Char) : Bool := set.containsCode character.toNat

/-- A range and ranges behind it that are ordered by their first code, joined where they touch. -/
def joinBehind (range : Nat × Nat) : List (Nat × Nat) → List (Nat × Nat)
  | [] => [range]
  | next :: rest =>
    if next.1 ≤ range.2 + 1 then joinBehind (range.1, max range.2 next.2) rest
    else range :: joinBehind next rest

/-- Ranges ordered by their first code, joined where they touch. -/
def join : List (Nat × Nat) → List (Nat × Nat)
  | [] => []
  | range :: rest => joinBehind range rest

/-- The set of the characters in some ranges, in any order. -/
def ofRanges (ranges : List (Nat × Nat)) : CharSet :=
  ⟨join (ranges.mergeSort fun left right => left.1 ≤ right.1)⟩

/-- The set of one character. -/
def singleton (character : Char) : CharSet := ⟨[(character.toNat, character.toNat)]⟩

/-- The empty set. -/
def empty : CharSet := ⟨[]⟩

/-- All characters. -/
def all : CharSet := ⟨[(0, lastCode)]⟩

/-- The characters of one set or the other. -/
def union (left right : CharSet) : CharSet := ofRanges (left.ranges ++ right.ranges)

/-- The code behind a code. No character has a code from 0xD800 to 0xDFFF. -/
def codeAfter (code : Nat) : Nat := if code = 0xD7FF then 0xE000 else code + 1

/-- The code in front of a code. -/
def codeBefore (code : Nat) : Nat := if code = 0xE000 then 0xD7FF else code - 1

/-- The range with two ends, in any order. -/
def rangeOf (one other : Nat) : Nat × Nat := (min one other, max one other)

/-- The ranges behind a code that lie between ranges in increasing order. Two ranges that meet
at the codes without characters have nothing between them, and the range of both ends stands for
it. -/
def gapsBehind (last : Nat) : List (Nat × Nat) → List (Nat × Nat)
  | [] => if last < lastCode then [rangeOf (codeAfter last) lastCode] else []
  | (first, next) :: rest => rangeOf (codeAfter last) (codeBefore first) :: gapsBehind next rest

/-- The characters that are not in the set. -/
def complement (set : CharSet) : CharSet :=
  match set.ranges with
  | [] => all
  | (first, last) :: rest =>
    let front := if 0 < first then [rangeOf 0 (codeBefore first)] else []
    ⟨front ++ gapsBehind last rest⟩

/-- What two ranges have in common, if anything. -/
def commonRange? (left right : Nat × Nat) : Option (Nat × Nat) :=
  let first := max left.1 right.1
  let last := min left.2 right.2
  if first ≤ last then some (first, last) else none

/-- The characters of both sets. -/
def intersection (left right : CharSet) : CharSet :=
  ⟨left.ranges.flatMap fun range => right.ranges.filterMap (commonRange? range)⟩

/-- A range without the characters of some ranges in increasing order. -/
def remainder (range : Nat × Nat) : List (Nat × Nat) → List (Nat × Nat)
  | [] => [range]
  | (first, last) :: rest =>
    if last < range.1 then remainder range rest
    else if range.2 < first then [range]
    else
      let front := if range.1 < first then [rangeOf range.1 (codeBefore first)] else []
      let back := if last < range.2 then remainder (rangeOf (codeAfter last) range.2) rest else []
      front ++ back

/-- The characters of the first set that are not in the second. -/
def difference (left right : CharSet) : CharSet :=
  ⟨left.ranges.flatMap fun range => remainder range right.ranges⟩

/-- The characters of exactly one of the sets. -/
def symmetricDifference (left right : CharSet) : CharSet :=
  (left.union right).difference (left.intersection right)

/-- The codes below 128. -/
def ascii : CharSet := ⟨[(0, 127)]⟩

/-- Whether every member is an ASCII character. -/
def isAscii (set : CharSet) : Bool := set.ranges.all fun range => range.2 ≤ 127

/-! ### Reading tables -/

/-- The numbers of a table, separated by blanks. -/
def decodeNumbers (table : String) : List Nat :=
  let (numbers, last) := table.toList.foldl (fun (numbers, current) character =>
    if character.isDigit then
      (numbers, some (10 * current.getD 0 + (character.toNat - '0'.toNat)))
    else
      match current with
      | some number => (number :: numbers, none)
      | none => (numbers, none)) (([], none) : List Nat × Option Nat)
  (last.toList ++ numbers).reverse

/-- The ranges of a table that lists in turn how many codes to leave out and how many to take. -/
def rangesOfGaps (start : Nat) : List Nat → List (Nat × Nat)
  | gap :: count :: rest => (start + gap, start + gap + count - 1)
    :: rangesOfGaps (start + gap + count) rest
  | _ => []

/-- The set that a table of gaps and counts describes. -/
def decodeGaps (table : String) : CharSet := ⟨rangesOfGaps 0 (decodeNumbers table)⟩

/-- The runs of a table: a length in digits and a name in letters, again and again; blanks and
line ends are left out. -/
def decodeRuns (table : String) : List (Nat × String) :=
  let (runs, last) := table.toList.foldl (fun (runs, length, name) character =>
    if character.isDigit then
      let digit := character.toNat - '0'.toNat
      match name with
      | [] => (runs, 10 * length + digit, [])
      | letters => ((length, String.ofList letters.reverse) :: runs, digit, [])
    else if character.isWhitespace then (runs, length, name)
    else (runs, length, character :: name)) (([], 0, []) : List (Nat × String) × Nat × List Char)
  let (length, name) := last
  ((length, String.ofList name.reverse) :: runs).reverse

/-- The ranges of the runs whose name is wanted. -/
def rangesOfRuns (wanted : String → Bool) (start : Nat) :
    List (Nat × String) → List (Nat × Nat)
  | [] => []
  | (length, name) :: rest =>
    if wanted name then (start, start + length - 1) :: rangesOfRuns wanted (start + length) rest
    else rangesOfRuns wanted (start + length) rest

/-- The characters of the runs whose name is wanted. -/
def ofRuns (wanted : String → Bool) (runs : List (Nat × String)) : CharSet :=
  ⟨join (rangesOfRuns wanted 0 runs)⟩

end CharSet

end Rulebook
