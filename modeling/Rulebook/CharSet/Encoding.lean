/-
This file says how the characters of a set are written in bytes: as sequences of byte ranges, such
that a character is in the set if and only if its UTF-8 encoding follows one of the sequences. The
sequences are in increasing order and none is the start of another.
-/
import Rulebook.CharSet

namespace Rulebook.CharSet

/-- Byte ranges, one after the other. -/
abbrev ByteSequence := List (Nat × Nat)

/-- The numbers from `first` to `last` as sequences of digit ranges: a leading digit of any size
and so many digits to the base 64 after it. A part of the range that does not fill the digits below
its leading digit stands alone. -/
def digitSequences : Nat → Nat → Nat → List ByteSequence
  | 0, first, last => [[(first, last)]]
  | digits + 1, first, last =>
    let unit := Nat.pow 64 (digits + 1)
    let low := first / unit
    let high := last / unit
    if low = high then
      (digitSequences digits (first % unit) (last % unit)).map ((low, low) :: ·)
    else
      let wholeLow := first % unit = 0
      let wholeHigh := last % unit = unit - 1
      let below := if wholeLow then [] else
        (digitSequences digits (first % unit) (unit - 1)).map ((low, low) :: ·)
      let above := if wholeHigh then [] else
        (digitSequences digits 0 (last % unit)).map ((high, high) :: ·)
      let lowest := if wholeLow then low else low + 1
      let highest := if wholeHigh then high else high - 1
      let between := if highest < lowest then [] else
        [(lowest, highest) :: List.replicate (digits + 1) (0, 63)]
      below ++ between ++ above

/-- A kind of encoding: the codes that have it, how many bytes follow the first one, and what the
first byte adds to its digit. -/
structure EncodingKind where
  first : Nat
  last : Nat
  following : Nat
  mark : Nat

/-- The kinds of encodings. No character has a code from 0xD800 to 0xDFFF. -/
def encodingKinds : List EncodingKind :=
  [⟨0x0, 0x7F, 0, 0x0⟩, ⟨0x80, 0x7FF, 1, 0xC0⟩, ⟨0x800, 0xD7FF, 2, 0xE0⟩,
    ⟨0xE000, 0xFFFF, 2, 0xE0⟩, ⟨0x10000, 0x10FFFF, 3, 0xF0⟩]

/-- The bytes of digits: the first one is marked with the kind, the others as following. -/
def EncodingKind.bytes (kind : EncodingKind) : ByteSequence → ByteSequence
  | [] => []
  | (first, last) :: rest =>
    (kind.mark + first, kind.mark + last) :: rest.map fun (first, last) => (128 + first, 128 + last)

/-- The encodings of one kind for the codes of a range. -/
def EncodingKind.sequences (kind : EncodingKind) (range : Nat × Nat) : List ByteSequence :=
  let first := max kind.first range.1
  let last := min kind.last range.2
  if last < first then [] else (digitSequences kind.following first last).map kind.bytes

/-- The encodings of the characters in a set. -/
def byteSequences (set : CharSet) : List ByteSequence :=
  set.ranges.flatMap fun range => encodingKinds.flatMap fun kind => kind.sequences range

end Rulebook.CharSet
