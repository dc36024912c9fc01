/-
This file reads the text of a pattern into its structure. The reader walks the text once, from
left to right. In verbose mode blanks and comments between the parts are skipped. Loops are bounded
by a fuel computed from the length of the text, since every round takes a character.
-/
import Rulebook.Pattern.Tree
import Rulebook.Json.Document
import Rulebook.CharSet.Recent
import Rulebook.Text.Blank

namespace Rulebook.Pattern

/-- Where the reader stands: what is left, whether blanks are skipped, and the group names seen. -/
structure Cursor where
  rest : List Char
  verbose : Bool
  names : List String

/-- A step of reading. -/
abbrev Reader := StateT Cursor (Except PatternFault)

namespace Reader

/-! ### Moving -/

/-- What is left of a text behind blanks and comments. -/
def skipVerbose (inComment : Bool) : List Char → List Char
  | [] => []
  | character :: rest =>
    if inComment then skipVerbose (character != '\n') rest
    else if Text.isBlank character then skipVerbose false rest
    else if character == '#' then skipVerbose true rest
    else character :: rest

/-- What is left. -/
def left : Reader (List Char) := do return (← get).rest

/-- Goes on behind some characters. -/
def moveTo (rest : List Char) : Reader Unit := modify fun cursor => { cursor with rest }

/-- Blanks and comments in front of a text, in verbose mode, are left out. -/
def beyondSpace (characters : List Char) : Reader (List Char) := do
  return if (← get).verbose then skipVerbose false characters else characters

/-- Skips blanks and comments in verbose mode. -/
def skipSpace : Reader Unit := do moveTo (← beyondSpace (← left))

/-- Goes behind one character and the blanks after it; a fault if the text ends there. -/
def next (atEnd : PatternFault) : Reader Unit := do
  moveTo (← beyondSpace ((← left).drop 1))
  if (← left).isEmpty then throw atEnd

/-- Goes behind one character and the blanks after it. -/
def passOver : Reader Unit := do moveTo (← beyondSpace ((← left).drop 1))

/-! ### Numbers and codes -/

/-- Decimal digits with blanks around them; in verbose mode also between them. -/
def decimalDigits (done : List Char) : Nat → Reader (List Char)
  | 0 => return done.reverse
  | fuel + 1 => do
    match ← left with
    | character :: _ =>
      if character.isDigit then
        passOver
        decimalDigits (character :: done) fuel
      else return done.reverse
    | [] => return done.reverse

/-- A repetition count below `2 ^ 32`. -/
def count : Reader Nat := do
  moveTo ((← left).dropWhile Text.isBlank)
  let digits ← decimalDigits [] (← left).length
  moveTo ((← left).dropWhile Text.isBlank)
  if digits.isEmpty then throw .countInvalid
  let value := digitsValue digits
  if value < Nat.pow 2 32 then return value else throw .countInvalid

/-- The character of a code. -/
def characterOf (digits : List Char) : Reader Char := do
  match Document.hexValue? digits with
  | some code =>
    if code < 0xD800 ∨ (0xDFFF < code ∧ code ≤ 0x10FFFF) then return Char.ofNat code
    else throw .escapeInvalidCode
  | none => throw .escapeInvalidCode

/-- A fixed number of hexadecimal digits. -/
def fixedDigits (done : List Char) : Nat → Reader (List Char)
  | 0 => return done.reverse
  | more + 1 => do
    match ← left with
    | [] => throw .escapeUnfinished
    | character :: _ =>
      if (Document.hexDigit? character).isNone then throw .escapeInvalidCode
      passOver
      fixedDigits (character :: done) more

/-- Hexadecimal digits up to a closing brace. -/
def bracedDigits (done : List Char) : Nat → Reader (List Char)
  | 0 => throw .escapeUnfinished
  | fuel + 1 => do
    match ← left with
    | [] => throw .escapeUnfinished
    | '}' :: _ =>
      passOver
      return done.reverse
    | character :: _ =>
      if (Document.hexDigit? character).isNone then throw .escapeInvalidCode
      passOver
      bracedDigits (character :: done) fuel

/-- A character written by its code: `x`, `u` or `U`, then digits, fixed in number or in braces. -/
def codeLiteral (letter : Char) : Reader Literal := do
  next .escapeUnfinished
  match ← left with
  | '{' :: _ =>
    passOver
    let digits ← bracedDigits [] ((← left).length + 1)
    if digits.isEmpty then throw .escapeInvalidCode
    return ⟨← characterOf digits, false⟩
  | _ =>
    let digits ← fixedDigits [] (if letter = 'x' then 2 else if letter = 'u' then 4 else 8)
    return ⟨← characterOf digits, letter = 'x'⟩

/-! ### Escapes -/

/-- The characters with a meaning of their own. -/
def isMeta (character : Char) : Bool :=
  "\\.+*?()|[]\x7b\x7d^$#&-~".toList.contains character

/-- Whether a backslash may stand in front of a character without need. -/
def isEscapable (character : Char) : Bool :=
  isMeta character
    || (character.toNat < 128 && !character.isAlphanum && character != '<' && character != '>')

/-- The characters of a class name up to a closing brace. -/
def bracedName (done : List Char) : Nat → Reader (List Char)
  | 0 => throw .escapeUnfinished
  | fuel + 1 => do
    match ← left with
    | [] => throw .escapeUnfinished
    | '}' :: rest =>
      moveTo rest
      return done.reverse
    | character :: _ =>
      passOver
      bracedName (character :: done) fuel

/-- The texts in front of and behind the first place where a separator stands. -/
def splitAtFirst (separator : List Char) : List Char → Option (List Char × List Char)
  | [] => none
  | character :: rest =>
    if separator.isPrefixOf (character :: rest) then
      some ([], (character :: rest).drop separator.length)
    else (splitAtFirst separator rest).map fun (front, back) => (character :: front, back)

/-- What a class name asks for. -/
def queryOf (name : List Char) : UnicodeQuery :=
  match splitAtFirst ['!', '='] name with
  | some (front, back) => .valued true (String.ofList front) (String.ofList back)
  | none =>
    match splitAtFirst [':'] name with
    | some (front, back) => .valued false (String.ofList front) (String.ofList back)
    | none =>
      match splitAtFirst ['='] name with
      | some (front, back) => .valued false (String.ofList front) (String.ofList back)
      | none => .named (String.ofList name)

/-- A Unicode class behind `p` or `P`: one letter, or a name in braces. -/
def unicodeClass : Reader UnicodeQuery := do
  next .escapeUnfinished
  match ← left with
  | '{' :: _ =>
    passOver
    return queryOf (← bracedName [] ((← left).length + 1))
  | '\\' :: _ => throw .classUnknown
  | character :: _ =>
    passOver
    return .named (String.singleton character)
  | [] => throw .escapeUnfinished

/-- Letters and hyphens, with blanks between them in verbose mode. -/
def boundaryName (done : List Char) : Nat → Reader (List Char)
  | 0 => return done.reverse
  | fuel + 1 => do
    match ← left with
    | character :: _ =>
      if character.isAlpha || character == '-' then
        passOver
        boundaryName (character :: done) fuel
      else return done.reverse
    | [] => return done.reverse

/-- The boundary behind `\b`: a name in braces, or the plain one. Braces that hold no name are left
for a repetition. -/
def boundary : Reader Assertion := do
  match ← left with
  | '{' :: rest =>
    let inside ← beyondSpace rest
    match inside with
    | [] => throw .countUnclosed
    | character :: _ =>
      if character.isAlpha || character == '-' then
        moveTo inside
        let name ← boundaryName [] inside.length
        match ← left with
        | '}' :: rest => moveTo rest
        | _ => throw .boundaryUnknown
        match String.ofList name with
        | "start" => return .boundaryStart
        | "end" => return .boundaryEnd
        | "start-half" => return .boundaryStartHalf
        | "end-half" => return .boundaryEndHalf
        | _ => throw .boundaryUnknown
      else return .boundary
  | _ => return .boundary

/-- A part that starts with a backslash. -/
def escape : Reader Tree := do
  match ← left with
  | '\\' :: rest =>
    moveTo rest
    match rest with
    | [] => throw .escapeUnfinished
    | letter :: rest =>
      if letter.isDigit then throw .backReference
      else if letter = 'x' ∨ letter = 'u' ∨ letter = 'U' then
        return .literal (← codeLiteral letter)
      else if letter = 'p' ∨ letter = 'P' then
        return .unicode (← unicodeClass) (letter = 'P')
      else
        moveTo rest
        if isEscapable letter then return .literal ⟨letter, false⟩
        match letter with
        | 'd' => return .letter .digit false
        | 'D' => return .letter .digit true
        | 's' => return .letter .space false
        | 'S' => return .letter .space true
        | 'w' => return .letter .word false
        | 'W' => return .letter .word true
        | 'a' => return .literal ⟨'\x07', false⟩
        | 'f' => return .literal ⟨'\x0c', false⟩
        | 't' => return .literal ⟨'\t', false⟩
        | 'n' => return .literal ⟨'\n', false⟩
        | 'r' => return .literal ⟨'\r', false⟩
        | 'v' => return .literal ⟨'\x0b', false⟩
        | 'A' => return .assertion .startText
        | 'z' => return .assertion .endText
        | 'b' => return .assertion (← boundary)
        | 'B' => return .assertion .notBoundary
        | '<' => return .assertion .boundaryStart
        | '>' => return .assertion .boundaryEnd
        | _ => throw .escapeUnknown
  | _ => throw .escapeUnfinished

/-! ### Classes -/

/-- The names of the ASCII classes. -/
def asciiNames : List String :=
  ["alnum", "alpha", "ascii", "blank", "cntrl", "digit", "graph", "lower", "print", "punct",
    "space", "upper", "word", "xdigit"]

/-- An ASCII class such as `[:alpha:]` at the front: its name, whether it is negated, and what
follows. -/
def asciiClass? : List Char → Option (String × Bool × List Char)
  | '[' :: ':' :: rest =>
    let (negated, named) := match rest with
      | '^' :: rest => (true, rest)
      | _ => (false, rest)
    let name := String.ofList (named.takeWhile (· != ':'))
    match named.dropWhile (· != ':') with
    | ':' :: ']' :: rest => if asciiNames.contains name then some (name, negated, rest) else none
    | _ => none
  | _ => none

/-- One member of a class, as a part of a pattern. -/
def classPrimitive : Reader Tree := do
  match ← left with
  | '\\' :: _ => escape
  | character :: rest =>
    moveTo rest
    return .literal ⟨character, false⟩
  | [] => throw .classUnclosed

/-- A part of a pattern as a member of a class. -/
def memberOf : Tree → Reader ClassTree
  | .literal literal => return .literal literal
  | .letter kind negated => return .letter kind negated
  | .unicode query negated => return .unicode query negated
  | _ => throw .classMember

/-- A part of a pattern as the end of a range. -/
def endOf : Tree → Reader Literal
  | .literal literal => return literal
  | _ => throw .classMember

/-- A member of a class or a range of characters. A hyphen in front of a bracket or of another
hyphen makes no range. -/
def classRange : Reader ClassTree := do
  let first ← classPrimitive
  skipSpace
  match ← left with
  | [] => throw .classUnclosed
  | '-' :: rest =>
    match ← beyondSpace rest with
    | ']' :: _ => memberOf first
    | '-' :: _ => memberOf first
    | _ =>
      next .classUnclosed
      let second ← classPrimitive
      let firstEnd ← endOf first
      let lastEnd ← endOf second
      if firstEnd.character ≤ lastEnd.character then return .range firstEnd lastEnd
      else throw .classRangeReversed
  | _ => memberOf first

/-- Several members as one. -/
def unionOf : List ClassTree → ClassTree
  | [item] => item
  | items => .union items

/-- The operation that waits for its right side, applied. -/
def applyPending (pending : Option (ClassOperation × ClassTree)) (right : ClassTree) :
    ClassTree :=
  match pending with
  | none => right
  | some (kind, left) => .operation kind left right

/-- The hyphens at the front of a class. -/
def leadingHyphens (done : List ClassTree) : Nat → Reader (List ClassTree)
  | 0 => return done
  | fuel + 1 => do
    match ← left with
    | '-' :: _ =>
      next .classUnclosed
      leadingHyphens (.literal ⟨'-', false⟩ :: done) fuel
    | _ => return done

/-- The front of a bracketed class: the bracket, the negation, and the characters that are literal
only there. -/
def classOpening : Reader (Bool × List ClassTree) := do
  next .classUnclosed
  let negated := (← left).head? == some '^'
  if negated then next .classUnclosed
  let hyphens ← leadingHyphens [] (← left).length
  match hyphens, ← left with
  | [], ']' :: _ =>
    next .classUnclosed
    return (negated, [.literal ⟨']', false⟩])
  | _, _ => return (negated, hyphens)

/-- The operation written at the front, if there is one. -/
def classOperation? : List Char → Option (ClassOperation × List Char)
  | '&' :: '&' :: rest => some (.intersection, rest)
  | '-' :: '-' :: rest => some (.difference, rest)
  | '~' :: '~' :: rest => some (.symmetricDifference, rest)
  | _ => none

/-- The rest of a bracketed class behind its front, nested classes included. The members read so
far are in reverse order. -/
def classBody (negated : Bool) (pending : Option (ClassOperation × ClassTree))
    (done : List ClassTree) : Nat → Reader (Bool × ClassTree)
  | 0 => throw .classUnclosed
  | fuel + 1 => do
    skipSpace
    let rest ← left
    match rest with
    | [] => throw .classUnclosed
    | ']' :: rest =>
      moveTo rest
      return (negated, applyPending pending (unionOf done.reverse))
    | '[' :: _ =>
      match asciiClass? rest with
      | some (name, nameNegated, rest) =>
        moveTo rest
        classBody negated pending (.ascii name nameNegated :: done) fuel
      | none =>
        let (innerNegated, innerDone) ← classOpening
        let inner ← classBody innerNegated none innerDone fuel
        classBody negated pending (.bracketed inner.1 inner.2 :: done) fuel
    | _ =>
      match classOperation? rest with
      | some (kind, rest) =>
        moveTo rest
        classBody negated (some (kind, applyPending pending (unionOf done.reverse))) [] fuel
      | none =>
        let item ← classRange
        classBody negated pending (item :: done) fuel

/-- A bracketed class. -/
def bracketedClass : Reader Tree := do
  let (negated, done) ← classOpening
  let (negated, content) ← classBody negated none done ((← left).length + 1)
  return .bracketed negated content

/-! ### Groups -/

/-- Whether a character may stand in a group name. -/
def isNameCharacter (first : Bool) (character : Char) : Bool :=
  character == '_' || CharSet.spelling.contains character
    || (!first && (character == '.' || character == '[' || character == ']'
      || CharSet.numeric.contains character))

/-- The name of a group up to the closing angle bracket. -/
def groupName : Reader Unit := do
  let name := (← left).takeWhile (· != '>')
  let legal := match name with
    | [] => false
    | head :: tail => isNameCharacter true head && tail.all (isNameCharacter false)
  if !legal then throw .groupName
  match (← left).dropWhile (· != '>') with
  | _ :: rest =>
    moveTo rest
    let name := String.ofList name
    if (← get).names.contains name then throw .groupNameRepeated
    modify fun cursor => { cursor with names := name :: cursor.names }
  | [] => throw .groupName

/-- The flag of a letter. -/
def flagOf? : Char → Option Flag
  | 'i' => some .ignoreCase
  | 'm' => some .multiLine
  | 's' => some .dotNewline
  | 'U' => some .swapGreed
  | 'u' => some .unicode
  | 'R' => some .carriageReturn
  | 'x' => some .verbose
  | _ => none

/-- Flags up to the colon or parenthesis behind them; each mark occurs once. -/
def flagMarks (done : List FlagMark) : List Char →
    Except PatternFault (List FlagMark × List Char)
  | [] => throw .flagsUnclosed
  | character :: rest =>
    if character = ':' ∨ character = ')' then
      if done.head? = some .off then throw .flagDangling
      else return (done.reverse, character :: rest)
    else if character = '-' then
      if done.contains .off then throw .flagRepeated else flagMarks (.off :: done) rest
    else
      match flagOf? character with
      | none => throw .flagUnknown
      | some flag =>
        if done.contains (.flag flag) then throw .flagRepeated
        else flagMarks (.flag flag :: done) rest

/-- What an opening parenthesis starts: a setting of flags, or a group. -/
inductive Opening where
  | setting (marks : List FlagMark)
  | group (captures : Bool) (marks : List FlagMark)

/-- Reads the front of a group, from its parenthesis on. -/
def opening : Reader Opening := do
  moveTo (← beyondSpace ((← left).drop 1))
  match ← left with
  | '?' :: '=' :: _ => throw .lookAround
  | '?' :: '!' :: _ => throw .lookAround
  | '?' :: '<' :: '=' :: _ => throw .lookAround
  | '?' :: '<' :: '!' :: _ => throw .lookAround
  | '?' :: 'P' :: '<' :: rest =>
    moveTo rest
    groupName
    return .group true []
  | '?' :: '<' :: rest =>
    moveTo rest
    groupName
    return .group true []
  | ['?'] => throw .groupUnclosed
  | '?' :: rest =>
    match flagMarks [] rest with
    | .error fault => throw fault
    | .ok (marks, rest) =>
      moveTo (rest.drop 1)
      if rest.head? = some ')' then
        if marks.isEmpty then throw .repetitionMissing else return .setting marks
      else return .group false marks
  | _ => return .group true []

/-! ### Repetitions and sequences -/

/-- A repetition needs something in front of it. -/
def repeatable : List Tree → Reader (Tree × List Tree)
  | [] => throw .repetitionMissing
  | .flags _ :: _ => throw .repetitionMissing
  | .empty :: _ => throw .repetitionMissing
  | item :: done => return (item, done)

/-- Whether the mark of a reluctant repetition follows; goes behind it. Whether a pattern matches
does not depend on the mark, but two repetitions are only alike if both have it or none has. -/
def reluctantMark : Reader Bool := do
  match ← left with
  | '?' :: rest =>
    moveTo rest
    return true
  | _ => return false

/-- The bounds of a counted repetition, from its brace on. -/
def counts : Reader (Nat × Option Nat) := do
  next .countUnclosed
  if (← left).head? = some ',' then throw .countInvalid
  let least ← count
  match ← left with
  | ',' :: _ =>
    next .countUnclosed
    match ← left with
    | '}' :: _ =>
      passOver
      return (least, none)
    | _ =>
      let most ← count
      match ← left with
      | '}' :: _ =>
        passOver
        if least ≤ most then return (least, some most) else throw .countInvalid
      | _ => throw .countUnclosed
  | '}' :: _ =>
    passOver
    return (least, some least)
  | _ => throw .countUnclosed

/-- Parts in a row, in reverse order, as one. -/
def sequenceOf (done : List Tree) : Tree :=
  match done with
  | [] => .empty
  | [item] => item
  | items => .sequence items.reverse

/-- Branches, in reverse order, as one. -/
def alternationOf (branches : List Tree) (done : List Tree) : Tree :=
  match branches with
  | [] => sequenceOf done
  | branches => .alternation (sequenceOf done :: branches).reverse

/-- The rest of a group: branches and parts read so far are in reverse order. Ends in front of a
closing parenthesis or at the end of the text. -/
def body (branches done : List Tree) : Nat → Reader Tree
  | 0 => throw .groupUnclosed
  | fuel + 1 => do
    skipSpace
    let rest ← left
    match rest with
    | [] => return alternationOf branches done
    | ')' :: _ => return alternationOf branches done
    | '|' :: rest =>
      moveTo rest
      body (sequenceOf done :: branches) [] fuel
    | '(' :: _ =>
      match ← opening with
      | .setting marks =>
        modify fun cursor =>
          { cursor with verbose := (flagState? .verbose marks).getD cursor.verbose }
        body branches (.flags marks :: done) fuel
      | .group captures marks =>
        let outer := (← get).verbose
        modify fun cursor =>
          { cursor with verbose := (flagState? .verbose marks).getD cursor.verbose }
        let inner ← body [] [] fuel
        match ← left with
        | ')' :: rest =>
          modify fun cursor => { cursor with rest, verbose := outer }
          body branches (.group captures marks inner :: done) fuel
        | _ => throw .groupUnclosed
    | '[' :: _ =>
      let item ← bracketedClass
      body branches (item :: done) fuel
    | '?' :: rest =>
      let (item, done) ← repeatable done
      moveTo rest
      let reluctant ← reluctantMark
      body branches (.repetition 0 (some 1) reluctant item :: done) fuel
    | '*' :: rest =>
      let (item, done) ← repeatable done
      moveTo rest
      let reluctant ← reluctantMark
      body branches (.repetition 0 none reluctant item :: done) fuel
    | '+' :: rest =>
      let (item, done) ← repeatable done
      moveTo rest
      let reluctant ← reluctantMark
      body branches (.repetition 1 none reluctant item :: done) fuel
    | '{' :: _ =>
      let (item, done) ← repeatable done
      let (least, most) ← counts
      let reluctant ← reluctantMark
      body branches (.repetition least most reluctant item :: done) fuel
    | '\\' :: _ =>
      let item ← escape
      body branches (item :: done) fuel
    | '.' :: rest =>
      moveTo rest
      body branches (.dot :: done) fuel
    | '^' :: rest =>
      moveTo rest
      body branches (.assertion .startLine :: done) fuel
    | '$' :: rest =>
      moveTo rest
      body branches (.assertion .endLine :: done) fuel
    | character :: rest =>
      moveTo rest
      body branches (.literal ⟨character, false⟩ :: done) fuel

end Reader

/-- The structure of a pattern. -/
def Tree.ofText? (text : String) : Except PatternFault Tree := do
  let characters := text.toList
  let (tree, cursor) ← (Reader.body [] [] (characters.length + 1)).run ⟨characters, false, []⟩
  if !cursor.rest.isEmpty then throw .groupUnopened
  if nestingLimit < tree.depth then throw .nestedTooDeep
  return tree

end Rulebook.Pattern
