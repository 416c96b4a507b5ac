import MemoStore.Pattern.Bracket
import MemoStore.Text.Letter

/-!
# Reading patterns

A pattern is alternatives with bars between them, each of parts that follow each other. A
sign behind a part repeats it, and parentheses hold alternatives of their own. A group
can have a name, or flags that hold inside it; flags without alternatives hold up to the
end of the group they stand in.
-/

namespace MemoStore.Pattern

open MemoStore.Text

/-- What parentheses begin with. -/
inductive GroupStart where
  /-- flags for what follows -/
  | flags (span : Span) (flags : Flags)
  /-- a group with flags of its own -/
  | group (span : Span) (flags : Flags)
  deriving DecidableEq, Repr

/-- What flags say about blanks, if they say something. -/
def Flags.spaced? (flags : Flags) : Option Bool :=
  flags.lookup .spaced

namespace Reader

/-- The signs behind parentheses that ask for what stands around a place. -/
def lookAroundSigns : List String := ["?=", "?!", "?<=", "?<!"]

/-- Whether a character may stand in the name of a group. -/
def isNameChar (isFirst : Bool) (c : Char) : Bool :=
  c == '_' ||
    if isFirst then isAlphabetic c else isAlphanumeric c || c == '.' || c == '[' || c == ']'

/-- Reads the characters of a name up to its closing bracket, at most `limit` of them. -/
def nameChars (isFirst : Bool) : Nat → Reader (List Char)
  | 0 => return []
  | limit + 1 => do
    match ← peek with
    | none => fail .nameUnclosed (.point (← position))
    | some c =>
      if c = '>' then return []
      if !isNameChar isFirst c then fail .nameCharacter (← charSpan)
      bump
      return c :: (← nameChars false limit)

/-- Reads the name of a group, which no group before it has. -/
def groupName : Reader Unit := do
  let start ← position
  let name ← nameChars true ((← remaining) + 1)
  let span ← spanFrom start
  bump
  if name.isEmpty then fail .nameEmpty span
  match (← get).groupNames.lookup name with
  | some earlier => throw ⟨.nameTwice, span, some earlier⟩
  | none => modify fun cursor => { cursor with groupNames := (name, span) :: cursor.groupNames }

/-- Flags that were read, each with its place, and the place of the hyphen behind which
flags are switched off. -/
structure FlagList where
  flags : List (Flag × Bool × Span) := []
  hyphen : Option Span := none
  deriving DecidableEq, Repr

/-- Adds a flag or a hyphen at a place. -/
def addFlag (found : FlagList) (c : Char) (span : Span) : Reader FlagList := do
  if c = '-' then
    match found.hyphen with
    | some earlier => throw ⟨.negationTwice, span, some earlier⟩
    | none => return { found with hyphen := some span }
  else
    match Flag.ofChar? c with
    | none => fail .flagUnknown span
    | some flag =>
      match found.flags.lookup flag with
      | some (_, earlier) => throw ⟨.flagTwice, span, some earlier⟩
      | none =>
        return { found with flags := found.flags ++ [(flag, found.hyphen.isNone, span)] }

/-- Reads flags up to a colon or a closing parenthesis, at most `limit` of them. `dangling`
is the place of a hyphen right before. -/
def flagList (found : FlagList) (dangling : Option Span) : Nat → Reader FlagList
  | 0 => return found
  | limit + 1 => do
    match ← peek with
    | none => fail .flagUnfinished (.point (← position))
    | some c =>
      if c = ':' || c = ')' then
        match dangling with
        | some span => fail .flagDangling span
        | none => return found
      else
        let span ← charSpan
        let found ← addFlag found c span
        bump
        flagList found (if c = '-' then some span else none) limit

/-- Moves behind one of some texts if it stands at the cursor. -/
def takeAny? : List String → Reader Bool
  | [] => return false
  | literal :: rest => do
    if ← take? literal then return true
    takeAny? rest

/-- Reads the front of parentheses. -/
def groupStart : Reader GroupStart := do
  let parenthesis ← charSpan
  bump
  skipBlanks
  if ← takeAny? lookAroundSigns then fail .lookAround (← spanFrom parenthesis.start)
  let inside ← position
  if ← takeAny? ["?P<", "?<"] then
    groupName
    return .group parenthesis []
  else if ← take? "?" then
    unlessEnd .groupUnclosed (pure parenthesis)
    let found ← flagList {} none ((← remaining) + 1)
    let flags : Flags := found.flags.map fun (flag, on, _) => (flag, on)
    let last ← peek
    bump
    if last = some ')' then
      if found.flags.isEmpty && found.hyphen.isNone then
        fail .repetitionMissing (.point inside)
      return .flags (← spanFrom parenthesis.start) flags
    else return .group parenthesis flags
  else return .group parenthesis []

/-- The largest number that a repetition can be counted with. -/
def largestCount : Nat := 4294967295

/-- Reads the digits of a number, at most `limit` of them. -/
def digits : Nat → Reader (List Char) :=
  charsWhile Char.isDigit

/-- Reads a number with blanks around it. What is wrong with it is not yet a fault. -/
def count : Reader (Except Fault Nat) := do
  let blanks := ((← get).rest.takeWhile isBlank).length
  modify (·.skip blanks)
  let start ← position
  let text ← digits (← remaining)
  let span ← spanFrom start
  skipCounted (← remaining)
  let value := text.foldl (fun value c => 10 * value + (c.toNat - '0'.toNat)) 0
  if text.isEmpty then return .error { cause := .countEmpty, span }
  else if largestCount < value then return .error { cause := .countTooLarge, span }
  else return .ok value
where
  /-- Moves behind blanks, and behind comments if they are skipped. -/
  skipCounted : Nat → Reader Unit
    | 0 => return
    | limit + 1 => do
      if (← peek).any isBlank then
        advance
        skipCounted limit

/-- Reads how often something is repeated, from the opening brace up to the closing one. -/
def counts : Reader (Nat × Option Nat) := do
  let start ← position
  advance
  unlessEnd .countUnclosed (spanFrom start)
  let least ← count
  unlessEnd .countUnclosed (spanFrom start)
  if (← peek) = some ',' then
    advance
    unlessEnd .countUnclosed (spanFrom start)
    if (← peek) = some '}' then return (← least, none)
    else
      let least ← least
      let most ← (← count)
      return (least, some most)
  else
    let least ← least
    return (least, some least)

/-- Reads a repetition that is counted in braces. -/
def counted (inner : Node) : Reader Node := do
  let start ← position
  let (least, most) ← counts
  if (← peek) ≠ some '}' then fail .countUnclosed (← spanFrom start)
  advance
  if (← peek) = some '?' then bump
  let span ← spanFrom start
  if most.any (· < least) then fail .countReversed span
  return .repetition (← spanFrom inner.span.start) least most inner

/-- Reads a repetition that is written as one sign, and the sign behind it that makes it
prefer to be short. -/
def repeated (least : Nat) (most : Option Nat) (inner : Node) : Reader Node := do
  bump
  if (← peek) = some '?' then bump
  return .repetition (← spanFrom inner.span.start) least most inner

/-- The part that a sign repeats, which is the last one that was read, and those before
it. -/
def popRepeated : List Node → Reader (Node × List Node)
  | [] => do fail .repetitionMissing (.point (← position))
  | node :: before => do
    if node.isUnrepeatable then fail .repetitionMissing (.point (← position))
    return (node, before)

/-- Alternatives that were read, the last one first, and the place at which they began. -/
structure Branches where
  start : Position
  done : List Node := []
  deriving Repr

/-- Parts that follow each other, the last one first, and the place at which they began. -/
structure Parts where
  start : Position
  done : List Node := []
  deriving Repr

/-- The parts that end at the cursor as one. -/
def Parts.close (parts : Parts) : Reader Node := do
  return .ofList (← spanFrom parts.start) parts.done.reverse

/-- The alternatives that end at the cursor as one, with the last one of them. -/
def Branches.close (branches : Branches) (parts : Parts) : Reader Node := do
  let last ← parts.close
  return .ofBranches (← spanFrom branches.start) (last :: branches.done).reverse

/-- Switches the skipping of blanks on or off. -/
def setSpaced (spaced : Bool) : Reader Unit :=
  modify fun cursor => { cursor with spaced }

/-- Reads alternatives up to a closing parenthesis or the end of the pattern, in at most
`limit` steps. -/
def alternatives : Nat → Branches → Parts → Reader Node
  | 0, branches, parts => branches.close parts
  | limit + 1, branches, parts => do
    skipBlanks
    let add (done : List Node) (node : Node) : Parts := { parts with done := node :: done }
    match ← peek with
    | none => branches.close parts
    | some ')' => branches.close parts
    | some '|' =>
      let branch ← parts.close
      bump
      alternatives limit { branches with done := branch :: branches.done } ⟨← position, []⟩
    | some '(' =>
      match ← groupStart with
      | .flags span flags =>
        setSpaced (flags.spaced?.getD (← get).spaced)
        alternatives limit branches (add parts.done (.flags span flags))
      | .group parenthesis flags =>
        let outside := (← get).spaced
        setSpaced (flags.spaced?.getD outside)
        let place ← position
        let inner ← alternatives limit ⟨place, []⟩ ⟨place, []⟩
        unlessEnd .groupUnclosed (pure parenthesis)
        setSpaced outside
        bump
        let group := Node.group (← spanFrom parenthesis.start) flags inner
        alternatives limit branches (add parts.done group)
    | some '[' =>
      let node ← bracketed
      alternatives limit branches (add parts.done node)
    | some '?' =>
      let (node, before) ← popRepeated parts.done
      alternatives limit branches (add before (← repeated 0 (some 1) node))
    | some '*' =>
      let (node, before) ← popRepeated parts.done
      alternatives limit branches (add before (← repeated 0 none node))
    | some '+' =>
      let (node, before) ← popRepeated parts.done
      alternatives limit branches (add before (← repeated 1 none node))
    | some '{' =>
      let (node, before) ← popRepeated parts.done
      alternatives limit branches (add before (← counted node))
    | some _ =>
      let part ← atom
      alternatives limit branches (add parts.done (.atom part))

/-- Reads a whole pattern. -/
def pattern : Reader Node := do
  let start ← position
  let node ← alternatives ((← remaining) + 1) ⟨start, []⟩ ⟨start, []⟩
  if (← peek).isSome then fail .groupUnopened (← charSpan)
  return node

end Reader

/-- Reads a pattern, or finds its first fault. -/
def Node.read (text : List Char) : Except Fault Node :=
  (Reader.pattern.run { rest := text }).map Prod.fst

end MemoStore.Pattern
