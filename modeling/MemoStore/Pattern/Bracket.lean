import MemoStore.Pattern.Escape

/-!
# Classes in brackets

The characters between brackets, alone or as ranges, with classes by name and further
brackets among them. A caret in front asks for all other characters. Hyphens in front
and a closing bracket in front stand for themselves. Doubled signs combine what is left
of them with what is right of them.
-/

namespace MemoStore.Pattern

/-- The front of a class: what stands before its members, and the members that are read
with it, the last one first. -/
structure Opening where
  span : Span
  negated : Bool
  place : Position
  members : List Member
  deriving Repr

namespace Reader

/-- Reads the hyphens in front of a class, at most `limit` of them. -/
def hyphens (start : Position) : Nat → Reader (List Member)
  | 0 => return []
  | limit + 1 => do
    if (← peek) = some '-' then
      let span ← charSpan
      advance
      unlessEnd .classUnclosed (pure (.point start))
      return .literal { span, char := '-' } :: (← hyphens start limit)
    else return []

/-- Reads the front of a class. -/
def opening : Reader Opening := do
  let start ← position
  advance
  unlessEnd .classUnclosed (spanFrom start)
  let negated := (← peek) == some '^'
  if negated then
    advance
    unlessEnd .classUnclosed (spanFrom start)
  let place ← position
  let members ← hyphens start (← remaining)
  if members.isEmpty && (← peek) == some ']' then
    let bracket := Member.literal { span := ← charSpan, char := ']' }
    advance
    unlessEnd .classUnclosed (spanFrom start)
    return ⟨← spanFrom start, negated, place, [bracket]⟩
  else return ⟨← spanFrom start, negated, place, members.reverse⟩

/-- The named class that a text begins with, whether it is negated, and its length. -/
def asciiClassOf? : List Char → Option (AsciiClass × Bool × Nat)
  | '[' :: ':' :: rest =>
    let negated := rest.head? == some '^'
    let rest := if negated then rest.tail else rest
    let name := rest.takeWhile (· != ':')
    if [':', ']'].isPrefixOf (rest.drop name.length) then
      (AsciiClass.ofName? name).map fun kind =>
        (kind, negated, name.length + if negated then 5 else 4)
    else none
  | _ => none

/-- Reads a named class, if there is one. -/
def asciiClass? : Reader (Option NamedClass) := do
  let cursor ← get
  match asciiClassOf? cursor.rest with
  | none => return none
  | some (kind, negated, length) =>
    set (cursor.skip length)
    return some ⟨← spanFrom cursor.position, negated, .ascii kind⟩

/-- The operation that a text begins with. -/
def operation? : List Char → Option SetOp
  | '&' :: '&' :: _ => some .both
  | '-' :: '-' :: _ => some .without
  | '~' :: '~' :: _ => some .either
  | _ => none

/-- An atom as a member of a class. -/
def single : Atom → Reader Member
  | .literal char => return .literal char
  | .named cls => return .named cls
  | other => fail .classEscape other.span

/-- An atom as an end of a range. -/
def rangeEnd : Atom → Reader Literal
  | .literal char => return char
  | other => fail .classRangeEnd other.span

/-- Reads a character, a range or a class by its letter. -/
def member (opening : Opening) : Reader Member := do
  let first ← escapeOrLiteral
  skipBlanks
  unlessEnd .classUnclosed (pure opening.span)
  let second := (← get).second?
  if (← peek) != some '-' || second == some ']' || second == some '-' then single first
  else
    advance
    unlessEnd .classUnclosed (pure opening.span)
    let last ← escapeOrLiteral
    let span : Span := ⟨first.span.start, last.span.stop⟩
    let first ← rangeEnd first
    let last ← rangeEnd last
    if last.char < first.char then fail .classRangeReversed span
    return .range first last

/-- The members that were read, the last one first, behind an operation or without one. -/
def combined (left : Option (SetOp × Member)) (place : Position) (members : List Member) :
    Member :=
  let right := Member.ofList place members.reverse
  match left with
  | none => right
  | some (op, left) => .combined ⟨left.span.start, right.span.stop⟩ op left right

/-- Reads the members of a class up to its end, at most `limit` of them. -/
def members (opening : Opening) :
    Nat → Option (SetOp × Member) → Position → List Member → Reader Member
  | 0, left, place, found => return combined left place found
  | limit + 1, left, place, found => do
    skipBlanks
    match ← peek with
    | none => fail .classUnclosed opening.span
    | some ']' =>
      bump
      return combined left place found
    | some '[' =>
      match ← asciiClass? with
      | some cls => members opening limit left place (.named cls :: found)
      | none =>
        let nested ← Reader.opening
        let inner ← members nested limit none nested.place nested.members
        let span ← spanFrom nested.span.start
        members opening limit left place (.bracketed span nested.negated inner :: found)
    | some _ =>
      match operation? (← get).rest with
      | some op =>
        bump
        bump
        members opening limit (some (op, combined left place found)) (← position) []
      | none =>
        let next ← member opening
        members opening limit left place (next :: found)

/-- Reads a class in brackets. -/
def bracketed : Reader Node := do
  let opening ← Reader.opening
  let inner ← members opening ((← remaining) + 1) none opening.place opening.members
  return .bracketed (← spanFrom opening.span.start) opening.negated inner

end Reader

end MemoStore.Pattern
