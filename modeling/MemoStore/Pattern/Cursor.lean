import MemoStore.Pattern.Fault
import MemoStore.Text.Blank

/-!
# Reading along a pattern

A cursor is a place in a pattern with what follows it. In a spaced pattern blanks are
skipped, and so are comments, which last from a hash sign to the end of the line. A
reader moves the cursor or finds a fault.
-/

namespace MemoStore.Pattern

open MemoStore.Text

/-- A place in a pattern, with what was switched on and named before it. -/
structure Cursor where
  rest : List Char
  position : Position := {}
  spaced : Bool := false
  groupNames : List (List Char × Span) := []
  deriving DecidableEq, Repr

namespace Cursor

/-- The place behind the next character. -/
def past (cursor : Cursor) : Cursor :=
  match cursor.rest with
  | [] => cursor
  | c :: rest => { cursor with rest, position := cursor.position.past c }

/-- The place behind several characters. -/
def skip (cursor : Cursor) : Nat → Cursor
  | 0 => cursor
  | count + 1 => cursor.past.skip count

/-- How many characters at the front of a text are blank or in comments. -/
def blankLength (inComment : Bool) : List Char → Nat
  | [] => 0
  | c :: rest =>
    if inComment then 1 + blankLength (c != '\n') rest
    else if isBlank c then 1 + blankLength false rest
    else if c = '#' then 1 + blankLength true rest
    else 0

/-- The place behind blanks and comments, if they are skipped. -/
def pastBlanks (cursor : Cursor) : Cursor :=
  if cursor.spaced then cursor.skip (blankLength false cursor.rest) else cursor

/-- The first character of a text that is neither blank nor the first hash sign. -/
def firstVisible (inComment : Bool) : List Char → Option Char
  | [] => none
  | c :: rest =>
    if isBlank c then firstVisible inComment rest
    else if c = '#' && !inComment then firstVisible true rest
    else some c

/-- The character behind the next one; blanks between them are skipped if blanks are, and
so is a hash sign, but not the comment behind it. -/
def second? (cursor : Cursor) : Option Char :=
  let after := cursor.rest.tail
  if cursor.spaced then (firstVisible false after).or after.head? else after.head?

end Cursor

/-- Reads a part of a pattern. -/
abbrev Reader := StateT Cursor (Except Fault)

namespace Reader

/-- Finds a fault. -/
def fail {α : Type} (cause : Cause) (span : Span) : Reader α :=
  throw { cause, span }

/-- The place of the cursor. -/
def position : Reader Position := do
  return (← get).position

/-- The next character. -/
def peek : Reader (Option Char) := do
  return (← get).rest.head?

/-- The stretch from a place to the cursor. -/
def spanFrom (start : Position) : Reader Span := do
  return ⟨start, ← position⟩

/-- The place of the next character. -/
def charSpan : Reader Span := do
  let cursor ← get
  return ⟨cursor.position, cursor.past.position⟩

/-- Moves behind the next character. -/
def bump : Reader Unit :=
  modify Cursor.past

/-- Moves behind blanks and comments, if they are skipped. -/
def skipBlanks : Reader Unit :=
  modify Cursor.pastBlanks

/-- Moves behind the next character, and behind blanks and comments. -/
def advance : Reader Unit :=
  modify fun cursor => cursor.past.pastBlanks

/-- Moves behind a text if it stands at the cursor. -/
def take? (literal : String) : Reader Bool := do
  let cursor ← get
  if literal.toList.isPrefixOf cursor.rest then
    set (cursor.skip literal.length)
    return true
  else return false

/-- Fails at the end of the pattern. -/
def unlessEnd (cause : Cause) (span : Reader Span) : Reader Unit := do
  if (← peek).isNone then fail cause (← span)

end Reader

end MemoStore.Pattern
