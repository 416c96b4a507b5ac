import MemoStore.Text.Blank
import MemoStore.Text.Lines

/-!
# Statement scripts

A script holds statements separated by marker lines. Blank lines and comment lines
are no part of any statement, and the terminators at the end of a statement are
dropped while those inside it stay, so that a trigger body survives whole.
-/

namespace MemoStore.Script

open MemoStore.Text

/-- The text that opens a line between two statements. -/
def marker : String := "--> statement-breakpoint"

/-- What a line of a script is for. -/
inductive LineRole where
  /-- separates two statements -/
  | breakpoint
  /-- blank, or a comment -/
  | skipped
  /-- part of a statement -/
  | body
  deriving DecidableEq, Repr

/-- The role of a line, which the start of its trimmed text decides. -/
def LineRole.of (line : List Char) : LineRole :=
  let text := trim line
  if marker.toList.isPrefixOf text then .breakpoint
  else if "--".toList.isPrefixOf text || text.isEmpty then .skipped
  else .body

/-- The body lines between breakpoints, one group for every stretch of the script. -/
def groups : List (List Char) → List (List (List Char))
  | [] => [[]]
  | line :: rest =>
    match LineRole.of line with
    | .breakpoint => [] :: groups rest
    | .skipped => groups rest
    | .body =>
      match groups rest with
      | [] => [[line]]
      | group :: later => (line :: group) :: later

/-- The text of a group, every line with its line feed. -/
def joined (group : List (List Char)) : List Char :=
  group.flatMap fun line => line ++ ['\n']

/-- A text without blanks around it and without terminators at its end. -/
def clean (text : List Char) : List Char :=
  dropTail isBlank (dropTail (· == ';') (trim text))

/-- The statement of a group, or nothing if only blanks and terminators are in it. -/
def statement? (group : List (List Char)) : Option (List Char) :=
  let text := clean (joined group)
  if text.isEmpty then none else some text

/-- The statements of a script, in order. -/
def statements (script : List Char) : List (List Char) :=
  (groups (lines script)).filterMap statement?

/-- The statements of a script given as a string. -/
def split (script : String) : List String :=
  (statements script.toList).map String.ofList

end MemoStore.Script
