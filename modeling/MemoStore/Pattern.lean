import MemoStore.Pattern.Depth
import MemoStore.Pattern.Meaning
import MemoStore.Pattern.Reading
import MemoStore.Pattern.Room

/-!
# Patterns of text

A text is read as a pattern and looked for in other texts. A text that is no pattern is
reported with the place and the cause of its first fault.
-/

namespace MemoStore

/-- A pattern that can be looked for. -/
abbrev TextPattern := Pattern Pattern.CharSet Pattern.Condition

namespace TextPattern

/-- What a text means as a pattern. -/
def meaning (text : List Char) : Except Pattern.Fault TextPattern := do
  let node ← Pattern.Node.read text
  node.checkDepth
  return (← node.meaning.run {}).1

/-- Reads a pattern, or reports why the text is none. -/
def read (text : String) : Except String TextPattern :=
  match meaning text.toList with
  | .error fault => .error (fault.report text.toList)
  | .ok pattern =>
    if Pattern.roomLimit < pattern.room then .error Pattern.roomMessage else .ok pattern

end TextPattern

end MemoStore
