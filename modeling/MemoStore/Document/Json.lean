import MemoStore.Document.Node

/-!
# JSON form

A document tree in JSON, two spaces deeper with every level and one entry on each
line. An empty list or record stays on its line. Texts escape the quotation mark, the
backslash and the control characters, and nothing else.
-/

namespace MemoStore.Document.Json

/-- A hexadecimal digit in lower case. -/
def hexDigit (value : Nat) : Char :=
  Nat.digitChar (value % 16)

/-- A character inside a quoted text. -/
def escaped (c : Char) : List Char :=
  if c = '"' then ['\\', '"']
  else if c = '\\' then ['\\', '\\']
  else if c.toNat = 0x08 then ['\\', 'b']
  else if c.toNat = 0x09 then ['\\', 't']
  else if c.toNat = 0x0A then ['\\', 'n']
  else if c.toNat = 0x0C then ['\\', 'f']
  else if c.toNat = 0x0D then ['\\', 'r']
  else if c.toNat < 0x20 then
    ['\\', 'u', '0', '0', hexDigit (c.toNat / 16), hexDigit c.toNat]
  else [c]

/-- A quoted text. -/
def quoted (text : String) : List Char :=
  '"' :: text.toList.flatMap escaped ++ ['"']

/-- A new line at a given depth. -/
def newLine (depth : Nat) : List Char :=
  '\n' :: List.replicate (2 * depth) ' '

mutual

/-- A node whose own line stands at `depth`. -/
def node (depth : Nat) : Node → List Char
  | .text value => quoted value
  | .flag value => (if value then "true" else "false").toList
  | .list [] => ['[', ']']
  | .list (item :: more) =>
    '[' :: newLine (depth + 1) ++ node (depth + 1) item ++ items depth more ++
      newLine depth ++ [']']
  | .record [] => ['\x7b', '\x7d']
  | .record ((name, value) :: more) =>
    '\x7b' :: newLine (depth + 1) ++ quoted name ++ [':', ' '] ++ node (depth + 1) value ++
      fields depth more ++ newLine depth ++ ['\x7d']

/-- The items of a list after its first. -/
def items (depth : Nat) : List Node → List Char
  | [] => []
  | item :: more =>
    ',' :: newLine (depth + 1) ++ node (depth + 1) item ++ items depth more

/-- The fields of a record after its first. -/
def fields (depth : Nat) : List (String × Node) → List Char
  | [] => []
  | (name, value) :: more =>
    ',' :: newLine (depth + 1) ++ quoted name ++ [':', ' '] ++ node (depth + 1) value ++
      fields depth more

end

/-- A document in JSON. -/
def render (document : Node) : String :=
  String.ofList (node 0 document)

end MemoStore.Document.Json
