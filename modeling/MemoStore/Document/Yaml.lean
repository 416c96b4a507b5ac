import MemoStore.Document.Node
import MemoStore.Document.Scalar

/-!
# YAML form

A document tree in YAML, as a list of lines, which end in a line feed unless they have
a line end of their own. Fields of a record stand two columns deeper than the key they
belong to; items of a list stand at the column of that key, and what belongs to an item
stands behind its dash.
-/

namespace MemoStore.Document.Yaml

/-- The indentation of a line. -/
def spaces (column : Nat) : List Char :=
  List.replicate column ' '

/-- The lines of a text whose first line begins with `opening` and whose further lines
stand at `column`. -/
def scalarLines (opening : List Char) (column : Nat) (text : List Char) : List (List Char) :=
  match Style.of text with
  | .plain => [opening ++ text]
  | .singleQuoted => [opening ++ singleQuoted (spaces column) text]
  | .doubleQuoted => [opening ++ doubleQuoted text]
  | .block => (opening ++ blockHeader text) :: (blockLines text).map (indented (spaces column) true)

/-- Puts a dash in front of the first of some lines, which stand two columns behind
it. -/
def dashed (column : Nat) : List (List Char) → List (List Char)
  | [] => []
  | line :: rest => (spaces column ++ ['-', ' '] ++ line.drop (column + 2)) :: rest

mutual

/-- The lines of a value behind a key. `opening` is the line up to the key and its
colon, and `column` is where the key stands. -/
def valueLines (opening : List Char) (column : Nat) : Node → List (List Char)
  | .text value => scalarLines (opening ++ [' ']) (column + 2) value.toList
  | .flag value => [opening ++ (if value then " true" else " false").toList]
  | .list items =>
    match items with
    | [] => [opening ++ " []".toList]
    | _ => opening :: itemsLines column items
  | .record fields =>
    match fields with
    | [] => [opening ++ " \x7b\x7d".toList]
    | _ => opening :: fieldsLines (column + 2) fields

/-- The lines of an item of a list whose dashes stand at `column`. -/
def itemLines (column : Nat) : Node → List (List Char)
  | .text value => scalarLines (spaces column ++ ['-', ' ']) (column + 2) value.toList
  | .flag value => [spaces column ++ (if value then "- true" else "- false").toList]
  | .list items =>
    match items with
    | [] => [spaces column ++ "- []".toList]
    | _ => dashed column (itemsLines (column + 2) items)
  | .record fields =>
    match fields with
    | [] => [spaces column ++ "- \x7b\x7d".toList]
    | _ => dashed column (fieldsLines (column + 2) fields)

/-- The lines of all items of a list. -/
def itemsLines (column : Nat) : List Node → List (List Char)
  | [] => []
  | item :: more => itemLines column item ++ itemsLines column more

/-- The lines of the fields of a record whose keys stand at `column`. -/
def fieldsLines (column : Nat) : List (String × Node) → List (List Char)
  | [] => []
  | (name, value) :: more =>
    valueLines (spaces column ++ name.toList ++ [':']) column value ++ fieldsLines column more

end

/-- The lines of a whole document. -/
def documentLines : Node → List (List Char)
  | .text value => scalarLines [] 2 value.toList
  | .flag value => [(if value then "true" else "false").toList]
  | .list [] => ["[]".toList]
  | .list (item :: more) => itemsLines 0 (item :: more)
  | .record [] => ["\x7b\x7d".toList]
  | .record (field :: more) => fieldsLines 0 (field :: more)

/-- A line with its end. -/
def ended (line : List Char) : List Char :=
  if line.getLast?.any isBreak then line else line ++ ['\n']

/-- A document in YAML. -/
def render (document : Node) : String :=
  String.ofList ((documentLines document).flatMap ended)

end MemoStore.Document.Yaml
