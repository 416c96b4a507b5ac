import MemoStore.Text.Search

/-!
# Paths

A path is a way through folders, written as names with slashes between them. Two
slashes are as good as one. A dot stays where the path is, and two dots go up; both
ask for a folder, so that a path through something that is missing leads nowhere even
if it comes back from there.
-/

namespace MemoStore.Files

/-- Where an entry is: the names of the folders around it and its own, from the root
down. -/
abbrev Place := List String

/-- A place and the places around it, the nearest first. -/
def outward : Place → List Place
  | [] => [[]]
  | name :: inside => (outward inside).map (name :: ·) ++ [[]]

/-- One move along a path. -/
inductive Move where
  /-- stays in a folder -/
  | stay
  /-- goes up from a folder -/
  | up
  /-- goes to the entry of a folder with this name -/
  | into (name : String)
  deriving DecidableEq, Repr

/-- The move that a part of a path stands for; an empty part stands for none. -/
def Move.read? (part : List Char) : Option Move :=
  if part.isEmpty then none
  else if part = ['.'] then some .stay
  else if part = ['.', '.'] then some .up
  else some (.into (String.ofList part))

/-- The place that one move leads to from another. -/
def Move.from (place : Place) : Move → Place
  | .stay => place
  | .up => place.dropLast
  | .into name => place ++ [name]

/-- The size of the text of a place, in bytes. -/
def Place.size (place : Place) : Nat :=
  place.foldl (fun size name => size + name.utf8ByteSize + 1) 0

/-- A path. -/
structure Path where
  absolute : Bool
  moves : List Move
  /-- whether a slash ends it, so that it can only mean a folder -/
  slashed : Bool
  /-- the size of its text, in bytes -/
  size : Nat
  deriving DecidableEq, Repr

namespace Path

/-- The size from which on a path is too long to be followed. -/
def limit : Nat := 4096

/-- Reads a path. -/
def read (text : String) : Path where
  absolute := text.toList.head? == some '/'
  moves := (Text.pieces '/' text.toList).filterMap Move.read?
  slashed := text.toList.getLast? == some '/'
  size := text.utf8ByteSize

/-- Where a path starts for someone in the folder `here`. -/
def start (path : Path) (here : Place) : Place :=
  if path.absolute then [] else here

/-- The shorter and shorter beginnings of reversed moves, none of which ends by staying. -/
def beginnings : List Move → List (List Move)
  | [] => []
  | .stay :: before => beginnings before
  | move :: before => (move :: before).reverse :: beginnings before

/-- The size of the text of moves, in bytes. -/
def spelledSize (moves : List Move) : Nat :=
  moves.foldl
    (fun size move =>
      match move with
      | .stay => size + 2
      | .up => size + 3
      | .into name => size + name.utf8ByteSize + 1)
    0

/-- The folders that a path leads through, the last first. -/
def above (path : Path) : List Path :=
  (beginnings path.moves.reverse).tail.map fun moves =>
    { path with moves := moves, slashed := false, size := spelledSize moves }

/-- Whether a name on the path has a character that no name can have. -/
def hasNul (path : Path) : Bool :=
  path.moves.any fun move =>
    match move with
    | .into name => name.toList.contains '\x00'
    | _ => false

/-- Whether a path ends in a name, and so can mean an entry that is not there yet. -/
def isNamed (path : Path) : Bool :=
  match path.moves.getLast? with
  | some (.into _) => true
  | _ => false

/-- The place that a path means when the folders on it are taken for granted. -/
def destination (path : Path) (here : Place) : Place :=
  path.moves.foldl Move.from (path.start here)

/-- The text of the path to a file in a directory that is given by a text. -/
def join (directory name : String) : String :=
  if directory.isEmpty then name
  else if directory.toList.getLast? = some '/' then directory ++ name
  else directory ++ "/" ++ name

end Path

end MemoStore.Files
