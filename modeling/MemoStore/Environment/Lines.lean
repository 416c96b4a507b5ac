import MemoStore.Text.Blank

/-!
# Lines of an environment file

A line goes on behind its end as long as a quote in it is open. A number sign right
behind a blank starts a comment, and so does one that only blanks stand before.
-/

namespace MemoStore.Environment

open MemoStore.Text

/-- How the next character is to be understood. -/
inductive Quoting where
  | plain
  | escaped
  /-- behind a blank -/
  | blank
  | single
  | singleEscaped
  | double
  | doubleEscaped
  deriving DecidableEq, Repr

/-- What a character opens outside quotes. -/
def Quoting.opened (c : Char) : Quoting :=
  if c = '\\' then .escaped
  else if c = '"' then .double
  else if c = '\'' then .single
  else .plain

/-- How the next character is to be understood after `c`. -/
def Quoting.next (state : Quoting) (c : Char) : Quoting :=
  match state with
  | .plain => if isBlank c && c != '\n' && c != '\r' then .blank else Quoting.opened c
  | .blank => Quoting.opened c
  | .escaped => .plain
  | .single => if c = '\\' then .singleEscaped else if c = '\'' then .plain else .single
  | .singleEscaped => .single
  | .double => if c = '\\' then .doubleEscaped else if c = '"' then .plain else .double
  | .doubleEscaped => .double

/-- What a line comes to. -/
inductive LineEnd where
  | reached (state : Quoting)
  /-- a comment starts behind this text -/
  | comment (before : List Char)

/-- Goes through a line. -/
def scan : Quoting → List Char → LineEnd
  | state, [] => .reached state
  | state, c :: rest =>
    if state = .blank ∧ c = '#' then .comment []
    else
      match scan (state.next c) rest with
      | .comment before => .comment (c :: before)
      | reached => reached

/-- The lines of a text, each with its line feed. -/
def rawLines : List Char → List (List Char)
  | [] => []
  | '\n' :: rest => ['\n'] :: rawLines rest
  | c :: rest =>
    match rawLines rest with
    | [] => [[c]]
    | line :: later => (c :: line) :: later

/-- A line without its end. -/
def withoutEnd (line : List Char) : List Char :=
  match line.reverse with
  | '\n' :: '\r' :: rest => rest.reverse
  | '\n' :: rest => rest.reverse
  | _ => line

/-- Puts lines together, after an open quote or not. A line that does not come to its
end is `none`. -/
def joinLines (begun : List Char) (state : Quoting) :
    List (List Char) → List (Option (List Char))
  | [] => if state = .plain then [] else [none]
  | line :: rest =>
    let whole := begun ++ line
    if (whole.dropWhile isBlank).head? = some '#' then some [] :: joinLines [] .plain rest
    else
      match scan state line with
      | .reached .plain => some (withoutEnd whole) :: joinLines [] .plain rest
      | .reached state => joinLines whole state rest
      | .comment before => some (begun ++ before) :: joinLines [] .plain rest

/-- The lines of an environment file. -/
def fileLines (text : String) : List (Option (List Char)) :=
  let chars :=
    match text.toList with
    | '\uFEFF' :: rest => rest
    | chars => chars
  joinLines [] .plain (rawLines chars)

end MemoStore.Environment
