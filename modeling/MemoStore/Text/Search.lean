/-!
# Searching text

Literal texts at the front, anywhere, and the first or last place from which a
reader succeeds. A reader takes the remaining text and may refuse it.
-/

namespace MemoStore.Text

/-- What follows `literal` at the front of the text. -/
def after? (literal text : List Char) : Option (List Char) :=
  if literal.isPrefixOf text then some (text.drop literal.length) else none

/-- Whether `literal` occurs somewhere in the text. -/
def occurs (literal : List Char) : List Char → Bool
  | [] => literal.isEmpty
  | c :: rest => literal.isPrefixOf (c :: rest) || occurs literal rest

/-- The result of `read` at the leftmost place where it succeeds. -/
def first? {α : Type} (read : List Char → Option α) : List Char → Option α
  | [] => read []
  | c :: rest => (read (c :: rest)).or (first? read rest)

/-- The result of `read` at the rightmost place where it succeeds. -/
def last? {α : Type} (read : List Char → Option α) : List Char → Option α
  | [] => read []
  | c :: rest => (last? read rest).or (read (c :: rest))

/-- The pieces between the occurrences of one character; there is always one more
piece than there are occurrences. -/
def pieces (separator : Char) : List Char → List (List Char)
  | [] => [[]]
  | c :: rest =>
    if c = separator then [] :: pieces separator rest
    else
      match pieces separator rest with
      | [] => [[c]]
      | piece :: later => (c :: piece) :: later

end MemoStore.Text
