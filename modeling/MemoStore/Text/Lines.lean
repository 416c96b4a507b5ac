/-!
# Lines

A line ends at a line feed, and a carriage return directly before that line feed
belongs to the line end. Any other carriage return is ordinary text. Text after the
last line feed is a line of its own unless it is empty.
-/

namespace MemoStore.Text

/-- The lines of a text, without their ends. -/
def lines : List Char → List (List Char)
  | [] => []
  | '\n' :: rest => [] :: lines rest
  | '\r' :: '\n' :: rest => [] :: lines rest
  | c :: rest =>
    match lines rest with
    | [] => [[c]]
    | line :: later => (c :: line) :: later

/-- The part of a text before its first line feed. -/
def firstLine (text : List Char) : List Char :=
  text.takeWhile (· != '\n')

end MemoStore.Text
