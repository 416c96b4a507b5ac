import MemoStore.Text.Lines

/-!
# Faults of patterns

What can be wrong with a pattern, where in it, and the report about it: the pattern with
marks below the place, and the reason behind it. A pattern of several lines is shown
between rules, with numbers before its lines.
-/

namespace MemoStore.Pattern

open MemoStore.Text

/-- A place between the characters of a pattern, by its line and its column. -/
structure Position where
  line : Nat := 1
  column : Nat := 1
  deriving DecidableEq, Repr

namespace Position

/-- The place behind a character that stands at a place. -/
def past (position : Position) (c : Char) : Position :=
  if c = '\n' then ⟨position.line + 1, 1⟩ else ⟨position.line, position.column + 1⟩

/-- Whether a place comes before another. -/
def isBefore (a b : Position) : Bool :=
  a.line < b.line || (a.line == b.line && a.column < b.column)

end Position

/-- A stretch of a pattern. -/
structure Span where
  start : Position
  stop : Position
  deriving DecidableEq, Repr

namespace Span

/-- The stretch without characters at a place. -/
def point (position : Position) : Span :=
  ⟨position, position⟩

/-- Whether a stretch is inside one line. -/
def isOneLine (span : Span) : Bool :=
  span.start.line == span.stop.line

/-- Where a stretch of several lines begins and ends. -/
def lineNote (span : Span) : String :=
  "on line " ++ toString span.start.line ++ " (column " ++ toString span.start.column ++
    ") through line " ++ toString span.stop.line ++ " (column " ++
    toString (span.stop.column - 1) ++ ")"

end Span

/-- What is wrong with a pattern. -/
inductive Cause where
  | groupUnclosed
  | groupUnopened
  | classUnclosed
  | classRangeReversed
  | classRangeEnd
  | classEscape
  | repetitionMissing
  | countUnclosed
  | countEmpty
  | countTooLarge
  | countReversed
  | escapeUnfinished
  | escapeUnknown
  | backreference
  | lookAround
  | hexEmpty
  | hexDigit
  | hexValue
  | propertySyntax
  | flagDangling
  | flagTwice
  | negationTwice
  | flagUnfinished
  | flagUnknown
  | nameTwice
  | nameEmpty
  | nameCharacter
  | nameUnclosed
  | nestedTooDeep
  | boundaryUnclosed
  | boundaryUnknown
  | boundaryUnfinished
  | unicodeNotAllowed
  | invalidUtf8
  | propertyUnknown
  | propertyValueUnknown
  deriving DecidableEq, Repr

/-- How deep the parts of a pattern may be nested. -/
def nestLimit : Nat := 250

/-- The text of a cause. -/
def Cause.message : Cause → String
  | .groupUnclosed => "unclosed group"
  | .groupUnopened => "unopened group"
  | .classUnclosed => "unclosed character class"
  | .classRangeReversed => "invalid character class range, the start must be <= the end"
  | .classRangeEnd => "invalid range boundary, must be a literal"
  | .classEscape => "invalid escape sequence found in character class"
  | .repetitionMissing => "repetition operator missing expression"
  | .countUnclosed => "unclosed counted repetition"
  | .countEmpty => "repetition quantifier expects a valid decimal"
  | .countTooLarge => "decimal literal invalid"
  | .countReversed => "invalid repetition count range, the start must be <= the end"
  | .escapeUnfinished => "incomplete escape sequence, reached end of pattern prematurely"
  | .escapeUnknown => "unrecognized escape sequence"
  | .backreference => "backreferences are not supported"
  | .lookAround => "look-around, including look-ahead and look-behind, is not supported"
  | .hexEmpty => "hexadecimal literal empty"
  | .hexDigit => "invalid hexadecimal digit"
  | .hexValue => "hexadecimal literal is not a Unicode scalar value"
  | .propertySyntax => "invalid Unicode character class"
  | .flagDangling => "dangling flag negation operator"
  | .flagTwice => "duplicate flag"
  | .negationTwice => "flag negation operator repeated"
  | .flagUnfinished => "expected flag but got end of regex"
  | .flagUnknown => "unrecognized flag"
  | .nameTwice => "duplicate capture group name"
  | .nameEmpty => "empty capture group name"
  | .nameCharacter => "invalid capture group character"
  | .nameUnclosed => "unclosed capture group name"
  | .nestedTooDeep =>
    "exceed the maximum number of nested parentheses/brackets (" ++ toString nestLimit ++ ")"
  | .boundaryUnclosed =>
    "special word boundary assertion is either unclosed or contains an invalid character"
  | .boundaryUnknown =>
    "unrecognized special word boundary assertion, valid choices are: start, end, " ++
      "start-half or end-half"
  | .boundaryUnfinished =>
    "found either the beginning of a special word boundary or a bounded repetition on a " ++
      "\\b with an opening brace, but no closing brace"
  | .unicodeNotAllowed => "Unicode not allowed here"
  | .invalidUtf8 => "pattern can match invalid UTF-8"
  | .propertyUnknown => "Unicode property not found"
  | .propertyValueUnknown => "Unicode property value not found"

/-- A fault: its cause, its place, and the place that it clashes with. -/
structure Fault where
  cause : Cause
  span : Span
  earlier : Option Span := none
  deriving DecidableEq, Repr

namespace Fault

/-- The places of a fault in the order in which they stand in the pattern. -/
def spans (fault : Fault) : List Span :=
  match fault.earlier with
  | none => [fault.span]
  | some earlier =>
    if fault.span.start.isBefore earlier.start then [fault.span, earlier]
    else [earlier, fault.span]

/-- The marks below a line from a column on, for places in it. An empty place has a mark
too. -/
def marks (column : Nat) : List Span → List Char
  | [] => []
  | span :: rest =>
    let gap := span.start.column - column
    let width := max 1 (span.stop.column - span.start.column)
    List.replicate gap ' ' ++ List.replicate width '^' ++ marks (column + gap + width) rest

/-- A line behind its label, with the marks below it. -/
def markedLine (fault : Fault) (label line : List Char) (number : Nat) : List (List Char) :=
  let here := fault.spans.filter fun span => span.isOneLine && span.start.line == number
  (label ++ line) ::
    if here.isEmpty then [] else [List.replicate label.length ' ' ++ marks 1 here]

/-- The rule above and below a pattern of several lines. -/
def rule : List Char :=
  List.replicate 79 '~'

/-- The number of a line with a colon behind it, in a column of a width. -/
def lineLabel (width number : Nat) : List Char :=
  let digits := (toString number).toList
  List.replicate (width - digits.length) ' ' ++ digits ++ ": ".toList

/-- The pattern with its marks. -/
def shown (pattern : List Char) (fault : Fault) : List (List Char) :=
  let all := lines pattern
  if pattern.contains '\n' then
    let count := if pattern.getLast? = some '\n' then all.length + 1 else all.length
    let width := (toString count).length
    let notes := (fault.spans.filter (! ·.isOneLine)).map (·.lineNote.toList)
    [rule] ++
      (all.zipIdx 1).flatMap (fun (line, number) =>
        fault.markedLine (lineLabel width number) line number) ++
      [rule] ++ notes
  else all.flatMap fun line => fault.markedLine "    ".toList line 1

/-- The report about a fault. -/
def report (pattern : List Char) (fault : Fault) : String :=
  String.ofList <| "regex parse error:\n".toList ++
    (fault.shown pattern).flatMap (· ++ ['\n']) ++
    "error: ".toList ++ fault.cause.message.toList

end Fault

end MemoStore.Pattern
