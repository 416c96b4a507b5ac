import MemoStore.Pattern.Cursor
import MemoStore.Pattern.Node
import MemoStore.Text.Search

/-!
# Escapes

What a backslash makes of the characters behind it: a character by its number or its
letter, a class of characters, a place, or a sign that stands for itself.
-/

namespace MemoStore.Pattern

open MemoStore.Text

namespace Escape

/-- Signs that can always stand behind a backslash. -/
def isMeta (c : Char) : Bool :=
  "\\.+*?()|[]\x7b\x7d^$#&-~".toList.contains c

/-- Whether a character stands for itself behind a backslash. -/
def isPlain (c : Char) : Bool :=
  isMeta c || (c.toNat < 128 && !c.isAlphanum && c != '<' && c != '>')

/-- The characters that are written by a letter. -/
def named? : Char → Option Char
  | 'a' => some '\x07'
  | 'f' => some '\x0c'
  | 't' => some '\t'
  | 'n' => some '\n'
  | 'r' => some '\r'
  | 'v' => some '\x0b'
  | _ => none

/-- The places that are written by a letter or a sign. -/
def anchor? : Char → Option Anchor
  | 'A' => some .textStart
  | 'z' => some .textEnd
  | 'b' => some .boundary
  | 'B' => some .noBoundary
  | '<' => some .wordStart
  | '>' => some .wordEnd
  | _ => none

/-- The classes that are written by a letter, of which the upper-case one stands for all
other characters. -/
def shorthand? (c : Char) : Option Shorthand :=
  match c.toLower with
  | 'd' => some .digit
  | 's' => some .space
  | 'w' => some .word
  | _ => none

/-- The value of a hexadecimal digit. -/
def hexDigit? (c : Char) : Option Nat :=
  if c.isDigit then some (c.toNat - '0'.toNat)
  else if 'a' ≤ c && c ≤ 'f' then some (c.toNat - 'a'.toNat + 10)
  else if 'A' ≤ c && c ≤ 'F' then some (c.toNat - 'A'.toNat + 10)
  else none

/-- The character whose number is written in hexadecimal digits, if there is one. -/
def hexChar? (digits : List Char) : Option Char :=
  let code := digits.foldl (fun value c => 16 * value + (hexDigit? c).getD 0) 0
  if code.isValidChar then some (Char.ofNat code) else none

end Escape

namespace Reader

/-- Fails unless a character, which is the next one, is a hexadecimal digit. -/
def checkHexDigit (c : Char) : Reader Unit := do
  if (Escape.hexDigit? c).isNone then fail .hexDigit (← charSpan)

/-- Reads a number of hexadecimal digits. -/
def hexDigits : Nat → Reader (List Char)
  | 0 => return []
  | count + 1 => do
    match ← peek with
    | none => fail .escapeUnfinished (.point (← position))
    | some c =>
      checkHexDigit c
      advance
      return c :: (← hexDigits count)

/-- Reads up to a closing brace or the end of the pattern, from the opening brace on,
at most `limit` characters. -/
def braced (check : Char → Reader Unit) : Nat → Reader (List Char)
  | 0 => return []
  | limit + 1 => do
    advance
    match ← peek with
    | none => return []
    | some c =>
      if c = '}' then return []
      check c
      return c :: (← braced check limit)

/-- Reads characters as long as they satisfy `p`, at most `limit` of them. -/
def charsWhile (p : Char → Bool) : Nat → Reader (List Char)
  | 0 => return []
  | limit + 1 => do
    match ← peek with
    | none => return []
    | some c =>
      if p c then
        advance
        return c :: (← charsWhile p limit)
      else return []

/-- How many characters can still be read. -/
def remaining : Reader Nat := do
  return (← get).rest.length

/-- Reads a character by its number, in so many digits or between braces. -/
def hexLiteral (start : Position) (count : Nat) : Reader Literal := do
  advance
  unlessEnd .escapeUnfinished (Span.point <$> position)
  let first ← position
  if (← peek) = some '{' then
    let inside := (← charSpan).stop
    let digits ← braced checkHexDigit (← remaining)
    unlessEnd .escapeUnfinished (spanFrom first)
    let span ← spanFrom inside
    advance
    if digits.isEmpty then fail .hexEmpty (← spanFrom first)
    match Escape.hexChar? digits with
    | some char => return { span := ← spanFrom start, char }
    | none => fail .hexValue span
  else
    let digits ← hexDigits count
    match Escape.hexChar? digits with
    | some char => return { span := ← spanFrom start, char, isByte := count == 2 }
    | none => fail .hexValue (← spanFrom first)

/-- What stands before and behind the first occurrence of a separator. -/
def cut? (separator : List Char) : List Char → Option (List Char × List Char)
  | [] => none
  | c :: rest =>
    match after? separator (c :: rest) with
    | some more => some ([], more)
    | none => (cut? separator rest).map fun (before, more) => (c :: before, more)

/-- The property that a text in braces asks for. -/
def propertyQuery (text : List Char) : PropertyQuery :=
  match (cut? ['!', '='] text).or ((cut? [':'] text).or (cut? ['='] text)) with
  | some (name, value) => .valued name value
  | none => .named text

/-- Reads a property by one letter or between braces. -/
def property (start : Position) (negated : Bool) : Reader NamedClass := do
  advance
  unlessEnd .escapeUnfinished (Span.point <$> position)
  match ← peek with
  | some '{' =>
    let text ← braced (fun _ => pure ()) (← remaining)
    unlessEnd .escapeUnfinished (Span.point <$> position)
    bump
    return ⟨← spanFrom start, negated, .property (propertyQuery text)⟩
  | c =>
    if c = some '\\' then fail .propertySyntax (← charSpan)
    advance
    return ⟨← spanFrom start, negated, .property (.named c.toList)⟩

/-- The characters of the names of places at words. -/
def isBoundaryChar (c : Char) : Bool :=
  c.isAlpha || c == '-'

/-- The place at a word that has a name. -/
def namedBoundary? (name : String) : Option Anchor :=
  match name with
  | "start" => some .wordStart
  | "end" => some .wordEnd
  | "start-half" => some .wordStartHalf
  | "end-half" => some .wordEndHalf
  | _ => none

/-- Reads the name in braces behind a word boundary. Braces that cannot hold a name are
left for a repetition. -/
def boundary (start : Position) : Reader Anchor := do
  if (← peek) ≠ some '{' then return .boundary
  let brace ← get
  advance
  match ← peek with
  | none => fail .boundaryUnfinished (← spanFrom start)
  | some c =>
    if !isBoundaryChar c then
      set brace
      return .boundary
    let first ← position
    let name ← charsWhile isBoundaryChar (← remaining)
    if (← peek) ≠ some '}' then fail .boundaryUnclosed (← spanFrom brace.position)
    let span ← spanFrom first
    bump
    match namedBoundary? (String.ofList name) with
    | some kind => return kind
    | none => fail .boundaryUnknown span

/-- Reads a place at a letter behind a backslash. -/
def anchor (start : Position) (kind : Anchor) : Reader Atom := do
  bump
  let kind ← if kind = .boundary then boundary start else pure kind
  return .anchor (← spanFrom start) kind

/-- Reads a backslash and what belongs to it. -/
def escape : Reader Atom := do
  let start ← position
  bump
  match ← peek with
  | none => fail .escapeUnfinished (← spanFrom start)
  | some c =>
    if c.isDigit then fail .backreference ⟨start, (← charSpan).stop⟩
    else if c = 'x' then return .literal (← hexLiteral start 2)
    else if c = 'u' then return .literal (← hexLiteral start 4)
    else if c = 'U' then return .literal (← hexLiteral start 8)
    else if c = 'p' || c = 'P' then return .named (← property start (c == 'P'))
    else
      match Escape.shorthand? c, Escape.anchor? c, Escape.named? c with
      | some kind, _, _ =>
        bump
        return .named ⟨← spanFrom start, c.isUpper, .shorthand kind⟩
      | none, some kind, _ => anchor start kind
      | none, none, named =>
        bump
        let span ← spanFrom start
        if Escape.isPlain c then return .literal { span, char := c }
        match named with
        | some char => return .literal { span, char }
        | none => fail .escapeUnknown span

/-- Reads a character as itself, or an escape. -/
def escapeOrLiteral : Reader Atom := do
  let span ← charSpan
  match ← peek with
  | none => fail .escapeUnfinished span
  | some c =>
    if c = '\\' then escape
    else
      bump
      return .literal { span, char := c }

/-- Reads an atom outside of brackets. -/
def atom : Reader Atom := do
  let span ← charSpan
  match ← peek with
  | some '.' => bump; return .dot span
  | some '^' => bump; return .anchor span .lineStart
  | some '$' => bump; return .anchor span .lineEnd
  | _ => escapeOrLiteral

end Reader

end MemoStore.Pattern
