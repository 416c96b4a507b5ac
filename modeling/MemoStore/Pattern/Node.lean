import MemoStore.Pattern.Fault

/-!
# Parts of patterns

A pattern as it is written: characters, classes of characters, places, repetitions,
groups, alternatives, and flags that change what follows. Parts that can be nested keep
the place they stand at.
-/

namespace MemoStore.Pattern

/-- What can be switched on and off inside a pattern. -/
inductive Flag where
  /-- letters match in either case -/
  | caseless
  /-- line anchors match at all lines -/
  | multiLine
  /-- the dot matches a line feed -/
  | dotNewline
  /-- repetitions prefer to be short -/
  | swapGreed
  /-- classes go beyond ASCII -/
  | wide
  /-- a carriage return ends a line -/
  | crlf
  /-- blanks and comments are skipped -/
  | spaced
  deriving DecidableEq, Repr

/-- The letter of a flag. -/
def Flag.ofChar? : Char → Option Flag
  | 'i' => some .caseless
  | 'm' => some .multiLine
  | 's' => some .dotNewline
  | 'U' => some .swapGreed
  | 'u' => some .wide
  | 'R' => some .crlf
  | 'x' => some .spaced
  | _ => none

/-- Flags with what they are switched to. -/
abbrev Flags := List (Flag × Bool)

/-- Conditions on the place between two characters, as they are written. -/
inductive Anchor where
  | lineStart
  | lineEnd
  | textStart
  | textEnd
  | boundary
  | noBoundary
  | wordStart
  | wordEnd
  | wordStartHalf
  | wordEndHalf
  deriving DecidableEq, Repr

/-- A single character. One that is written by the two digits of a byte can stand for the
byte. -/
structure Literal where
  span : Span
  char : Char
  isByte : Bool := false
  deriving DecidableEq, Repr

/-- The classes of characters that a letter stands for. -/
inductive Shorthand where
  | digit
  | space
  | word
  deriving DecidableEq, Repr

/-- A property by its name, or by its name and its value. -/
inductive PropertyQuery where
  | named (name : List Char)
  | valued (name value : List Char)
  deriving DecidableEq, Repr

/-- The classes of ASCII characters with names in brackets. -/
inductive AsciiClass where
  | alnum
  | alpha
  | ascii
  | blank
  | cntrl
  | digit
  | graph
  | lower
  | print
  | punct
  | space
  | upper
  | word
  | xdigit
  deriving DecidableEq, Repr

namespace AsciiClass

/-- The classes with their names. -/
def names : List (String × AsciiClass) :=
  [("alnum", .alnum), ("alpha", .alpha), ("ascii", .ascii), ("blank", .blank),
   ("cntrl", .cntrl), ("digit", .digit), ("graph", .graph), ("lower", .lower),
   ("print", .print), ("punct", .punct), ("space", .space), ("upper", .upper),
   ("word", .word), ("xdigit", .xdigit)]

/-- The class with a name. -/
def ofName? (name : List Char) : Option AsciiClass :=
  (names.find? fun entry => entry.1.toList == name).map Prod.snd

end AsciiClass

/-- A class of characters by its name. -/
inductive ClassName where
  | shorthand (kind : Shorthand)
  | property (query : PropertyQuery)
  | ascii (kind : AsciiClass)
  deriving DecidableEq, Repr

/-- A class of characters with a name, or all other characters. -/
structure NamedClass where
  span : Span
  negated : Bool
  name : ClassName
  deriving DecidableEq, Repr

/-- The smallest parts of a pattern. -/
inductive Atom where
  | literal (char : Literal)
  | dot (span : Span)
  | anchor (span : Span) (kind : Anchor)
  | named (cls : NamedClass)
  deriving DecidableEq, Repr

/-- Where an atom stands. -/
def Atom.span : Atom → Span
  | .literal char => char.span
  | .dot span => span
  | .anchor span _ => span
  | .named cls => cls.span

/-- The operations on classes. -/
inductive SetOp where
  /-- the characters in both -/
  | both
  /-- those of the first without those of the second -/
  | without
  /-- those in one of the two but not in both -/
  | either
  deriving DecidableEq, Repr

/-- The members of a class in brackets. -/
inductive Member where
  | nothing (span : Span)
  | literal (char : Literal)
  | range (first last : Literal)
  | named (cls : NamedClass)
  | bracketed (span : Span) (negated : Bool) (inner : Member)
  | all (span : Span) (members : List Member)
  | combined (span : Span) (op : SetOp) (left right : Member)
  deriving Repr

namespace Member

/-- Where a member stands. -/
def span : Member → Span
  | .nothing span => span
  | .literal char => char.span
  | .range first last => ⟨first.span.start, last.span.stop⟩
  | .named cls => cls.span
  | .bracketed span _ _ => span
  | .all span _ => span
  | .combined span _ _ _ => span

/-- Several members as one; without any, they are nothing at a place. -/
def ofList (place : Position) : List Member → Member
  | [] => .nothing (.point place)
  | [member] => member
  | member :: rest =>
    .all ⟨member.span.start, (rest.getLast?.getD member).span.stop⟩ (member :: rest)

end Member

/-- A pattern, or a part of it. -/
inductive Node where
  | empty (span : Span)
  | flags (span : Span) (flags : Flags)
  | atom (part : Atom)
  | bracketed (span : Span) (negated : Bool) (members : Member)
  | repetition (span : Span) (least : Nat) (most : Option Nat) (inner : Node)
  | group (span : Span) (flags : Flags) (inner : Node)
  | alternatives (span : Span) (branches : List Node)
  | sequence (span : Span) (nodes : List Node)
  deriving Repr

namespace Node

/-- Where a part stands. -/
def span : Node → Span
  | .empty span => span
  | .flags span _ => span
  | .atom part => part.span
  | .bracketed span _ _ => span
  | .repetition span _ _ _ => span
  | .group span _ _ => span
  | .alternatives span _ => span
  | .sequence span _ => span

/-- Parts that follow each other as one. -/
def ofList (span : Span) : List Node → Node
  | [] => .empty span
  | [node] => node
  | nodes => .sequence span nodes

/-- Alternatives as one part. -/
def ofBranches (span : Span) : List Node → Node
  | [] => .empty span
  | [node] => node
  | branches => .alternatives span branches

/-- Whether a part cannot be repeated. -/
def isUnrepeatable : Node → Bool
  | .empty _ | .flags _ _ => true
  | _ => false

end Node

end MemoStore.Pattern
