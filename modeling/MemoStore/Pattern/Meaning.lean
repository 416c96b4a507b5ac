import MemoStore.Pattern.Basic
import MemoStore.Pattern.Fault

/-!
# Meanings of written patterns

The pattern that a written one stands for. Flags say how its parts are meant: whether
the case of letters counts, where lines begin and end, what the dot stands for, and
whether characters beyond ASCII are in classes. Without those only ASCII characters can
be meant by a class, so all other characters of a class cannot be asked for.
-/

namespace MemoStore.Pattern

/-- How parts of a pattern are meant. -/
structure Mode where
  caseless : Bool := false
  multiLine : Bool := false
  dotNewline : Bool := false
  crlf : Bool := false
  wide : Bool := true
  deriving DecidableEq, Repr

namespace Mode

/-- The mode with a flag switched on or off. Flags without an effect on what is found are
left out. -/
def set (mode : Mode) : Flag × Bool → Mode
  | (.caseless, on) => { mode with caseless := on }
  | (.multiLine, on) => { mode with multiLine := on }
  | (.dotNewline, on) => { mode with dotNewline := on }
  | (.crlf, on) => { mode with crlf := on }
  | (.wide, on) => { mode with wide := on }
  | (.swapGreed, _) | (.spaced, _) => mode

/-- The mode with several flags switched on or off. -/
def setAll (mode : Mode) (flags : Flags) : Mode :=
  flags.foldl set mode

/-- A set with the other forms of its letters, if case does not count. -/
def fold (mode : Mode) (set : CharSet) : CharSet :=
  if mode.caseless then if mode.wide then .anyCase set else .asciiCase set else set

/-- A set, or all other characters. -/
def negate (mode : Mode) (span : Span) (negated : Bool) (set : CharSet) :
    Except Fault CharSet :=
  if !negated then .ok set
  else if mode.wide then .ok (.others set)
  else .error { cause := .invalidUtf8, span }

end Mode

/-- Checks that a character is not meant to be a byte that is no character. -/
def Literal.check (mode : Mode) (literal : Literal) : Except Fault Unit :=
  if !mode.wide && literal.isByte && 128 ≤ literal.char.toNat then
    .error { cause := .invalidUtf8, span := literal.span }
  else .ok ()

/-- The character that is meant as a member of a class. -/
def Literal.inClass (mode : Mode) (literal : Literal) : Except Fault Char := do
  literal.check mode
  if !mode.wide && 128 ≤ literal.char.toNat then
    throw { cause := .unicodeNotAllowed, span := literal.span }
  return literal.char

/-- The set that is meant by a class with a name. -/
def NamedClass.set (mode : Mode) (cls : NamedClass) : Except Fault CharSet :=
  match cls.name with
  | .shorthand kind =>
    let set := if mode.wide then kind.set else .ofRanges kind.asciiClass.ranges
    mode.negate cls.span cls.negated set
  | .ascii kind => mode.negate cls.span cls.negated (mode.fold (.ofRanges kind.ranges))
  | .property query =>
    if mode.wide then
      match query.find with
      | .ok set => mode.negate cls.span cls.negated (mode.fold set)
      | .error cause => .error { cause, span := cls.span }
    else .error { cause := .unicodeNotAllowed, span := cls.span }

mutual

/-- The set that is meant by a member of a class. -/
def Member.set (mode : Mode) : Member → Except Fault CharSet
  | .nothing _ => .ok .nothing
  | .literal char => do return .single (← char.inClass mode)
  | .range first last => do return .range (← first.inClass mode) (← last.inClass mode)
  | .named cls => cls.set mode
  | .bracketed span negated inner => do
    mode.negate span negated (mode.fold (← inner.set mode))
  | .all _ members => Member.union mode members
  | .combined _ op left right => do
    let left ← left.set mode
    let right ← right.set mode
    return .combined op (mode.fold left) (mode.fold right)

/-- The set that is meant by several members. -/
def Member.union (mode : Mode) : List Member → Except Fault CharSet
  | [] => .ok .nothing
  | member :: rest => do
    let set ← member.set mode
    return .union set (← Member.union mode rest)

end

/-- The characters that a dot stands for. -/
def Mode.dot (mode : Mode) : CharSet :=
  if mode.dotNewline then .everything
  else if mode.crlf then .others (.ofRanges [('\n', '\n'), ('\r', '\r')])
  else .others (.single '\n')

/-- The pattern that is meant by an atom. -/
def Atom.meaning (mode : Mode) : Atom → Except Fault (Pattern CharSet Condition)
  | .literal char => do
    char.check mode
    return .one (mode.fold (.single char.char))
  | .dot span =>
    if mode.wide then .ok (.one mode.dot) else .error { cause := .invalidUtf8, span }
  | .anchor _ kind => .ok (.place ⟨kind, mode.multiLine, mode.crlf, mode.wide⟩)
  | .named cls => do return .one (← cls.set mode)

/-- Finds what is meant by parts of a pattern. Flags change the mode on the way. -/
abbrev Meaning := StateT Mode (Except Fault)

mutual

/-- The pattern that is meant by a part. -/
def Node.meaning : Node → Meaning (Pattern CharSet Condition)
  | .empty _ => return .empty
  | .flags _ changes => do
    modify (·.setAll changes)
    return .empty
  | .atom part => do part.meaning (← get)
  | .bracketed span negated members => do
    let mode ← get
    let set ← members.set mode
    return .one (← mode.negate span negated (mode.fold set))
  | .repetition _ least most inner => do return .repeated least most (← inner.meaning)
  | .group _ changes inner => do
    let outside ← get
    set (outside.setAll changes)
    let pattern ← inner.meaning
    set outside
    return pattern
  | .alternatives _ branches => do
    match ← Node.meanings branches with
    | [] => return .empty
    | first :: rest => return rest.foldl .choice first
  | .sequence _ nodes => do
    return (← Node.meanings nodes).foldr .sequence .empty

/-- The patterns that are meant by several parts, one after the other. -/
def Node.meanings : List Node → Meaning (List (Pattern CharSet Condition))
  | [] => return []
  | node :: rest => do
    let pattern ← node.meaning
    return pattern :: (← Node.meanings rest)

end

end MemoStore.Pattern
