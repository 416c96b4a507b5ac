import MemoStore.Pattern.CharSet

/-!
# Patterns

A pattern is made of sets of characters and conditions on places, in sequence, as
alternatives and repeated. It is found in a text if some stretch of the text fits it.

A set of places in a text is held in the bits of a number, the place before the first
character in the lowest bit. For every set of places a pattern yields the set of those
where a stretch that begins at one of them can end, so all ways to fit are followed at
once, and how often a repetition is counted makes no difference once nothing changes.
-/

namespace MemoStore

open MemoStore.Text

/-- A pattern over sets of characters and conditions on places. -/
inductive Pattern (σ π : Type) where
  | empty
  | one (set : σ)
  | place (condition : π)
  | sequence (first second : Pattern σ π)
  | choice (first second : Pattern σ π)
  | repeated (least : Nat) (most : Option Nat) (inner : Pattern σ π)
  deriving DecidableEq, Repr

namespace Pattern

/-- The pattern with other sets and conditions. -/
def map {σ π σ' π' : Type} (f : σ → σ') (g : π → π') : Pattern σ π → Pattern σ' π'
  | .empty => .empty
  | .one set => .one (f set)
  | .place condition => .place (g condition)
  | .sequence first second => .sequence (first.map f g) (second.map f g)
  | .choice first second => .choice (first.map f g) (second.map f g)
  | .repeated least most inner => .repeated least most (inner.map f g)

/-- A condition on the place between two characters. -/
structure Condition where
  anchor : Anchor
  multiLine : Bool := false
  crlf : Bool := false
  wide : Bool := true
  deriving DecidableEq, Repr

namespace Condition

/-- Whether a line begins behind `before` and in front of `after`. -/
def beginsLine (crlf : Bool) (before after : Option Char) : Bool :=
  before == some '\n' || (crlf && before == some '\r' && after != some '\n')

/-- Whether a line ends behind `before` and in front of `after`. -/
def endsLine (crlf : Bool) (before after : Option Char) : Bool :=
  if crlf then after == some '\r' || (after == some '\n' && before != some '\r')
  else after == some '\n'

/-- Whether there is a word character. -/
def inWord (wide : Bool) (c : Option Char) : Bool :=
  c.any fun c => if wide then isWord c else c.isAlphanum || c == '_'

/-- Whether a condition holds between two characters, or at an end of the text. -/
def holds (condition : Condition) (before after : Option Char) : Bool :=
  let inside := inWord condition.wide
  match condition.anchor with
  | .textStart => before.isNone
  | .textEnd => after.isNone
  | .lineStart =>
    before.isNone || (condition.multiLine && beginsLine condition.crlf before after)
  | .lineEnd => after.isNone || (condition.multiLine && endsLine condition.crlf before after)
  | .boundary => inside before != inside after
  | .noBoundary => inside before == inside after
  | .wordStart => !inside before && inside after
  | .wordEnd => inside before && !inside after
  | .wordStartHalf => !inside before
  | .wordEndHalf => !inside after

end Condition

/-- Sets of places in a text. -/
abbrev Places := Nat

namespace Places

/-- The places before the characters of a set. -/
def beforeSet (set : CharSet) : List Char → Places
  | [] => 0
  | c :: rest => 2 * beforeSet set rest + (set.contains c).toNat

/-- The places at which a condition holds, in a text that stands behind `before`. -/
def ofCondition (condition : Condition) (before : Option Char) : List Char → Places
  | [] => (condition.holds before none).toNat
  | c :: rest =>
    2 * ofCondition condition (some c) rest + (condition.holds before (some c)).toNat

/-- All places in a text. -/
def all (text : List Char) : Places :=
  Nat.pow 2 (text.length + 1) - 1

/-- The places that are reached from some places by `limit` steps. -/
def iterate (step : Places → Places) : Nat → Places → Places
  | 0, places => places
  | limit + 1, places =>
    let next := step places
    if next = places then places else iterate step limit next

/-- The places that are reached from some places by at most `limit` steps. -/
def spread (step : Places → Places) : Nat → Places → Places
  | 0, places => places
  | limit + 1, places =>
    let next := places ||| step places
    if next = places then places else spread step limit next

end Places

/-- The places where stretches of a text can end that fit a pattern and begin at one of
some places. The sets and conditions of the pattern are given by the places in the text
before their characters and at which they hold; `size` is at least the number of places. -/
def ends (size : Nat) : Pattern Places Places → Places → Places
  | .empty, places => places
  | .one set, places => 2 * (places &&& set)
  | .place condition, places => places &&& condition
  | .sequence first second, places => second.ends size (first.ends size places)
  | .choice first second, places => first.ends size places ||| second.ends size places
  | .repeated least most inner, places =>
    let extra :=
      match most with
      | some most => most - least
      | none => size
    Places.spread (inner.ends size) extra (Places.iterate (inner.ends size) least places)

/-- Whether a pattern is found in a text. -/
def isFoundIn (pattern : Pattern CharSet Condition) (text : List Char) : Bool :=
  let prepared :=
    pattern.map (Places.beforeSet · text) (Places.ofCondition · none text)
  prepared.ends (text.length + 1) (Places.all text) != 0

end Pattern

end MemoStore
