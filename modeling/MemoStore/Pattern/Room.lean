import MemoStore.Pattern.Basic

/-!
# Room for patterns

A pattern that is repeated often needs much room before it can be looked for, and one
that needs too much is refused. The room of a part is counted in bytes. It is exact for
sequences of single characters and for the larger classes, and near enough elsewhere
that repetitions by powers of ten fall on the right side.
-/

namespace MemoStore.Pattern

/-- The largest room that a pattern may need. -/
def roomLimit : Nat := 10485760

/-- The text about a pattern that needs too much room. -/
def roomMessage : String :=
  "Compiled regex exceeds size limit of " ++ toString roomLimit ++ " bytes."

namespace CharSet

/-- The room of a set of characters that is no single one. -/
def room : CharSet → Nat
  | .nothing => 0
  | .range _ last => if last.toNat < 128 then 40 else 200
  | .word => 49804
  | .blank => 648
  | .property named => 64 * named.ranges.length + 5000 * named.categories.length
  | .script _ => 2000
  | .union left right => left.room + right.room
  | .combined _ left right => max left.room right.room
  | .others set => set.room + 928
  | .anyCase set | .asciiCase set => set.room + 8

end CharSet

/-- Whether a stretch that fits a pattern can hold a character. -/
def canConsume : Pattern CharSet Condition → Bool
  | .empty | .place _ => false
  | .one _ => true
  | .sequence first second | .choice first second => first.canConsume || second.canConsume
  | .repeated _ most inner => most != some 0 && inner.canConsume

/-- The room of a pattern. What holds no character is not repeated. -/
def room : Pattern CharSet Condition → Nat
  | .empty => 0
  | .one (.range first last) =>
    if first = last then 32 * first.utf8Size else 32 + (CharSet.range first last).room
  | .one set => 32 + set.room
  | .place _ => 32
  | .sequence first second => first.room + second.room
  | .choice first second => first.room + second.room + 40
  | .repeated least most inner =>
    let once := inner.room
    match most with
    | some 0 => 0
    | some most =>
      if inner.canConsume then least * once + (most - least) * (once + 40) else once
    | none => if inner.canConsume then max least 1 * once + 40 else once

end MemoStore.Pattern
