import MemoStore.Pattern.Node

/-!
# Nesting of patterns

Groups, repetitions, classes, alternatives and sequences may be nested only so deep. The
part that is found to be too deep is the first one in the order of the pattern.
-/

namespace MemoStore.Pattern

mutual

/-- The first part of a member that is nested too deep, inside of `depth` others. -/
def Member.tooDeep? (depth : Nat) : Member → Option Span
  | .bracketed span _ inner =>
    if nestLimit ≤ depth then some span else inner.tooDeep? (depth + 1)
  | .all span members =>
    if nestLimit ≤ depth then some span else Member.firstTooDeep? (depth + 1) members
  | .combined span _ left right =>
    if nestLimit ≤ depth then some span
    else (left.tooDeep? (depth + 1)).or (right.tooDeep? (depth + 1))
  | _ => none

/-- The first part of some members that is nested too deep. -/
def Member.firstTooDeep? (depth : Nat) : List Member → Option Span
  | [] => none
  | member :: rest => (member.tooDeep? depth).or (Member.firstTooDeep? depth rest)

end

mutual

/-- The first part of a part that is nested too deep, inside of `depth` others. -/
def Node.tooDeep? (depth : Nat) : Node → Option Span
  | .bracketed span _ members =>
    if nestLimit ≤ depth then some span else members.tooDeep? (depth + 1)
  | .repetition span _ _ inner | .group span _ inner =>
    if nestLimit ≤ depth then some span else inner.tooDeep? (depth + 1)
  | .alternatives span nodes | .sequence span nodes =>
    if nestLimit ≤ depth then some span else Node.firstTooDeep? (depth + 1) nodes
  | _ => none

/-- The first part of some parts that is nested too deep. -/
def Node.firstTooDeep? (depth : Nat) : List Node → Option Span
  | [] => none
  | node :: rest => (node.tooDeep? depth).or (Node.firstTooDeep? depth rest)

end

/-- Checks that no part of a pattern is nested too deep. -/
def Node.checkDepth (node : Node) : Except Fault Unit :=
  match node.tooDeep? 0 with
  | some span => .error { cause := .nestedTooDeep, span }
  | none => .ok ()

end MemoStore.Pattern
