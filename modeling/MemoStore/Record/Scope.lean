/-!
# Tag scopes

A tag is official and then has no owner, or it is personal and has exactly one. The
scope is that rule as a type; the pair of columns that stores it admits two more
combinations, which have no scope.
-/

namespace MemoStore.Record

/-- Whose tag it is. -/
inductive Scope where
  | official
  | personal (owner : Int)
  deriving DecidableEq, Repr

namespace Scope

/-- The scope that a pair of columns stands for, if it stands for one. -/
def ofColumns? : Bool → Option Int → Option Scope
  | true, none => some .official
  | false, some owner => some (.personal owner)
  | _, _ => none

/-- The flag that a scope is stored with. -/
def isOfficial : Scope → Bool
  | .official => true
  | .personal _ => false

/-- The owner that a scope is stored with. -/
def owner : Scope → Option Int
  | .official => none
  | .personal owner => some owner

@[simp] theorem ofColumns?_columns (scope : Scope) :
    ofColumns? scope.isOfficial scope.owner = some scope := by
  cases scope <;> rfl

theorem ofColumns?_eq_some_iff {isOfficial : Bool} {owner : Option Int} {scope : Scope} :
    ofColumns? isOfficial owner = some scope ↔
      isOfficial = scope.isOfficial ∧ owner = scope.owner := by
  constructor
  · intro found
    cases isOfficial <;> cases owner <;> simp_all [ofColumns?] <;> subst found <;>
      exact ⟨rfl, rfl⟩
  · rintro ⟨rfl, rfl⟩
    exact ofColumns?_columns scope

end Scope

end MemoStore.Record
