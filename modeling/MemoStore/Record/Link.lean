import MemoStore.Record.Entity

/-!
# Links between entities

A link names a column of one entity that equals a column of another. The side that
holds the foreign key belongs to the other side; the other side owns many. Two
entities without a column in common are linked through a third one.
-/

namespace MemoStore.Record

/-- How many records a link leads to. -/
inductive Arity where
  | one
  | many
  deriving DecidableEq, Repr

/-- The description of an arity. -/
def Arity.label : Arity → String
  | .one => "HasOne"
  | .many => "HasMany"

/-- What happens to a record when the one that it belongs to changes. -/
inductive Action where
  | cascade
  | noAction
  deriving DecidableEq, Repr

/-- The description of an action. -/
def Action.label : Action → String
  | .cascade => "Cascade"
  | .noAction => "NoAction"

/-- A link from one entity to another. -/
structure Link where
  arity : Arity
  source : Entity
  sourceColumn : String
  target : Entity
  targetColumn : String
  isOwner : Bool
  onDelete : Option Action
  onUpdate : Option Action
  deriving DecidableEq, Repr

namespace Link

/-- The link of an entity that holds a foreign key to the entity it refers to. -/
def belongsTo (source : Entity) (column : String) (target : Entity) : Link where
  arity := .one
  source := source
  sourceColumn := column
  target := target
  targetColumn := Entity.key.name
  isOwner := false
  onDelete := some .cascade
  onUpdate := some .noAction

/-- The same link from the other side, as a link to many. -/
def owns (source target : Entity) (column : String) : Link where
  arity := .many
  source := source
  sourceColumn := Entity.key.name
  target := target
  targetColumn := column
  isOwner := true
  onDelete := none
  onUpdate := none

/-- The link read backwards: the sides change places and with them the ownership. -/
def reverse (link : Link) : Link :=
  { link with
    source := link.target
    sourceColumn := link.targetColumn
    target := link.source
    targetColumn := link.sourceColumn
    isOwner := !link.isOwner }

@[simp] theorem reverse_reverse (link : Link) : link.reverse.reverse = link := by
  cases link
  simp [reverse]

end Link

/-- The link from a memo to the user who wrote it. -/
def memoOwner : Link := .belongsTo .memo "user_id" .user

/-- The link from a tag to the user who owns it. -/
def tagOwner : Link := .belongsTo .tag "user_id" .user

/-- The link from an attachment to its memo. -/
def attachedMemo : Link := .belongsTo .attachment "memo_id" .memo

/-- The link from an attachment to its tag. -/
def attachedTag : Link := .belongsTo .attachment "tag_id" .tag

namespace Entity

/-- The declared links of an entity, with their names. -/
def links : Entity → List (String × Link)
  | .user => [("Memo", .owns .user .memo "user_id"), ("Tag", .owns .user .tag "user_id")]
  | .memo => [("User", memoOwner), ("MemoTagRelation", .owns .memo .attachment "memo_id")]
  | .tag => [("User", tagOwner), ("MemoTagRelation", .owns .tag .attachment "tag_id")]
  | .attachment => [("Memo", attachedMemo), ("Tag", attachedTag)]

end Entity

/-- How one entity reaches another: a link into the target and, when the target is
reached through a third entity, the link from the source into that one. -/
structure Route where
  last : Link
  via : Option Link
  deriving DecidableEq, Repr

/-- The route between two entities. A memo and a tag meet in their attachments. -/
def route? : Entity → Entity → Option Route
  | .user, .memo => some ⟨.owns .user .memo "user_id", none⟩
  | .user, .tag => some ⟨.owns .user .tag "user_id", none⟩
  | .memo, .user => some ⟨memoOwner, none⟩
  | .memo, .attachment => some ⟨.owns .memo .attachment "memo_id", none⟩
  | .memo, .tag => some ⟨attachedTag, some attachedMemo.reverse⟩
  | .tag, .user => some ⟨tagOwner, none⟩
  | .tag, .attachment => some ⟨.owns .tag .attachment "tag_id", none⟩
  | .tag, .memo => some ⟨attachedMemo, some attachedTag.reverse⟩
  | .attachment, .memo => some ⟨attachedMemo, none⟩
  | .attachment, .tag => some ⟨attachedTag, none⟩
  | _, _ => none

end MemoStore.Record
