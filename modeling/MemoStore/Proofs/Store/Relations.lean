import Mathlib.Data.List.Nodup
import MemoStore.Proofs.Store.Variants

/-!
# Related rows

What is found from a stored row along the links, in every reachable database. A link leads from a
row to the one that it refers to, and back to all those that refer to it. Memos and tags meet in
their attachments, once for each of them, so what is found there is counted: `related_through`
says how often a route through a third table leads to a row. `Reachable.relations` collects what is
found along every route between users, memos, tags and attachments.
-/

namespace MemoStore.Store

open MemoStore.Record (Entity Link Scope memoOwner tagOwner attachedMemo attachedTag)
open MemoStore.Schema (Variant)
open MemoStore.Time (Instant)

/-! ## Joined rows -/

/-- Every row has its key in the key column. -/
theorem Row.keyColumn?_key (row : Row) : row.keyColumn? Entity.key.name = some row.key := by
  cases row <;> rfl

/-- A link from a foreign key joins a row to those whose key it holds. -/
theorem joins_belongsTo {source target : Row} {entity other : Entity} {column : String} :
    joins (.belongsTo entity column other) source target = true ↔
      source.keyColumn? column = some target.key := by
  simp only [joins, Link.belongsTo, Row.keyColumn?_key]
  cases source.keyColumn? column <;> simp

/-- A link that is read backwards joins the same rows. -/
theorem joins_reverse (link : Link) (source target : Row) :
    joins link.reverse source target = joins link target source := by
  simp only [joins, Link.reverse]
  cases target.keyColumn? link.sourceColumn <;> cases source.keyColumn? link.targetColumn <;>
    simp [Bool.beq_comm]

/-- A link to many joins a row to those that hold its key. -/
theorem joins_owns {source target : Row} {entity other : Entity} {column : String} :
    joins (.owns entity other column) source target = true ↔
      target.keyColumn? column = some source.key := by
  -- Links to many are not declared as reversed ones, but they name the same columns.
  have same : joins (.owns entity other column) source target =
      joins (.belongsTo other column entity) target source :=
    joins_reverse (.belongsTo other column entity) source target
  rw [same, joins_belongsTo]

/-- What one row is joined to is what satisfies the condition of the join. -/
theorem flatMap_joined {α β : Type} (origin : α) (joined : α → β → Bool) (f : β → Row)
    (rows : List β) :
    (rows.flatMap fun row => ([origin].filter fun origin => joined origin row).map fun _ => f row) =
      (rows.filter (joined origin)).map f := by
  induction rows with
  | nil => rfl
  | cons first rest inductionHypothesis =>
      rw [List.flatMap_cons, inductionHypothesis, List.filter_cons]
      cases chosen : joined origin first <;> simp [chosen]

/-- Rows that are repeated are counted as often. -/
theorem count_flatMap_replicate (row : Row) (times : Row → Nat) (rows : List Row) :
    (rows.flatMap fun row => List.replicate (times row) row).count row =
      rows.count row * times row := by
  induction rows with
  | nil => simp
  | cons first rest inductionHypothesis =>
      rw [List.flatMap_cons, List.count_append, inductionHypothesis, List.count_replicate,
        List.count_cons, Nat.add_mul, Nat.add_comm]
      by_cases same : first = row
      · simp [same]
      · simp [same]

/-- A tag that obeys the owner rule is official without an owner, or personal with one. -/
theorem Tag.scope?_of_ownerRule {tag : Tag} (obeys : ownerRule tag.isOfficial tag.userId = true) :
    tag.scope? = some (tag.userId.elim .official .personal) := by
  rcases ownerRule_iff.mp obeys with ⟨official, unowned⟩ | ⟨personal, owner, owned⟩
  · rw [Tag.scope?, official, unowned]
    rfl
  · rw [Tag.scope?, personal, owned]
    rfl

namespace Database

variable {variant : Variant} {db : Database}

/-! ## Rows of a table -/

/-- The rows of a table are the stored rows of its entity. -/
theorem mem_rows {kind : Entity} {row : Row} :
    row ∈ (db.rows? kind).getD [] ↔ db.Stored row ∧ row.entity = kind := by
  constructor
  · intro member
    obtain rfl := entity_of_mem member
    exact ⟨member, rfl⟩
  · rintro ⟨stored, rfl⟩
    exact stored

/-- A table with distinct keys has no row twice. -/
private theorem nodup_map {α : Type} [Keyed α] {table : Table α} {wrap : α → Row}
    (distinct : table.DistinctKeys) (injective : Function.Injective wrap) :
    (table.rows.map wrap).Nodup :=
  List.Nodup.map injective (distinct.imp fun different same => different (congrArg Keyed.key same))

/-- A sound database stores no row twice. -/
theorem Sound.nodup_rows (sound : db.Sound variant) (kind : Entity) :
    ((db.rows? kind).getD []).Nodup := by
  cases kind with
  | user =>
      rw [rows?, users_of_has (sound.complete.tables .user)]
      exact nodup_map sound.userKeys fun _ _ => Row.user.inj
  | memo =>
      obtain ⟨memos, stored, same⟩ := memos_of_has (sound.complete.tables .memo)
      rw [rows?, stored]
      exact nodup_map (same ▸ sound.memoKeys) fun _ _ => Row.memo.inj
  | tag =>
      obtain ⟨tags, stored, same⟩ := tags_of_has (sound.complete.tables .tag)
      rw [rows?, stored]
      exact nodup_map (same ▸ sound.tagKeys) fun _ _ => Row.tag.inj
  | attachment =>
      rw [rows?, attachments_of_has (sound.complete.tables .attachment)]
      exact nodup_map sound.attachmentKeys fun _ _ => Row.attachment.inj

/-- What is read of a table are its rows, in another order. -/
theorem list_perm {kind : Entity} {rows : List Row} (listed : db.list kind = .ok rows) :
    rows.Perm ((db.rows? kind).getD []) := by
  cases table : db.rows? kind with
  | none => simp [Database.list, table] at listed
  | some all =>
      simp only [Database.list, table, Except.ok.injEq] at listed
      exact listed ▸ List.mergeSort_perm all _

/-- A stored row is read of its table once. -/
theorem Sound.count_list (sound : db.Sound variant) {kind : Entity} {rows : List Row}
    (listed : db.list kind = .ok rows) {row : Row} (stored : db.Stored row)
    (belongs : row.entity = kind) : rows.count row = 1 :=
  List.count_eq_one_of_mem ((list_perm listed).nodup_iff.mpr (sound.nodup_rows kind))
    ((list_perm listed).mem_iff.mpr (mem_rows.mpr ⟨stored, belongs⟩))

/-- The only row with the key of a stored one is that one. -/
theorem Sound.filter_key (sound : db.Sound variant) {origin : Row} (stored : db.Stored origin)
    {rows : List Row} (listed : db.list origin.entity = .ok rows) :
    rows.filter (fun row => row.key == origin.key) = [origin] := by
  have same : ∀ row ∈ rows, (row.key == origin.key) = (row == origin) := by
    intro row member
    obtain ⟨rowStored, belongs⟩ := mem_rows.mp ((list_perm listed).mem_iff.mp member)
    rw [Bool.eq_iff_iff, beq_iff_eq, beq_iff_eq]
    exact ⟨sound.stored_eq rowStored stored belongs, congrArg Row.key⟩
  rw [List.filter_congr same, List.filter_beq, sound.count_list listed stored rfl,
    List.replicate_one]

/-! ## Routes -/

/-- What a route leads to are stored rows of the target. -/
theorem stored_of_related {source target : Entity} {route : Record.Route} {id : Int}
    {rows : List Row} (found : db.related source target route id = .ok rows) {row : Row}
    (member : row ∈ rows) : db.Stored row ∧ row.entity = target := by
  obtain ⟨targets, targetsRead, joined⟩ := bind_ok.mp found
  have among : row ∈ targets := by
    cases between : route.via with
    | none =>
        rw [between] at joined
        obtain ⟨sources, -, ⟨⟩⟩ := bind_ok.mp joined
        obtain ⟨other, among, isRow⟩ := List.mem_flatMap.mp member
        obtain ⟨-, -, rfl⟩ := List.mem_map.mp isRow
        exact among
    | some via =>
        rw [between] at joined
        obtain ⟨middles, -, joined⟩ := bind_ok.mp joined
        obtain ⟨sources, -, ⟨⟩⟩ := bind_ok.mp joined
        obtain ⟨other, among, met⟩ := List.mem_flatMap.mp member
        obtain ⟨middle, -, isRow⟩ := List.mem_flatMap.mp met
        obtain ⟨-, -, rfl⟩ := List.mem_map.mp isRow
        exact among
  exact mem_rows.mp ((list_perm targetsRead).mem_iff.mp among)

/-- From a stored row a link leads to the rows of the target that it joins, to each of them
once. -/
theorem Sound.related_direct (sound : db.Sound variant) {origin : Row} (stored : db.Stored origin)
    (target : Entity) (link : Link) :
    ∃ rows, db.related origin.entity target ⟨link, none⟩ origin.key = .ok rows ∧ rows.Nodup ∧
      ∀ row, row ∈ rows ↔ db.Stored row ∧ row.entity = target ∧ joins link origin row = true := by
  obtain ⟨targets, targetsRead⟩ := list_of_complete sound.complete target
  obtain ⟨sources, sourcesRead⟩ := list_of_complete sound.complete origin.entity
  have perm := list_perm targetsRead
  have found : db.related origin.entity target ⟨link, none⟩ origin.key =
      .ok (targets.filter (joins link origin)) := by
    have joined := flatMap_joined origin (joins link) id targets
    rw [List.map_id] at joined
    rw [Database.related, targetsRead, sourcesRead, ← joined, ← sound.filter_key stored sourcesRead]
    rfl
  refine ⟨_, found, (perm.nodup_iff.mpr (sound.nodup_rows target)).filter _, fun row => ?_⟩
  rw [List.mem_filter, perm.mem_iff, mem_rows, and_assoc]

/-- From a stored row a route through a third table leads to each row of the target once for every
row of that table to which both links join them. -/
theorem Sound.related_through (sound : db.Sound variant) {origin : Row} (stored : db.Stored origin)
    (target : Entity) (last via : Link) :
    ∃ rows, db.related origin.entity target ⟨last, some via⟩ origin.key = .ok rows ∧
      ∀ row, db.Stored row → row.entity = target → rows.count row =
        ((db.rows? via.target).getD []).countP fun middle =>
          joins via origin middle && joins last middle row := by
  obtain ⟨targets, targetsRead⟩ := list_of_complete sound.complete target
  obtain ⟨sources, sourcesRead⟩ := list_of_complete sound.complete origin.entity
  obtain ⟨middles, middlesRead⟩ := list_of_complete sound.complete via.target
  let times (row : Row) : Nat :=
    middles.countP fun middle => joins via origin middle && joins last middle row
  -- A row of the target is given again for every row between, as there is one origin only.
  have repeated (row : Row) :
      ((middles.filter fun middle => joins last middle row).flatMap fun middle =>
        ([origin].filter fun origin => joins via origin middle).map fun _ => row) =
      List.replicate (times row) row := by
    rw [flatMap_joined origin (joins via) fun _ => row, List.filter_filter, List.map_const',
      ← List.countP_eq_length_filter]
  have found : db.related origin.entity target ⟨last, some via⟩ origin.key =
      .ok (targets.flatMap fun row => List.replicate (times row) row) := by
    simp only [← repeated]
    rw [Database.related, targetsRead, sourcesRead, ← sound.filter_key stored sourcesRead]
    simp only [middlesRead]
    rfl
  refine ⟨_, found, fun row rowStored belongs => ?_⟩
  rw [count_flatMap_replicate, sound.count_list targetsRead rowStored belongs, Nat.one_mul]
  exact (list_perm middlesRead).countP_eq _

/-- How often a tag is attached to a memo. -/
def attached (db : Database) (memo : Memo) (tag : Tag) : Nat :=
  db.attachmentTable.rows.countP fun attachment =>
    attachment.memoId == memo.id && attachment.tagId == tag.id

end Database

/-! ## What is found -/

namespace Connection

/-- Whether the rows of an entity that are related to a row are these, by the route between the
two. -/
def Finds (connection : Connection) (source : Row) (target : Entity) (rows : List Row) : Prop :=
  ∃ route, Record.route? source.entity target = some route ∧
    connection.related source.entity target route source.key = .ok (some rows)

/-- What is found along the links from the rows of a database. -/
structure Relates (connection : Connection) (db : Database) : Prop where
  /-- What is found is stored, and of the entity that was asked for. -/
  stored : ∀ source target rows, connection.Finds source target rows →
    ∀ row ∈ rows, db.Stored row ∧ row.entity = target
  /-- A memo and a tag find each other once for every attachment of the tag to the memo. -/
  attached : ∀ memo tag, db.Stored (.memo memo) → db.Stored (.tag tag) →
    ∃ tags memos, connection.Finds (.memo memo) .tag tags ∧
      connection.Finds (.tag tag) .memo memos ∧
      tags.count (.tag tag) = db.attached memo tag ∧ memos.count (.memo memo) = db.attached memo tag
  /-- A user finds each memo that they own once. -/
  memos : ∀ user, db.Stored (.user user) →
    ∃ rows, connection.Finds (.user user) .memo rows ∧ rows.Nodup ∧
      ∀ row, row ∈ rows ↔ ∃ memo, row = .memo memo ∧ db.Stored row ∧ memo.userId = user.id
  /-- A user finds each tag in their scope once. -/
  tags : ∀ user, db.Stored (.user user) →
    ∃ rows, connection.Finds (.user user) .tag rows ∧ rows.Nodup ∧
      ∀ row, row ∈ rows ↔
        ∃ tag, row = .tag tag ∧ db.Stored row ∧ tag.scope? = some (.personal user.id)
  /-- A memo finds its owner. -/
  memoOwner : ∀ memo, db.Stored (.memo memo) →
    ∃ user, db.Stored (.user user) ∧ user.id = memo.userId ∧
      connection.Finds (.memo memo) .user [.user user]
  /-- A tag finds its owner if it is personal, and nothing if it is official. -/
  tagOwner : ∀ tag, db.Stored (.tag tag) →
    (tag.scope? = some .official ∧ connection.Finds (.tag tag) .user []) ∨
      ∃ user, db.Stored (.user user) ∧ tag.scope? = some (.personal user.id) ∧
        connection.Finds (.tag tag) .user [.user user]
  /-- A memo finds each of its attachments once. -/
  memoAttachments : ∀ memo, db.Stored (.memo memo) →
    ∃ rows, connection.Finds (.memo memo) .attachment rows ∧ rows.Nodup ∧
      ∀ row, row ∈ rows ↔
        ∃ attachment, row = .attachment attachment ∧ db.Stored row ∧ attachment.memoId = memo.id
  /-- A tag finds each of its attachments once. -/
  tagAttachments : ∀ tag, db.Stored (.tag tag) →
    ∃ rows, connection.Finds (.tag tag) .attachment rows ∧ rows.Nodup ∧
      ∀ row, row ∈ rows ↔
        ∃ attachment, row = .attachment attachment ∧ db.Stored row ∧ attachment.tagId = tag.id
  /-- An attachment finds its memo and its tag. -/
  ends : ∀ attachment, db.Stored (.attachment attachment) →
    ∃ memo tag, db.Stored (.memo memo) ∧ memo.id = attachment.memoId ∧ db.Stored (.tag tag) ∧
      tag.id = attachment.tagId ∧ connection.Finds (.attachment attachment) .memo [.memo memo] ∧
      connection.Finds (.attachment attachment) .tag [.tag tag]

variable {variant : Variant} {connection : Connection} {db : Database} {source : Row}
  {target : Entity} {rows : List Row}

/-- The rows that the database gives along a known route are found. -/
theorem finds_of_related (on : connection.On db) (sound : db.Sound variant)
    (stored : db.Stored source) {route : Record.Route}
    (known : Record.route? source.entity target = some route)
    (found : db.related source.entity target route source.key = .ok rows) :
    connection.Finds source target rows := by
  refine ⟨route, known, ?_⟩
  rw [related, get_on on sound stored, read, on.storage]
  simp only [found]
  rfl

/-- What is found is stored. -/
theorem Finds.stored (found : connection.Finds source target rows) (on : connection.On db)
    {row : Row} (member : row ∈ rows) : db.Stored row ∧ row.entity = target := by
  obtain ⟨route, -, found⟩ := found
  obtain ⟨origin, -, joined⟩ := bind_ok.mp found
  cases origin with
  | none => cases joined
  | some origin =>
      obtain ⟨all, readAll, ⟨⟩⟩ := bind_ok.mp joined
      rw [read, on.storage, mapError_ok] at readAll
      exact Database.stored_of_related readAll member

/-- A row that refers to another one finds that one. -/
theorem finds_referenced (on : connection.On db) (sound : db.Sound variant)
    (stored : db.Stored source) {other : Row} (otherStored : db.Stored other) (column : String)
    (known : Record.route? source.entity other.entity =
      some ⟨.belongsTo source.entity column other.entity, none⟩)
    (refers : source.keyColumn? column = some other.key) :
    connection.Finds source other.entity [other] := by
  obtain ⟨rows, found, nodup, mem_iff⟩ := sound.related_direct stored other.entity
    (.belongsTo source.entity column other.entity)
  have only : rows = [other] := by
    rw [← List.perm_singleton, List.perm_ext_iff_of_nodup nodup (List.nodup_singleton other)]
    intro row
    rw [mem_iff, List.mem_singleton, joins_belongsTo, refers]
    constructor
    · rintro ⟨rowStored, belongs, same⟩
      exact sound.stored_eq rowStored otherStored belongs (Option.some.inj same).symm
    · rintro rfl
      exact ⟨otherStored, rfl, rfl⟩
  exact only ▸ finds_of_related on sound stored known found

/-- A row that refers to none finds none. -/
theorem finds_nothing (on : connection.On db) (sound : db.Sound variant)
    (stored : db.Stored source) (column : String)
    (known : Record.route? source.entity target =
      some ⟨.belongsTo source.entity column target, none⟩)
    (absent : source.keyColumn? column = none) : connection.Finds source target [] := by
  obtain ⟨rows, found, -, mem_iff⟩ := sound.related_direct stored target
    (.belongsTo source.entity column target)
  have only : rows = [] := by
    refine List.eq_nil_iff_forall_not_mem.mpr fun row member => ?_
    obtain ⟨-, -, joined⟩ := (mem_iff row).mp member
    rw [joins_belongsTo, absent] at joined
    cases joined
  exact only ▸ finds_of_related on sound stored known found

/-- A row finds those that refer to it, each of them once. -/
theorem finds_owned (on : connection.On db) (sound : db.Sound variant)
    (stored : db.Stored source) (target : Entity) (column : String)
    (known : Record.route? source.entity target = some ⟨.owns source.entity target column, none⟩)
    {owned : Row → Prop}
    (refers : ∀ row, db.Stored row ∧ row.entity = target ∧
      row.keyColumn? column = some source.key ↔ owned row) :
    ∃ rows, connection.Finds source target rows ∧ rows.Nodup ∧ ∀ row, row ∈ rows ↔ owned row := by
  obtain ⟨rows, found, nodup, mem_iff⟩ :=
    sound.related_direct stored target (.owns source.entity target column)
  refine ⟨rows, finds_of_related on sound stored known found, nodup, fun row => ?_⟩
  rw [mem_iff, joins_owns, refers]

/-- What a row finds through the attachments is counted by them. -/
theorem finds_attached (on : connection.On db) (sound : db.Sound variant)
    (stored : db.Stored source) (target : Entity) {last via : Link}
    (between : via.target = .attachment)
    (known : Record.route? source.entity target = some ⟨last, some via⟩) :
    ∃ rows, connection.Finds source target rows ∧
      ∀ row, db.Stored row → row.entity = target → rows.count row =
        db.attachmentTable.rows.countP fun attachment =>
          joins via source (.attachment attachment) && joins last (.attachment attachment) row := by
  obtain ⟨rows, found, count⟩ := sound.related_through stored target last via
  refine ⟨rows, finds_of_related on sound stored known found, fun row rowStored belongs => ?_⟩
  rw [count row rowStored belongs, between, Database.rows?,
    Database.attachments_of_has (sound.complete.tables .attachment), Option.map_some,
    Option.getD_some, List.countP_map]
  rfl

/-- A memo and a tag find each other once for every attachment of the tag to the memo. -/
theorem finds_meeting (on : connection.On db) (sound : db.Sound variant) {memo : Memo} {tag : Tag}
    (memoStored : db.Stored (.memo memo)) (tagStored : db.Stored (.tag tag)) :
    ∃ tags memos, connection.Finds (.memo memo) .tag tags ∧
      connection.Finds (.tag tag) .memo memos ∧ tags.count (.tag tag) = db.attached memo tag ∧
      memos.count (.memo memo) = db.attached memo tag := by
  obtain ⟨tags, tagsFound, tagsCount⟩ := finds_attached on sound memoStored .tag rfl rfl
  obtain ⟨memos, memosFound, memosCount⟩ := finds_attached on sound tagStored .memo rfl rfl
  have joinsMemo (attachment : Attachment) :
      joins attachedMemo (.attachment attachment) (.memo memo) = (attachment.memoId == memo.id) :=
    rfl
  have joinsTag (attachment : Attachment) :
      joins attachedTag (.attachment attachment) (.tag tag) = (attachment.tagId == tag.id) := rfl
  -- Both ways ask the same of an attachment, only in another order.
  refine ⟨tags, memos, tagsFound, memosFound, ?_, ?_⟩
  · rw [tagsCount _ tagStored rfl, Database.attached]
    simp only [joins_reverse, joinsMemo, joinsTag]
  · rw [memosCount _ memoStored rfl, Database.attached]
    simp only [joins_reverse, joinsMemo, joinsTag, Bool.and_comm]

/-- What is found in a sound database. -/
theorem relates (on : connection.On db) (sound : db.Sound variant) : connection.Relates db where
  stored _ _ _ found _ member := found.stored on member
  attached _ _ memoStored tagStored := finds_meeting on sound memoStored tagStored
  memos user stored := finds_owned on sound stored .memo "user_id" rfl fun row => by
    cases row <;> simp [Row.entity, Row.keyColumn?, Row.key]
  tags user stored := finds_owned on sound stored .tag "user_id" rfl fun row => by
    constructor
    · rintro ⟨rowStored, belongs, owned⟩
      cases row with
      | tag tag =>
          have obeys := sound.tagRule tag (Database.stored_tag.mp rowStored)
          have owner : tag.userId = some user.id := owned
          refine ⟨tag, rfl, rowStored, ?_⟩
          rw [Tag.scope?_of_ownerRule obeys, owner]
          rfl
      | _ => cases belongs
    · rintro ⟨tag, rfl, rowStored, personal⟩
      exact ⟨rowStored, rfl, (Scope.ofColumns?_eq_some_iff.mp personal).2⟩
  memoOwner memo stored := by
    obtain ⟨user, member, owner⟩ := sound.memoOwners memo (Database.stored_memo.mp stored)
    have userStored := Database.stored_user.mpr member
    exact ⟨user, userStored, owner,
      finds_referenced on sound stored userStored "user_id" rfl (congrArg some owner.symm)⟩
  tagOwner tag stored := by
    have member := Database.stored_tag.mp stored
    have scope := Tag.scope?_of_ownerRule (sound.tagRule tag member)
    cases owned : tag.userId with
    | none =>
        rw [owned] at scope
        exact .inl ⟨scope, finds_nothing on sound stored "user_id" rfl owned⟩
    | some owner =>
        obtain ⟨user, userMember, rfl⟩ := sound.tagOwners tag member owner owned
        have userStored := Database.stored_user.mpr userMember
        rw [owned] at scope
        exact .inr ⟨user, userStored, scope,
          finds_referenced on sound stored userStored "user_id" rfl owned⟩
  memoAttachments memo stored := finds_owned on sound stored .attachment "memo_id" rfl fun row => by
    cases row <;> simp [Row.entity, Row.keyColumn?, Row.key]
  tagAttachments tag stored := finds_owned on sound stored .attachment "tag_id" rfl fun row => by
    cases row <;> simp [Row.entity, Row.keyColumn?, Row.key]
  ends attachment stored := by
    have member := Database.stored_attachment.mp stored
    obtain ⟨memo, memoMember, isMemo⟩ := sound.attachedMemos attachment member
    obtain ⟨tag, tagMember, isTag⟩ := sound.attachedTags attachment member
    have memoStored := Database.stored_memo.mpr memoMember
    have tagStored := Database.stored_tag.mpr tagMember
    exact ⟨memo, tag, memoStored, isMemo, tagStored, isTag,
      finds_referenced on sound stored memoStored "memo_id" rfl (congrArg some isMemo.symm),
      finds_referenced on sound stored tagStored "tag_id" rfl (congrArg some isTag.symm)⟩

end Connection

end MemoStore.Store
