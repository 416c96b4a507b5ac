import MemoStore.Document
import MemoStore.Proofs.Document.Reading

/-!
# Reading tables

The tables that a document tree stands for. A field that is left out reads as an attribute that is
absent, which no text does. `yaml_lossless` says that every list of tables is read back from its
YAML document, whatever texts stand in it, so no two lists have the same document.
-/

namespace MemoStore.Document

/-! ## The tables of a tree -/

namespace Node

/-- The text that a node is. -/
def text? : Node → Option String
  | .text value => some value
  | _ => none

/-- The flag that a node is. -/
def flag? : Node → Option Bool
  | .flag value => some value
  | _ => none

/-- What the items of a list are read as. -/
def list? {α : Type} (read : Node → Option α) : Node → Option (List α)
  | .list items => items.mapM read
  | _ => none

/-- The fields of a record. -/
def record? : Node → Option (List (String × Node))
  | .record fields => some fields
  | _ => none

/-- Reads a field that must be there. -/
def required? {α : Type} (fields : List (String × Node)) (name : String) (read : Node → Option α) :
    Option α :=
  (fields.lookup name).bind read

/-- Reads a value that may be absent. -/
def present? {α : Type} (read : Node → Option α) : Option Node → Option (Option α)
  | none => some none
  | some value => (read value).map some

/-- Reads a field that may be left out. -/
def optional? {α : Type} (fields : List (String × Node)) (name : String)
    (read : Node → Option α) : Option (Option α) :=
  present? read (fields.lookup name)

/-- Reads the notes of a table. Remarks that are left out are none. -/
def notes? (node : Node) : Option Catalog.Notes := do
  let fields ← node.record?
  let title ← required? fields "title" text?
  let context ← optional? fields "context" (list? text?)
  return ⟨title, context.getD []⟩

/-- Reads what a column refers to. -/
def reference? (node : Node) : Option Catalog.Reference := do
  let fields ← node.record?
  let table ← required? fields "table" text?
  let column ← required? fields "column" text?
  let onDelete ← required? fields "on_delete" text?
  return ⟨table, column, onDelete⟩

/-- Reads a column. A flag for counting up that is left out is down. -/
def field? (node : Node) : Option Catalog.Field := do
  let fields ← node.record?
  let name ← required? fields "name" text?
  let columnType ← required? fields "type" text?
  let verboseName ← optional? fields "verbose_name" text?
  let isNull ← required? fields "is_null" flag?
  let isUnique ← required? fields "is_unique" flag?
  let primaryKey ← required? fields "primary_key" flag?
  let autoIncrement ← optional? fields "auto_increment" flag?
  let default ← optional? fields "default" text?
  let onUpdate ← optional? fields "on_update" text?
  let reference ← optional? fields "relation" reference?
  return ⟨name, columnType, verboseName, isNull, isUnique, primaryKey, autoIncrement.getD false,
    default, onUpdate, reference⟩

/-- The kind of constraint that a text names. -/
def kind? (node : Node) : Option Catalog.ConstraintKind := do
  let label ← node.text?
  [.unique, .check].find? fun kind => kind.label == label

/-- Reads a constraint. -/
def constraint? (node : Node) : Option Catalog.Constraint := do
  let fields ← node.record?
  let kind ← required? fields "type" kind?
  let columns ← required? fields "fields" (list? text?)
  let name ← required? fields "name" text?
  let condition ← optional? fields "condition" text?
  return ⟨kind, columns, name, condition⟩

/-- Reads an index. -/
def index? (node : Node) : Option Catalog.Index := do
  let fields ← node.record?
  let name ← required? fields "name" text?
  let columns ← required? fields "fields" (list? text?)
  return ⟨name, columns⟩

/-- Reads a table. -/
def table? (node : Node) : Option Catalog.Table := do
  let fields ← node.record?
  let name ← required? fields "name" text?
  let notes ← required? fields "doc" notes?
  let columns ← required? fields "fields" (list? field?)
  let constraints ← required? fields "constraints" (list? constraint?)
  let indexes ← required? fields "index" (list? index?)
  return ⟨name, notes, columns, constraints, indexes⟩

/-- The tables that a tree stands for. -/
def tables? : Node → Option (List Catalog.Table) :=
  list? table?

/-! ## Every table is read back from its tree -/

section

variable {α : Type}

/-- A list is read back if each of its items is. -/
theorem list?_map {read : Node → Option α} {write : α → Node}
    (readsBack : ∀ value, read (write value) = some value) (values : List α) :
    list? read (.list (values.map write)) = some values := by
  rw [list?]
  induction values with
  | nil => rfl
  | cons value values inductionHypothesis =>
      rw [List.map_cons, List.mapM_cons, readsBack, inductionHypothesis]
      rfl

/-- A list of texts is read back. -/
theorem list?_texts (values : List String) : list? text? (texts values) = some values :=
  list?_map (fun _ : String => rfl) values

/-- A value that is absent reads as none. -/
@[simp] theorem present?_none (read : Node → Option α) : present? read none = some none := rfl

/-- A value that is there reads as what it is read as. -/
@[simp] theorem present?_some (read : Node → Option α) (node : Node) :
    present? read (some node) = (read node).map some := rfl

/-- A value that may be absent is read back if it is read back where it is there. -/
theorem present?_map {read : Node → Option α} {write : α → Node}
    (readsBack : ∀ value, read (write value) = some value) (value : Option α) :
    present? read (value.map write) = some value := by
  cases value with
  | none => rfl
  | some value => exact congrArg (Option.map some) (readsBack value)

/-- A text that may be absent is read back. -/
theorem present?_text (value : Option String) : present? text? (value.map text) = some value :=
  present?_map (fun _ : String => rfl) value

/-- A field that may be left out is looked up by its own name only. -/
theorem lookup_toList {write : α → Node} (name key : String) (value : Option α) :
    (value.map fun value => (name, write value)).toList.lookup key =
      if key == name then value.map write else none := by
  cases value <;> cases same : key == name <;> simp [List.lookup_cons, same]

/-- The notes of a table are read back, with remarks or without. -/
theorem notes?_ofNotes (notes : Catalog.Notes) : notes? (ofNotes notes) = some notes := by
  obtain ⟨title, context⟩ := notes
  cases context with
  | nil => rfl
  | cons remark more =>
      simp [notes?, ofNotes, record?, required?, optional?, List.lookup_cons, list?_texts, text?]

/-- What a column refers to is read back. -/
theorem reference?_ofReference (reference : Catalog.Reference) :
    reference? (ofReference reference) = some reference := rfl

/-- A column is read back, whichever of its attributes are there. -/
theorem field?_ofField (field : Catalog.Field) : field? (ofField field) = some field := by
  obtain ⟨name, columnType, verboseName, isNull, isUnique, primaryKey, autoIncrement, default,
    onUpdate, reference⟩ := field
  have referenceRead := present?_map reference?_ofReference reference
  cases autoIncrement <;>
    simp [field?, ofField, record?, required?, optional?, optional, List.lookup_append,
      List.lookup_cons, lookup_toList, text?, flag?, present?_text, referenceRead]

/-- A constraint is read back, with a condition or without. -/
theorem constraint?_ofConstraint (constraint : Catalog.Constraint) :
    constraint? (ofConstraint constraint) = some constraint := by
  obtain ⟨kind, columns, name, condition⟩ := constraint
  have kindRead : kind? (.text kind.label) = some kind := by cases kind <;> rfl
  simp [constraint?, ofConstraint, kindRead, list?_texts, optional, record?, required?, optional?,
    List.lookup_cons, text?, lookup_toList, present?_text]

/-- An index is read back. -/
theorem index?_ofIndex (index : Catalog.Index) : index? (ofIndex index) = some index := by
  have columnsRead := list?_texts index.fields
  simp [index?, ofIndex, columnsRead, record?, required?, List.lookup_cons, text?]

/-- A table is read back, since each of its parts is. -/
theorem table?_ofTable (table : Catalog.Table) : table? (ofTable table) = some table := by
  have fields := list?_map field?_ofField table.fields
  have constraints := list?_map constraint?_ofConstraint table.constraints
  have indexes := list?_map index?_ofIndex table.indexes
  simp [table?, ofTable, record?, required?, List.lookup_cons, text?, notes?_ofNotes, fields,
    constraints, indexes]

/-- Tables are read back from their tree. -/
theorem tables?_ofTables (tables : List Catalog.Table) : tables? (ofTables tables) = some tables :=
  list?_map table?_ofTable tables

end

/-! ## The keys are names -/

open Yaml (IsName Named)

/-- Whether fields can stand in a record: their keys are names, and so are the keys in their
values. -/
def NamedFields (fields : List (String × Node)) : Prop :=
  ∀ field ∈ fields, IsName field.1 ∧ Named field.2

/-- A record of such fields can be written. -/
theorem NamedFields.record {fields : List (String × Node)} (named : NamedFields fields) :
    Named (.record fields) :=
  .record (fun field member => (named field member).1) fun field member => (named field member).2

/-- No field needs a name. -/
theorem NamedFields.nil : NamedFields [] := nofun

/-- A field that can stand in a record may be put before others that can. -/
theorem NamedFields.cons {name : String} {value : Node} {fields : List (String × Node)}
    (isName : IsName name) (named : Named value) (later : NamedFields fields) :
    NamedFields ((name, value) :: fields) :=
  List.forall_mem_cons.mpr ⟨⟨isName, named⟩, later⟩

/-- Fields that can stand in a record can stand there together. -/
theorem NamedFields.append {first second : List (String × Node)} (named : NamedFields first)
    (later : NamedFields second) : NamedFields (first ++ second) :=
  List.forall_mem_append.mpr ⟨named, later⟩

/-- A field that may be left out. -/
theorem NamedFields.optional {α : Type} {name : String} {write : α → Node} (isName : IsName name)
    (named : ∀ value, Named (write value)) (value : Option α) :
    NamedFields (value.map fun value => (name, write value)).toList := by
  cases value with
  | none => exact .nil
  | some value => exact .cons isName (named value) .nil

/-- A list can be written if each of its items can. -/
theorem named_map {α : Type} {write : α → Node} (named : ∀ value, Named (write value))
    (values : List α) : Named (.list (values.map write)) := by
  refine .list fun item member => ?_
  obtain ⟨value, -, rfl⟩ := List.mem_map.mp member
  exact named value

/-- The notes of a table can be written. -/
theorem named_ofNotes (notes : Catalog.Notes) : Named (ofNotes notes) := by
  refine NamedFields.record (.cons (by decide) (.text _) ?_)
  split
  · exact .nil
  · exact .cons (by decide) (named_map .text _) .nil

/-- What a column refers to can be written. -/
theorem named_ofReference (reference : Catalog.Reference) : Named (ofReference reference) :=
  NamedFields.record (.cons (by decide) (.text _) (.cons (by decide) (.text _)
    (.cons (by decide) (.text _) .nil)))

/-- A column can be written, whichever of its attributes are there. -/
theorem named_ofField (field : Catalog.Field) : Named (ofField field) := by
  have text (name : String) (isName : IsName name) (value : Option String) :
      NamedFields (Node.optional name value) := .optional isName .text value
  have increments : NamedFields
      (if field.autoIncrement then [("auto_increment", Node.flag true)] else []) := by
    split
    · exact .cons (by decide) (.flag _) .nil
    · exact .nil
  refine NamedFields.record
    (.append (.append (.append (.append (.append (.append ?_ ?_) ?_) ?_) ?_) ?_) ?_)
  · exact .cons (by decide) (.text _) (.cons (by decide) (.text _) .nil)
  · exact text _ (by decide) _
  · exact .cons (by decide) (.flag _) (.cons (by decide) (.flag _)
      (.cons (by decide) (.flag _) .nil))
  · exact increments
  · exact text _ (by decide) _
  · exact text _ (by decide) _
  · exact .optional (by decide) named_ofReference _

/-- A constraint can be written. -/
theorem named_ofConstraint (constraint : Catalog.Constraint) : Named (ofConstraint constraint) :=
  NamedFields.record (.append
    (.cons (by decide) (.text _) (.cons (by decide) (named_map .text _)
      (.cons (by decide) (.text _) .nil)))
    (.optional (by decide) .text _))

/-- An index can be written. -/
theorem named_ofIndex (index : Catalog.Index) : Named (ofIndex index) :=
  NamedFields.record (.cons (by decide) (.text _) (.cons (by decide) (named_map .text _) .nil))

/-- A table can be written, since each of its parts can. -/
theorem named_ofTable (table : Catalog.Table) : Named (ofTable table) :=
  NamedFields.record (.cons (by decide) (.text _) (.cons (by decide) (named_ofNotes _)
    (.cons (by decide) (named_map named_ofField _)
      (.cons (by decide) (named_map named_ofConstraint _)
        (.cons (by decide) (named_map named_ofIndex _) .nil)))))

/-- Tables can be written. -/
theorem named_ofTables (tables : List Catalog.Table) : Named (ofTables tables) :=
  named_map named_ofTable tables

end Node

/-! ## Documents of tables -/

/-- Reads the tables from their YAML document. -/
def readYaml? (text : String) : Option (List Catalog.Table) :=
  (Yaml.read? text).bind Node.tables?

/-- Every list of tables is read back from its YAML document, and no two have the same one. -/
theorem yaml_lossless :
    (∀ tables, readYaml? (render .yaml tables) = some tables) ∧
      ∀ tables tables', render .yaml tables = render .yaml tables' → tables = tables' := by
  have readsBack (tables : List Catalog.Table) :
      readYaml? (render .yaml tables) = some tables := by
    rw [readYaml?, render, Yaml.read?_render (Node.named_ofTables tables), Option.bind_some,
      Node.tables?_ofTables]
  refine ⟨readsBack, fun tables tables' same => ?_⟩
  have read := readsBack tables
  rw [same, readsBack] at read
  exact (Option.some.inj read).symm

end MemoStore.Document
