import MemoStore.Proofs.Failure.Messages

/-!
# The constraint over columns

SQLite names the columns of a unique constraint, each with its table. The catalog is asked for the
constraint over these columns on the table of the first one, and `uniqueConstraint?_columns` says
that it finds exactly what is declared there. The tables of the other columns are not looked at:
the engine lists columns of one table, and of such a list the first column speaks for all.
-/

namespace MemoStore.Recognise

open MemoStore.Text
open MemoStore.Catalog (DeclaresUnique)

/-- All columns of a list are columns of one table. -/
def OneTable (columns : List QualifiedColumn) (table : String) : Prop :=
  ∀ column ∈ columns, String.ofList column.table = table

instance (columns : List QualifiedColumn) (table : String) : Decidable (OneTable columns table) :=
  inferInstanceAs (Decidable (∀ _ ∈ _, _))

/-- The names of the columns of a list. -/
def columnNames (columns : List QualifiedColumn) : List String :=
  columns.map fun qualified => String.ofList qualified.column

/-- A list of columns is that of a constraint: all of them are columns of one table, and the catalog
declares the constraint on it over exactly them. -/
def IsConstraint (columns : List QualifiedColumn) (name : String) : Prop :=
  ∃ table, OneTable columns table ∧ DeclaresUnique table (columnNames columns) name

variable {first : QualifiedColumn} {others : List QualifiedColumn} {name : String}

/-- The constraint that is found is the one on the table of the first column. -/
theorem uniqueConstraint?_eq_some :
    uniqueConstraint? (first :: others) = some name ↔
      DeclaresUnique (String.ofList first.table) (columnNames (first :: others)) name :=
  Catalog.uniqueConstraintFor?_eq_some

/-- A list of columns is that of a constraint exactly if the constraint is found and all columns
are of one table. -/
theorem isConstraint_iff :
    IsConstraint (first :: others) name ↔
      uniqueConstraint? (first :: others) = some name ∧
        OneTable others (String.ofList first.table) := by
  rw [uniqueConstraint?_eq_some]
  constructor
  · rintro ⟨table, one, declares⟩
    obtain ⟨rfl, later⟩ := List.forall_mem_cons.mp one
    exact ⟨declares, later⟩
  · rintro ⟨declares, later⟩
    exact ⟨_, List.forall_mem_cons.mpr ⟨rfl, later⟩, declares⟩

/-- Every list of qualified names is read as it is written, behind every plain opening, and reported
under the name of the unique constraint that the catalog declares on the table of its first column
over exactly its columns, or as it is written if there is none. If all columns are of one table,
the list is that of the constraint. -/
theorem uniqueConstraint?_columns
    (named : ∀ column ∈ first :: others, IsName column.table ∧ IsName column.column) :
    columns? (columnsText (first :: others)) = some (first :: others) ∧
    (∀ opening, Plain opening →
      violation? (opening ++ (uniqueOpening ++ columnsText (first :: others))) =
        some (.uniqueViolation ((uniqueConstraint? (first :: others)).getD
          (String.ofList (columnsText (first :: others)))))) ∧
    (∀ name, uniqueConstraint? (first :: others) = some name ↔
      DeclaresUnique (String.ofList first.table) (columnNames (first :: others)) name) ∧
    (OneTable others (String.ofList first.table) → ∀ name,
      uniqueConstraint? (first :: others) = some name ↔ IsConstraint (first :: others) name) := by
  refine ⟨columns?_columnsText named, fun _ plain => Complaint.violation?_columns plain named,
    fun _ => uniqueConstraint?_eq_some, fun one name => ?_⟩
  rw [isConstraint_iff]
  exact (and_iff_left one).symm

/-- The columns of the unique constraint on tags. -/
theorem uniqueConstraint?_columns_tag :
    let column (name : String) := QualifiedColumn.mk "tag".toList name.toList
    let columns := [column "name", column "is_official", column "user_id"]
    IsConstraint columns "uniq_tag_name" ∧
      violation? ("Execution Error: ".toList ++ (uniqueOpening ++ columnsText columns)) =
        some (.uniqueViolation "uniq_tag_name") := by
  intro column columns
  have named : ∀ column ∈ columns, IsName column.table ∧ IsName column.column := by decide +kernel
  have plain : Plain "Execution Error: ".toList := by
    simp only [String.reduceToList]
    decide +kernel
  have found : uniqueConstraint? columns = some "uniq_tag_name" := by decide +kernel
  have one : OneTable (columns.drop 1) "tag" := by decide +kernel
  obtain ⟨-, reported, -, constraint⟩ := uniqueConstraint?_columns named
  refine ⟨(constraint one "uniq_tag_name").mp found, ?_⟩
  rw [reported _ plain, found, Option.getD_some]

/-- Only the first table counts: a column of another table among those of a constraint is taken for
one of them. -/
theorem uniqueConstraint?_columns_mixed :
    let columns := [QualifiedColumn.mk "tag".toList "name".toList,
      QualifiedColumn.mk "memo".toList "is_official".toList,
      QualifiedColumn.mk "tag".toList "user_id".toList]
    (∀ column ∈ columns, IsName column.table ∧ IsName column.column) ∧
      columnsText columns = "tag.name, memo.is_official, tag.user_id".toList ∧
      uniqueConstraint? columns = some "uniq_tag_name" ∧ ¬ IsConstraint columns "uniq_tag_name" := by
  intro columns
  refine ⟨by decide +kernel, by decide +kernel, by decide +kernel, fun constraint => ?_⟩
  have apart : ¬ OneTable (columns.drop 1) "tag" := by decide +kernel
  exact apart (isConstraint_iff.mp constraint).2

end MemoStore.Recognise
