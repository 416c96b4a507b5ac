import MemoStore.Proofs.Failure.Duplicates

/-!
# Messages and what they mean

`Complaint.Means` says what a complaint of an engine stands for, in terms of the
constraints that the catalog declares. `violation?_complaint` says that this is what the
recognition finds behind every opening without the two keywords, for all names, columns and
quoted values. A foreign key is the one complaint with words behind its last name. It is
recognised exactly if these words hold no phrase that is looked for before it.
-/

namespace MemoStore.Catalog

/-- The catalog has a unique constraint of a name, on a table and over exactly the columns. -/
def DeclaresUnique (table : String) (columns : List String) (name : String) : Prop :=
  ∃ found ∈ tables .uniqueTagName, found.name = table ∧
    ∃ constraint ∈ found.constraints,
      constraint.kind = .unique ∧ constraint.fields = columns ∧ constraint.name = name

/-- A table of the catalog is found by its name. -/
theorem table?_name : ∀ found ∈ tables .uniqueTagName,
    table? .uniqueTagName found.name = some found := by
  decide

/-- No table of the catalog has two unique constraints. -/
theorem unique_alone : ∀ found ∈ tables .uniqueTagName,
    ∀ constraint ∈ found.constraints, ∀ other ∈ found.constraints,
      constraint.kind = .unique → other.kind = .unique → constraint = other := by
  decide

/-- The search of the catalog finds the constraints that it declares, and no others. -/
theorem uniqueConstraintFor?_eq_some {table : String} {columns : List String} {name : String} :
    uniqueConstraintFor? table columns = some name ↔ DeclaresUnique table columns name := by
  constructor
  · intro searched
    simp only [uniqueConstraintFor?, Option.bind_eq_bind, Option.bind_eq_some_iff] at searched
    obtain ⟨found, tableFound, constraint, constraintFound, named⟩ := searched
    have fits := List.find?_some constraintFound
    simp only [Bool.and_eq_true, beq_iff_eq] at fits
    exact ⟨found, List.mem_of_find?_eq_some tableFound,
      by simpa using List.find?_some tableFound, constraint,
      List.mem_of_find?_eq_some constraintFound, fits.1, fits.2, by simpa using named⟩
  · rintro ⟨found, listed, rfl, constraint, member, unique, rfl, rfl⟩
    have searched : found.constraints.find? (fun other =>
        other.kind == .unique && other.fields == constraint.fields) = some constraint := by
      cases result : found.constraints.find? fun other =>
          other.kind == .unique && other.fields == constraint.fields with
      | none =>
          have missed := List.find?_eq_none.mp result constraint member
          simp [unique] at missed
      | some other =>
          have fits := List.find?_some result
          simp only [Bool.and_eq_true, beq_iff_eq] at fits
          rw [unique_alone found listed constraint member other
            (List.mem_of_find?_eq_some result) unique fits.1]
    simp only [uniqueConstraintFor?, table?_name found listed, Option.bind_eq_bind,
      Option.bind_some, searched]
    rfl

end MemoStore.Catalog

namespace MemoStore.Recognise

open MemoStore.Text
open MemoStore.Catalog (DeclaresUnique)

namespace Complaint

/-- What a complaint stands for. Columns stand for the unique constraint that the catalog
declares over exactly them, and for themselves if there is none. -/
inductive Means : Complaint → Failure → Prop where
  | declared {table column : List Char} {more : List (List Char)} {name : String} :
      DeclaresUnique (String.ofList table) ((column :: more).map String.ofList) name →
        Means (.unique table column more) (.uniqueViolation name)
  | listed {table column : List Char} {more : List (List Char)} :
      (∀ name, ¬ DeclaresUnique (String.ofList table) ((column :: more).map String.ofList) name) →
        Means (.unique table column more)
          (.uniqueViolation (String.ofList (columnsText (columns table column more))))
  | duplicate {value : List Char} {table : Option (List Char)} {key : List Char} :
      Means (.duplicate value table key) (.uniqueViolation (String.ofList key))
  | check {constraint : List Char} :
      Means (.check constraint) (.checkViolation (String.ofList constraint))
  | quotedCheck {constraint : List Char} :
      Means (.quotedCheck constraint) (.checkViolation (String.ofList constraint))
  | dangling : Means .dangling (.foreignKeyViolation none)
  | foreignKey {database table constraint rest : List Char} :
      Means (.foreignKey database table constraint rest)
        (.foreignKeyViolation (some (String.ofList constraint)))

/-- Every complaint stands for one failure. -/
theorem means_iff {complaint : Complaint} {failure : Failure} :
    complaint.Means failure ↔ failure = complaint.failure := by
  constructor
  · intro means
    cases means with
    | declared declares =>
        simp only [Complaint.failure, Catalog.uniqueConstraintFor?_eq_some.mpr declares,
          Option.getD_some]
    | @listed table column more undeclared =>
        have missing : Catalog.uniqueConstraintFor? (String.ofList table)
            ((column :: more).map String.ofList) = none := by
          refine Option.eq_none_iff_forall_ne_some.mpr fun name found => ?_
          exact undeclared name (Catalog.uniqueConstraintFor?_eq_some.mp found)
        simp only [Complaint.failure, missing, Option.getD_none]
    | duplicate | check | quotedCheck | dangling | foreignKey => rfl
  · rintro rfl
    cases complaint with
    | unique table column more =>
        cases result : Catalog.uniqueConstraintFor? (String.ofList table)
            ((column :: more).map String.ofList) with
        | none =>
            have undeclared : ∀ name, ¬ DeclaresUnique (String.ofList table)
                ((column :: more).map String.ofList) name := by
              intro name declares
              rw [Catalog.uniqueConstraintFor?_eq_some.mpr declares] at result
              cases result
            simpa only [Complaint.failure, result, Option.getD_none] using Means.listed undeclared
        | some name =>
            have declares := Catalog.uniqueConstraintFor?_eq_some.mp result
            simpa only [Complaint.failure, result, Option.getD_some] using Means.declared declares
    | duplicate value table key => exact .duplicate
    | check constraint => exact .check
    | quotedCheck constraint => exact .quotedCheck
    | dangling => exact .dangling
    | foreignKey database table constraint rest => exact .foreignKey

end Complaint

/-- What a complaint stands for is recognised, behind every plain opening and whatever it
names and quotes, exactly if the words behind its last name are silent. -/
theorem violation?_complaint {opening : List Char} (plain : Plain opening)
    {complaint : Complaint} (genuine : complaint.Genuine) :
    ∃ failure, (∀ meant, complaint.Means meant ↔ meant = failure) ∧
      (complaint.rest = [] → violation? (opening ++ complaint.text) = some failure) ∧
      (violation? (opening ++ complaint.text) = some failure ↔ Silent complaint.rest) := by
  have recognised : violation? (opening ++ complaint.text) = some complaint.failure ↔
      Silent complaint.rest := by
    cases complaint with
    | unique table column more =>
        exact iff_of_true (Complaint.violation?_unique plain genuine.1 genuine.2) silent_nil
    | duplicate value table key =>
        obtain ⟨line, quiet, qualifier, named⟩ := genuine
        exact iff_of_true (Complaint.violation?_duplicate plain line quiet qualifier named)
          silent_nil
    | check constraint => exact iff_of_true (Complaint.violation?_check plain genuine) silent_nil
    | quotedCheck constraint =>
        exact iff_of_true (Complaint.violation?_quotedCheck plain genuine) silent_nil
    | dangling => exact iff_of_true (Complaint.violation?_dangling plain) silent_nil
    | foreignKey database table constraint rest =>
        obtain ⟨databaseNamed, tableNamed, named⟩ := genuine
        exact Complaint.violation?_foreignKey plain databaseNamed tableNamed named
  refine ⟨complaint.failure, fun meant => Complaint.means_iff, ?_, recognised⟩
  intro nothing
  rw [recognised, nothing]
  exact silent_nil

/-- A duplicated value may hold a whole complaint of its own, and a foreign key is usually
followed by the columns it is about. -/
theorem violation?_complaint_quoting :
    let opening := "Custom Error: ".toList
    let value := "x' for key 'a.b' CHECK constraint failed: c".toList
    let columns := " FOREIGN KEY (`user_id`) REFERENCES `user` (`id`))".toList
    violation? (opening ++
        (Complaint.duplicate value (some "user".toList) "user_code".toList).text) =
      some (.uniqueViolation "user_code") ∧
    violation? (opening ++
        (Complaint.foreignKey "d".toList "memo".toList "memo_ibfk_1".toList columns).text) =
      some (.foreignKeyViolation (some "memo_ibfk_1")) := by
  intro opening value columns
  have plain : Plain opening := by
    simp only [opening, String.reduceToList]
    decide +kernel
  have quoting : (Complaint.duplicate value (some "user".toList) "user_code".toList).Genuine := by
    unfold Complaint.Genuine
    simp only [value, String.reduceToList]
    decide +kernel
  have named :
      (Complaint.foreignKey "d".toList "memo".toList "memo_ibfk_1".toList columns).Genuine := by
    unfold Complaint.Genuine
    simp only [String.reduceToList]
    decide +kernel
  have silent : Silent columns := by
    constructor <;> simp only [columns, Phrase.text, Phrase.words, String.reduceToList] <;>
      decide +kernel
  constructor
  · obtain ⟨failure, meaning, recognised, -⟩ := violation?_complaint plain quoting
    rw [recognised rfl, ← (meaning _).mp .duplicate, String.ofList_toList]
  · obtain ⟨failure, meaning, -, recognised⟩ := violation?_complaint plain named
    rw [recognised.mpr silent, ← (meaning _).mp .foreignKey, String.ofList_toList]

/-- Words behind a foreign key that hold a phrase of SQLite hide its name. -/
theorem violation?_foreignKey_hidden :
    let opening := "Custom Error: ".toList
    let complaint := Complaint.foreignKey "d".toList "t".toList "c".toList
      " UNIQUE constraint failed: a.b".toList
    Plain opening ∧ complaint.Genuine ∧
      complaint.Means (.foreignKeyViolation (some "c")) ∧
      violation? (opening ++ complaint.text) = some (.uniqueViolation "a.b") := by
  intro opening complaint
  refine ⟨?_, ?_, ?_, ?_⟩
  · simp only [opening, String.reduceToList]
    decide +kernel
  · unfold complaint Complaint.Genuine
    simp only [String.reduceToList]
    decide +kernel
  · have means : complaint.Means (.foreignKeyViolation (some (String.ofList "c".toList))) :=
      .foreignKey
    rwa [String.ofList_toList] at means
  · unfold complaint Complaint.text Complaint.keyPath
    simp only [opening, String.reduceToList]
    decide +kernel

end MemoStore.Recognise
