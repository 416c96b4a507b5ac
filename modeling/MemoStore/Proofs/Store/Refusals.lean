import MemoStore.Proofs.Failure.Complaints
import MemoStore.Store.Insert

/-!
# What refusals are reported as

The engine reports a refused write by its code and its reason, and the recognition reads the
violated constraint back. A refusal that names a constraint is reported as its violation; one
that names a missing value stays an error of the engine.
-/

namespace MemoStore.Store.Refusal

open MemoStore.Recognise
open MemoStore.Record (Entity)

/-- What the report of a refused write begins with. -/
def opening (code : Nat) : List Char :=
  "Execution Error: ".toList ++ ("error returned from database: (code: ".toList ++
    ((toString code).toList ++ ") ".toList))

/-- A report as characters is its parts as characters. -/
private theorem toList_report (label report code closing reason : String) :
    (label ++ (report ++ code ++ closing ++ reason)).toList =
      label.toList ++ (report.toList ++ (code.toList ++ closing.toList)) ++ reason.toList := by
  simp

/-- The text of a refused write is the reason behind the opening. -/
theorem toList_message (refusal : Refusal) :
    refusal.onExecution.message.toList = opening refusal.code ++ refusal.reason.toList :=
  toList_report _ _ _ _ _

/-- The openings of refused writes hold no keyword. -/
theorem plain_opening : ∀ code ∈ [275, 787, 1555, 2067], Plain (opening code) := by
  unfold opening
  simp only [String.reduceToList]
  decide +kernel

/-- A refusal is told as its reason is recognised, behind the label and the code of the report. -/
theorem ofEngine_onExecution (refusal : Refusal) :
    Failure.ofEngine refusal.onExecution =
      (violation? (opening refusal.code ++ refusal.reason.toList)).getD
        (.engine refusal.onExecution) := by
  rw [Failure.ofEngine, toList_message]

/-- A refusal whose text is recognised is reported as the violation. -/
theorem ofEngine_violation {refusal : Refusal} {failure : Failure}
    (found : violation? (opening refusal.code ++ refusal.reason.toList) = some failure) :
    Failure.ofEngine refusal.onExecution = failure := by
  rw [ofEngine_onExecution, found, Option.getD_some]

/-- A failed check is reported with its name. -/
theorem ofEngine_checkFailed {constraint : String} (named : IsName constraint.toList) :
    Failure.ofEngine (checkFailed constraint).onExecution = .checkViolation constraint := by
  have said : (checkFailed constraint).reason.toList =
      (Complaint.check constraint.toList).text := String.toList_append
  have found := Complaint.violation?_check (plain_opening 275 (by simp)) named
  rw [← said, Complaint.failure, String.ofList_toList] at found
  exact ofEngine_violation found

/-- A dangling reference is reported without a name. -/
theorem ofEngine_danglingReference :
    Failure.ofEngine danglingReference.onExecution = .foreignKeyViolation none := by
  exact ofEngine_violation (Complaint.violation?_dangling (plain_opening 787 (by simp)))

/-- A qualified column as characters is its parts as characters. -/
private theorem toList_column (table point column : String) :
    (table ++ point ++ column).toList = table.toList ++ (point.toList ++ column.toList) := by
  simp

/-- The text of one column is its table and its name with a point between. -/
private theorem columnsText_singleton (table column : List Char) :
    columnsText (Complaint.columns table column []) = table ++ '.' :: column := by
  simp [Complaint.columns, columnsText, QualifiedColumn.text]

/-- A column with a value that is there already is reported by the constraint over it, or by
itself. -/
theorem ofEngine_column {refusal : Refusal} {entity : Entity} {column : String}
    (coded : refusal.code ∈ [275, 787, 1555, 2067])
    (said : refusal.reason = "UNIQUE constraint failed: " ++ (entity.table ++ "." ++ column))
    (named : IsName column.toList) :
    Failure.ofEngine refusal.onExecution =
      .uniqueViolation ((Catalog.uniqueConstraintFor? entity.table [column]).getD
        (entity.table ++ "." ++ column)) := by
  have table : IsName entity.table.toList := by cases entity <;> decide +kernel
  have listed : (entity.table ++ "." ++ column).toList =
      columnsText (Complaint.columns entity.table.toList column.toList []) :=
    (toList_column _ _ _).trans (columnsText_singleton _ _).symm
  have text : refusal.reason.toList =
      (Complaint.unique entity.table.toList column.toList []).text :=
    (congrArg String.toList said).trans (String.toList_append.trans (congrArg _ listed))
  have columns : ∀ name ∈ [column.toList], IsName name := by simpa using named
  have found := Complaint.violation?_unique (plain_opening _ coded) table columns
  rw [← text] at found
  rw [ofEngine_violation found]
  simp only [Complaint.failure, List.map_cons, List.map_nil, String.ofList_toList, ← listed]

/-- A key that is there already is reported as the key column of its table. -/
theorem ofEngine_duplicateKey (entity : Entity) :
    Failure.ofEngine (duplicateKey entity).onExecution =
      .uniqueViolation (entity.table ++ ".id") := by
  have undeclared : Catalog.uniqueConstraintFor? entity.table ["id"] = none := by
    cases entity <;> decide
  have parted (phrase table : String) : phrase ++ table ++ ".id" =
      phrase ++ (table ++ "." ++ "id") := by
    rw [String.append_assoc, String.append_assoc]
    rfl
  have coded : (duplicateKey entity).code ∈ [275, 787, 1555, 2067] := by simp [code]
  rw [ofEngine_column coded (parted _ _) (by decide +kernel), undeclared, Option.getD_none,
    String.append_assoc]
  rfl

/-- A code that is there already is reported with the name of its constraint. -/
theorem ofEngine_codeTaken :
    Failure.ofEngine (duplicate .user ["code"]).onExecution =
      .uniqueViolation Schema.userCodeConstraint := by
  have declared : Catalog.uniqueConstraintFor? Entity.user.table ["code"] =
      some Schema.userCodeConstraint := by
    decide
  have said : (duplicate .user ["code"]).reason =
      "UNIQUE constraint failed: " ++ (Entity.user.table ++ "." ++ "code") := by
    decide +kernel
  have coded : (duplicate .user ["code"]).code ∈ [275, 787, 1555, 2067] := by simp [code]
  rw [ofEngine_column coded said (by decide +kernel), declared, Option.getD_some]

/-- The columns of a table that a new row must bring a value for, in order. -/
def requiredColumns : Entity → List String
  | .user => ["name", "code"]
  | .memo => ["user_id", "title", "content"]
  | .tag => ["name"]
  | .attachment => ["memo_id", "tag_id"]

/-- The reason for a missing value as characters is its phrase and the column. -/
private theorem toList_missing (phrase table column : String) :
    (phrase ++ table ++ "." ++ column).toList =
      phrase.toList ++ (table.toList ++ '.' :: column.toList) := by
  rw [String.toList_append, String.toList_append, String.toList_append, List.append_assoc,
    List.append_assoc]
  rfl

/-- A missing value stays an error of the engine. -/
theorem ofEngine_missingValue {entity : Entity} {column : String}
    (demanded : column ∈ requiredColumns entity) :
    Failure.ofEngine (missingValue entity column).onExecution =
      .engine (missingValue entity column).onExecution := by
  have unrecognised : ∀ entity ∈ [Entity.user, .memo, .tag, .attachment],
      ∀ column ∈ requiredColumns entity,
        violation? (opening 1299 ++ ("NOT NULL constraint failed: ".toList ++
          (entity.table.toList ++ '.' :: column.toList))) = none := by
    unfold opening
    simp only [String.reduceToList]
    decide +kernel
  have silent := unrecognised entity (by cases entity <;> simp) column demanded
  have said : (missingValue entity column).reason.toList =
      "NOT NULL constraint failed: ".toList ++ (entity.table.toList ++ '.' :: column.toList) :=
    toList_missing _ _ _
  have coded : (missingValue entity column).code = 1299 := rfl
  rw [ofEngine_onExecution, said, coded, silent, Option.getD_none]

end MemoStore.Store.Refusal
