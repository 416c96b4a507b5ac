import MemoStore.Catalog
import MemoStore.Failure.Basic
import MemoStore.Text.Lines
import MemoStore.Text.Search
import MemoStore.Text.Word

/-!
# Recognising constraint violations

The engines report a violated constraint only in the text of their error. The text is
searched for the known phrasings, wherever they stand in it, and what they name
becomes a failure of its own kind. SQLite names the columns of a unique constraint, so
the catalog is asked for the constraint over these columns.
-/

namespace MemoStore.Recognise

open MemoStore.Text

/-- Reads a name: one or more word characters, as many as there are. -/
def name? (text : List Char) : Option (List Char × List Char) :=
  if (text.takeWhile isWord).isEmpty then none
  else some (text.takeWhile isWord, text.dropWhile isWord)

/-- A column with its table. -/
structure QualifiedColumn where
  table : List Char
  column : List Char
  deriving DecidableEq, Repr

/-- The text of a qualified column. -/
def QualifiedColumn.text (qualified : QualifiedColumn) : List Char :=
  qualified.table ++ '.' :: qualified.column

/-- Reads a qualified column. -/
def qualified? (text : List Char) : Option (QualifiedColumn × List Char) :=
  match name? text with
  | some (table, '.' :: text) =>
    (name? text).map fun (column, rest) => (⟨table, column⟩, rest)
  | _ => none

/-- What a name leaves is no longer than the text. -/
theorem name?_length {text name rest : List Char} (read : name? text = some (name, rest)) :
    rest.length ≤ text.length := by
  unfold name? at read
  split at read
  · simp at read
  · simp only [Option.some.injEq, Prod.mk.injEq] at read
    rw [← read.2]
    exact (List.dropWhile_suffix isWord).length_le

/-- What a qualified column leaves is shorter than the text. -/
theorem qualified?_length {text rest : List Char} {column : QualifiedColumn}
    (read : qualified? text = some (column, rest)) : rest.length < text.length := by
  unfold qualified? at read
  split at read
  · rename_i table after tableRead
    have bound := name?_length tableRead
    cases columnRead : name? after with
    | none => simp [columnRead] at read
    | some found =>
      obtain ⟨name, left⟩ := found
      have step := name?_length columnRead
      simp only [columnRead, Option.map_some, Option.some.injEq, Prod.mk.injEq] at read
      rw [← read.2]
      simp only [List.length_cons] at bound
      omega
  · simp at read

/-- Reads further columns, each after a comma and a space. -/
def moreColumns (text : List Char) : List QualifiedColumn :=
  match text with
  | ',' :: ' ' :: after =>
    match _read : qualified? after with
    | some (column, rest) => column :: moreColumns rest
    | none => []
  | _ => []
  termination_by text.length
  decreasing_by
    have := qualified?_length _read
    simp only [List.length_cons]
    omega

/-- Reads a list of columns that is not empty. -/
def columns? (text : List Char) : Option (List QualifiedColumn) :=
  (qualified? text).map fun (column, rest) => column :: moreColumns rest

/-- The text of a list of columns, as an engine writes it. -/
def columnsText (columns : List QualifiedColumn) : List Char :=
  ", ".toList.intercalate (columns.map QualifiedColumn.text)

/-- The unique constraint that a list of columns belongs to. The first column names
the table. -/
def uniqueConstraint? : List QualifiedColumn → Option String
  | [] => none
  | first :: more =>
    Catalog.uniqueConstraintFor? (String.ofList first.table)
      ((first :: more).map fun qualified => String.ofList qualified.column)

/-- How a violated unique constraint of SQLite begins. -/
def uniqueOpening : List Char := "UNIQUE constraint failed: ".toList

/-- Reads the columns of a violated unique constraint of SQLite. -/
def uniqueColumns? (text : List Char) : Option (List QualifiedColumn) :=
  (after? uniqueOpening text).bind columns?

/-- Reads a key with its closing quote; a table may stand before the name. -/
def key? (text : List Char) : Option (List Char) :=
  match name? text with
  | some (name, '\'' :: _) => some name
  | some (_, '.' :: after) =>
    match name? after with
    | some (name, '\'' :: _) => some name
    | _ => none
  | _ => none

/-- How a duplicate of MySQL begins. -/
def duplicateOpening : List Char := "Duplicate entry '".toList

/-- What stands between the duplicated value and the key. -/
def duplicateKeyOpening : List Char := "' for key '".toList

/-- Reads the key of a duplicate of MySQL. The value may hold anything but a line
feed, so the last key of the line is the one that is meant. -/
def duplicateKey? (text : List Char) : Option (List Char) :=
  (after? duplicateOpening text).bind fun rest =>
    last? (fun tail => (after? duplicateKeyOpening tail).bind key?) (firstLine rest)

/-- How a violated check of SQLite begins. -/
def checkOpening : List Char := "CHECK constraint failed: ".toList

/-- Reads the name of a violated check of SQLite. -/
def sqliteCheck? (text : List Char) : Option (List Char) :=
  ((after? checkOpening text).bind name?).map Prod.fst

/-- How a violated check of MySQL begins. -/
def quotedCheckOpening : List Char := "Check constraint '".toList

/-- How a violated check of MySQL goes on after the name. -/
def quotedCheckClosing : List Char := "' is violated".toList

/-- Reads the name of a violated check of MySQL. -/
def mysqlCheck? (text : List Char) : Option (List Char) :=
  match (after? quotedCheckOpening text).bind name? with
  | some (name, rest) => if quotedCheckClosing.isPrefixOf rest then some name else none
  | none => none

/-- How SQLite reports a dangling reference; the constraint is not named. -/
def danglingPhrase : List Char := "FOREIGN KEY constraint failed".toList

/-- How MySQL reports a dangling reference. -/
def foreignKeyPhrase : List Char := "foreign key constraint fails".toList

/-- Reads the quoted name of a constraint. -/
def quotedConstraint? (text : List Char) : Option (List Char) :=
  match (after? "CONSTRAINT `".toList text).bind name? with
  | some (name, '`' :: _) => some name
  | _ => none

/-- Reads the constraint of a dangling reference of MySQL: the first that is named on
the line. -/
def foreignKey? (text : List Char) : Option (List Char) :=
  (after? (foreignKeyPhrase ++ " (".toList) text).bind fun rest =>
    first? quotedConstraint? (firstLine rest)

/-- The violation that a text reports, if it reports one. -/
def violation? (text : List Char) : Option Failure :=
  match first? uniqueColumns? text with
  | some columns =>
    some (.uniqueViolation
      ((uniqueConstraint? columns).getD (String.ofList (columnsText columns))))
  | none =>
    match first? duplicateKey? text with
    | some key => some (.uniqueViolation (String.ofList key))
    | none =>
      match (first? sqliteCheck? text).or (first? mysqlCheck? text) with
      | some name => some (.checkViolation (String.ofList name))
      | none =>
        if occurs danglingPhrase text then some (.foreignKeyViolation none)
        else if occurs foreignKeyPhrase text then
          some (.foreignKeyViolation ((first? foreignKey? text).map String.ofList))
        else none

end MemoStore.Recognise

namespace MemoStore

/-- The failure that an engine error stands for: the violation its text reports, or
the error itself. -/
def Failure.ofEngine (error : EngineError) : Failure :=
  (Recognise.violation? error.message.toList).getD (.engine error)

end MemoStore
