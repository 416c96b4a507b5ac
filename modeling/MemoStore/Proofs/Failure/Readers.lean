import MemoStore.Failure.Recognise
import MemoStore.Proofs.Text.Search

/-!
# What the readers of messages read

The readers of names, columns and keys give back what a message was written from, and a
reader that needs a phrase fails where the phrase is missing.
-/

namespace MemoStore.Recognise

open MemoStore.Text

/-- A name: one or more word characters. -/
structure IsName (text : List Char) : Prop where
  filled : text ≠ []
  words : ∀ c ∈ text, isWord c = true

instance (text : List Char) : Decidable (IsName text) :=
  decidable_of_iff (text ≠ [] ∧ text.all isWord = true)
    ⟨fun ⟨filled, words⟩ => ⟨filled, List.all_eq_true.mp words⟩,
      fun name => ⟨name.filled, List.all_eq_true.mpr name.words⟩⟩

/-- A character that is in no name is not in a name. -/
theorem IsName.not_mem {name : List Char} {c : Char} (named : IsName name)
    (apart : isWord c = false) : c ∉ name := by
  intro member
  rw [named.words c member] at apart
  cases apart

/-- A text with a character that is in no name is no part of a name. -/
theorem IsName.not_infix_of_mem {name literal : List Char} {c : Char} (named : IsName name)
    (apart : isWord c = false) (member : c ∈ literal) : ¬ literal <:+: name :=
  fun occurring => named.not_mem apart (occurring.subset member)

/-- A name is read up to where the word characters end. -/
theorem name?_append {name rest : List Char} (named : IsName name)
    (stop : rest.takeWhile isWord = []) : name? (name ++ rest) = some (name, rest) := by
  have left : rest.dropWhile isWord = rest := by
    have whole := List.takeWhile_append_dropWhile (p := isWord) (l := rest)
    rwa [stop, List.nil_append] at whole
  unfold name?
  rw [List.takeWhile_append_of_pos named.words, List.dropWhile_append_of_pos named.words, stop,
    left, List.append_nil, if_neg]
  simpa using named.filled

/-- Reading a name stops at the first character that is in no name. -/
theorem name?_append_cons {text rest : List Char} {c : Char} (apart : isWord c = false) :
    name? (text ++ c :: rest) =
      (name? text).map fun (name, left) => (name, left ++ c :: rest) := by
  have stop : (c :: rest).takeWhile isWord = [] := List.takeWhile_cons_of_neg (by simp [apart])
  have left : (c :: rest).dropWhile isWord = c :: rest :=
    List.dropWhile_cons_of_neg (by simp [apart])
  have taken : (text ++ c :: rest).takeWhile isWord = text.takeWhile isWord := by
    rw [List.takeWhile_append, stop]
    split
    · rename_i all
      rw [List.append_nil]
      exact ((List.takeWhile_prefix isWord).eq_of_length all).symm
    · rfl
  have dropped : (text ++ c :: rest).dropWhile isWord = text.dropWhile isWord ++ c :: rest := by
    rw [List.dropWhile_append, left]
    split
    · rename_i empty
      rw [List.isEmpty_iff.mp empty, List.nil_append]
    · rfl
  unfold name?
  rw [taken, dropped]
  split <;> rfl

/-- A qualified column is read up to where the word characters end. -/
theorem qualified?_append {qualified : QualifiedColumn} {rest : List Char}
    (table : IsName qualified.table) (column : IsName qualified.column)
    (stop : rest.takeWhile isWord = []) :
    qualified? (qualified.text ++ rest) = some (qualified, rest) := by
  have first : name? (qualified.text ++ rest) =
      some (qualified.table, '.' :: (qualified.column ++ rest)) := by
    rw [QualifiedColumn.text, List.append_assoc]
    exact name?_append table (List.takeWhile_cons_of_neg (by decide))
  unfold qualified?
  rw [first]
  simp [name?_append column stop]

/-- The first line goes on behind a text without a line feed. -/
theorem firstLine_append {text : List Char} (line : '\n' ∉ text) (rest : List Char) :
    firstLine (text ++ rest) = text ++ firstLine rest := by
  refine List.takeWhile_append_of_pos fun c member => ?_
  have different : c ≠ '\n' := by
    rintro rfl
    exact line member
  simpa using different

/-- A text without a line feed is its own first line. -/
theorem firstLine_eq_self {text : List Char} (line : '\n' ∉ text) : firstLine text = text := by
  have alone := firstLine_append line []
  rwa [List.append_nil, show firstLine [] = [] from rfl, List.append_nil] at alone

/-- A comma ends the name in front of it. -/
private theorem takeWhile_more (more : List QualifiedColumn) :
    (more.flatMap fun column => ',' :: ' ' :: column.text).takeWhile isWord = [] := by
  cases more with
  | nil => rfl
  | cons _ _ => exact List.takeWhile_cons_of_neg (by decide)

/-- Further columns are read to the end. -/
theorem moreColumns_text {more : List QualifiedColumn}
    (named : ∀ column ∈ more, IsName column.table ∧ IsName column.column) :
    moreColumns (more.flatMap fun column => ',' :: ' ' :: column.text) = more := by
  induction more with
  | nil => simp [moreColumns]
  | cons column more inductionHypothesis =>
      obtain ⟨table, name⟩ := named column (by simp)
      have read := qualified?_append table name (takeWhile_more more)
      rw [List.flatMap_cons, List.cons_append, List.cons_append, moreColumns]
      split
      · rename_i found rest result
        rw [read] at result
        cases result
        rw [inductionHypothesis fun column member => named column (by simp [member])]
      · rename_i result
        rw [read] at result
        cases result

/-- A list of columns is written as its first column and the others behind commas. -/
theorem columnsText_cons (first : QualifiedColumn) (more : List QualifiedColumn) :
    columnsText (first :: more) =
      first.text ++ more.flatMap fun column => ',' :: ' ' :: column.text := by
  have comma : ", ".toList = [',', ' '] := by simp only [String.reduceToList]
  induction more generalizing first with
  | nil => simp [columnsText, List.intercalate]
  | cons column more inductionHypothesis =>
      have next := inductionHypothesis column
      simp only [columnsText, List.map_cons, List.intercalate, List.intersperse_cons_cons,
        List.flatten_cons, List.flatMap_cons, comma] at next ⊢
      rw [next]
      simp

/-- A list of columns is read as it is written. -/
theorem columns?_columnsText {first : QualifiedColumn} {more : List QualifiedColumn}
    (named : ∀ column ∈ first :: more, IsName column.table ∧ IsName column.column) :
    columns? (columnsText (first :: more)) = some (first :: more) := by
  obtain ⟨table, name⟩ := named first (by simp)
  have others := moreColumns_text fun column member =>
    named column (List.mem_cons_of_mem first member)
  rw [columnsText_cons, columns?, qualified?_append table name (takeWhile_more more),
    Option.map_some]
  simp only [others]

/-- A reader behind a literal needs the literal. -/
private theorem opens_of_bind {α : Type} {literal text : List Char} {f : List Char → Option α}
    (found : (after? literal text).bind f ≠ none) : literal <+: text := by
  cases result : after? literal text with
  | none => simp [result] at found
  | some rest => exact ⟨rest, (prefix_of_after? result).symm⟩

/-- Columns are found only behind their opening. -/
theorem uniqueColumns?_opens {text : List Char} (found : uniqueColumns? text ≠ none) :
    uniqueOpening <+: text :=
  opens_of_bind found

/-- A duplicate key is found only behind its opening. -/
theorem duplicateKey?_opens {text : List Char} (found : duplicateKey? text ≠ none) :
    duplicateOpening <+: text :=
  opens_of_bind found

/-- A check of SQLite is found only behind its opening. -/
theorem sqliteCheck?_opens {text : List Char} (found : sqliteCheck? text ≠ none) :
    checkOpening <+: text := by
  refine opens_of_bind (f := name?) fun missing => found ?_
  rw [sqliteCheck?, missing, Option.map_none]

/-- A check of MySQL is found only behind its opening. -/
theorem mysqlCheck?_opens {text : List Char} (found : mysqlCheck? text ≠ none) :
    quotedCheckOpening <+: text := by
  refine opens_of_bind (f := name?) fun missing => found ?_
  rw [mysqlCheck?, missing]

/-- A foreign key of MySQL is found only behind its opening. -/
theorem foreignKey?_opens {text : List Char} (found : foreignKey? text ≠ none) :
    foreignKeyPhrase ++ " (".toList <+: text :=
  opens_of_bind found

/-- A quoted constraint is found only behind its keyword. -/
theorem quotedConstraint?_opens {text : List Char} (found : quotedConstraint? text ≠ none) :
    "CONSTRAINT `".toList <+: text := by
  refine opens_of_bind (f := name?) fun missing => found ?_
  rw [quotedConstraint?, missing]

section

variable {text rest : List Char} {c : Char}

/-- A qualified column does not reach beyond a character that is in none. -/
theorem qualified?_append_cons (apart : isWord c = false) (point : c ≠ '.') :
    qualified? (text ++ c :: rest) =
      (qualified? text).map fun (column, left) => (column, left ++ c :: rest) := by
  unfold qualified?
  rw [name?_append_cons apart]
  cases name? text with
  | none => rfl
  | some read =>
      obtain ⟨table, after⟩ := read
      cases after with
      | nil => simp [point]
      | cons d after =>
          by_cases dot : d = '.'
          · subst dot
            simp only [Option.map_some, List.cons_append, name?_append_cons apart, Option.map_map]
            rfl
          · simp [dot]

/-- Further columns do not reach beyond a character that is in no list of columns. -/
theorem moreColumns_append_cons (apart : isWord c = false) (mark : c ∉ ['.', ',', ' ']) :
    moreColumns (text ++ c :: rest) = moreColumns text := by
  simp only [List.mem_cons, List.not_mem_nil, or_false, not_or] at mark
  obtain ⟨point, comma, space⟩ := mark
  fun_induction moreColumns text with
  | case1 after column left read inductionHypothesis =>
      have within : qualified? (after ++ c :: rest) = some (column, left ++ c :: rest) := by
        rw [qualified?_append_cons apart point, read, Option.map_some]
      rw [List.cons_append, List.cons_append, moreColumns]
      split
      · rename_i found beyond result
        rw [within] at result
        cases result
        rw [inductionHypothesis]
      · rename_i result
        rw [within] at result
        cases result
  | case2 after read =>
      have within : qualified? (after ++ c :: rest) = none := by
        rw [qualified?_append_cons apart point, read, Option.map_none]
      rw [List.cons_append, List.cons_append, moreColumns]
      split
      · rename_i found beyond result
        rw [within] at result
        cases result
      · rfl
  | case3 text other =>
      match text with
      | [] => simp [moreColumns, comma]
      | [d] => simp [moreColumns, space]
      | d :: e :: text =>
          rw [List.cons_append, List.cons_append, moreColumns]
          intro left same
          obtain ⟨rfl, rfl, -⟩ : d = ',' ∧ e = ' ' ∧ _ := by simpa using same
          exact other text rfl

/-- The columns of a violated constraint do not reach beyond a character that is neither in
their list nor before it. -/
theorem uniqueColumns?_append_cons (apart : isWord c = false) (mark : c ∉ ['.', ',', ' '])
    (free : c ∉ uniqueOpening) : uniqueColumns? (text ++ c :: rest) = uniqueColumns? text := by
  have point : c ≠ '.' := fun same => mark (by simp [same])
  have columns (text : List Char) : columns? (text ++ c :: rest) = columns? text := by
    unfold columns?
    rw [qualified?_append_cons apart point]
    cases qualified? text with
    | none => rfl
    | some read => simp only [Option.map_some, moreColumns_append_cons apart mark]
  unfold uniqueColumns?
  rw [after?_append_cons free]
  cases after? uniqueOpening text with
  | none => rfl
  | some left => simp only [Option.map_some, Option.bind_some, columns]

end

/-- A key is read with its closing quote. -/
theorem key?_name {name rest : List Char} (named : IsName name) :
    key? (name ++ '\'' :: rest) = some name := by
  have read : name? (name ++ '\'' :: rest) = some (name, '\'' :: rest) :=
    name?_append named (List.takeWhile_cons_of_neg (by decide))
  unfold key?
  rw [read]
  rfl

/-- A table before a key is read over. -/
theorem key?_qualified {table name rest : List Char} (qualifier : IsName table)
    (named : IsName name) : key? (table ++ '.' :: (name ++ '\'' :: rest)) = some name := by
  have qualified : name? (table ++ '.' :: (name ++ '\'' :: rest)) =
      some (table, '.' :: (name ++ '\'' :: rest)) :=
    name?_append qualifier (List.takeWhile_cons_of_neg (by decide))
  have read : name? (name ++ '\'' :: rest) = some (name, '\'' :: rest) :=
    name?_append named (List.takeWhile_cons_of_neg (by decide))
  unfold key?
  rw [qualified]
  simp only [read]

end MemoStore.Recognise
