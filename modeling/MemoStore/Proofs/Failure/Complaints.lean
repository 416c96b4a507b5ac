import MemoStore.Proofs.Failure.Phrases

/-!
# Complaints about constraints

`Complaint` lists what the two engines say when a constraint is violated, and
`Complaint.failure` what it means. `violation?_complaint` says that the meaning is found
again behind any opening that has neither of the two keywords, whatever the names and
whatever value a complaint quotes. Only a text behind the name of a foreign key can hide
it, by holding a phrase that is looked for before.
-/

namespace MemoStore.Recognise

open MemoStore.Text

/-- A text without any phrase that is looked for before the foreign keys of MySQL. -/
structure Silent (text : List Char) : Prop where
  unique : first? uniqueColumns? text = none
  duplicate : first? duplicateKey? text = none
  check : first? sqliteCheck? text = none
  quotedCheck : first? mysqlCheck? text = none
  dangling : ¬ Phrase.dangling.text <:+: text

/-- What an engine says when a constraint is violated. -/
inductive Complaint where
  /-- the columns of a unique constraint, of which there is at least one -/
  | unique (table column : List Char) (more : List (List Char))
  /-- a value that is there already, with the key that forbids it -/
  | duplicate (value : List Char) (table : Option (List Char)) (key : List Char)
  | check (constraint : List Char)
  | quotedCheck (constraint : List Char)
  | dangling
  /-- a foreign key with its table, and whatever is said after its name -/
  | foreignKey (database table constraint rest : List Char)

namespace Complaint

/-- The columns that a complaint about a unique constraint lists. -/
def columns (table column : List Char) (more : List (List Char)) : List QualifiedColumn :=
  ⟨table, column⟩ :: more.map (QualifiedColumn.mk table)

/-- The key of a duplicate as it is quoted, with its table if that is named. -/
def keyText (table : Option (List Char)) (key : List Char) : List Char :=
  match table with
  | some table => table ++ '.' :: key
  | none => key

/-- How a complaint about a foreign key goes on behind its phrase. -/
def keyPath (database table constraint rest : List Char) : List Char :=
  '`' :: (database ++ '`' :: '.' :: '`' :: (table ++ '`' ::
    (", CONSTRAINT ".toList ++ '`' :: (constraint ++ '`' :: rest))))

/-- The text of a complaint. -/
def text : Complaint → List Char
  | .unique table column more =>
    "UNIQUE constraint failed: ".toList ++ columnsText (columns table column more)
  | .duplicate value table key =>
    "Duplicate entry ".toList ++
      '\'' :: (value ++ '\'' :: (" for key ".toList ++ '\'' :: (keyText table key ++ ['\''])))
  | .check constraint => "CHECK constraint failed: ".toList ++ constraint
  | .quotedCheck constraint =>
    "Check constraint ".toList ++ '\'' :: (constraint ++ '\'' :: " is violated.".toList)
  | .dangling => "FOREIGN KEY constraint failed".toList
  | .foreignKey database table constraint rest =>
    "a ".toList ++ ("foreign key constraint fails (".toList ++
      keyPath database table constraint rest)

/-- What a complaint means. A unique constraint is named by the catalog if it is in it,
and else by the list of its columns. -/
def failure : Complaint → Failure
  | .unique table column more =>
    .uniqueViolation
      ((Catalog.uniqueConstraintFor? (String.ofList table)
        ((column :: more).map String.ofList)).getD
          (String.ofList (columnsText (columns table column more))))
  | .duplicate _ _ key => .uniqueViolation (String.ofList key)
  | .check constraint | .quotedCheck constraint => .checkViolation (String.ofList constraint)
  | .dangling => .foreignKeyViolation none
  | .foreignKey _ _ constraint _ => .foreignKeyViolation (some (String.ofList constraint))

/-- The complaints that an engine makes: what should be a name is one, and a quoted value
is on one line and lists no columns of a unique constraint. -/
def Genuine : Complaint → Prop
  | .unique table column more => IsName table ∧ ∀ name ∈ column :: more, IsName name
  | .duplicate value table key =>
    '\n' ∉ value ∧ first? uniqueColumns? value = none ∧ (∀ name ∈ table, IsName name) ∧ IsName key
  | .check constraint | .quotedCheck constraint => IsName constraint
  | .dangling => True
  | .foreignKey database table constraint _ => IsName database ∧ IsName table ∧ IsName constraint

/-- What a complaint says behind the name of a foreign key. -/
def rest : Complaint → List Char
  | .foreignKey _ _ _ rest => rest
  | _ => []

end Complaint

/-- The five searches that come before the foreign keys of MySQL. -/
theorem violation?_of_silent {text : List Char} (silent : Silent text) :
    violation? text =
      if occurs foreignKeyPhrase text then
        some (.foreignKeyViolation ((first? foreignKey? text).map String.ofList))
      else none := by
  have dangling : occurs danglingPhrase text = false := by
    rw [Bool.eq_false_iff, ne_eq, occurs_iff]
    exact silent.dangling
  unfold violation?
  simp only [silent.unique, silent.duplicate, silent.check, silent.quotedCheck, Option.or_none,
    dangling, Bool.false_eq_true, if_false]

/-- Two texts in which all the searches come to the same are both silent or both not. -/
theorem silent_iff {text rest : List Char}
    (searches : ∀ {α : Type} {read : List Char → Option α} {phrase : Phrase},
      phrase ≠ .foreignKey → (∀ tail, read tail ≠ none → phrase.text <+: tail) →
        first? read text = first? read rest)
    (dangling : Phrase.dangling.text <:+: text ↔ Phrase.dangling.text <:+: rest) :
    Silent text ↔ Silent rest := by
  have unique := searches (by decide) fun _ => Phrase.unique_opens
  have duplicate := searches (by decide) fun _ => Phrase.duplicate_opens
  have check := searches (by decide) fun _ => Phrase.check_opens
  have quotedCheck := searches (by decide) fun _ => Phrase.quotedCheck_opens
  constructor
  · intro silent
    exact ⟨unique.symm.trans silent.unique, duplicate.symm.trans silent.duplicate,
      check.symm.trans silent.check, quotedCheck.symm.trans silent.quotedCheck,
      fun occurring => silent.dangling (dangling.mpr occurring)⟩
  · intro silent
    exact ⟨unique.trans silent.unique, duplicate.trans silent.duplicate,
      check.trans silent.check, quotedCheck.trans silent.quotedCheck,
      fun occurring => silent.dangling (dangling.mp occurring)⟩

/-- Only a silent text is understood as a foreign key with a name. -/
theorem silent_of_violation? {text : List Char} {constraint : String}
    (found : violation? text = some (.foreignKeyViolation (some constraint))) :
    Silent text := by
  unfold violation? at found
  split at found
  · cases found
  · rename_i unique
    split at found
    · cases found
    · rename_i duplicate
      split at found
      · cases found
      · rename_i check
        split at found
        · cases found
        · rename_i dangling
          rw [occurs_iff] at dangling
          obtain ⟨plainCheck, quotedCheck⟩ := Option.or_eq_none_iff.mp check
          exact ⟨unique, duplicate, plainCheck, quotedCheck, dangling⟩

namespace Complaint

variable {opening : List Char}

/-- Columns of a unique constraint are found, whatever their tables, and looked up in the
catalog. -/
theorem violation?_columns (plain : Plain opening) {first : QualifiedColumn}
    {others : List QualifiedColumn}
    (named : ∀ column ∈ first :: others, IsName column.table ∧ IsName column.column) :
    violation? (opening ++ (uniqueOpening ++ columnsText (first :: others))) =
      some (.uniqueViolation ((uniqueConstraint? (first :: others)).getD
        (String.ofList (columnsText (first :: others))))) := by
  have read : uniqueColumns? (uniqueOpening ++ columnsText (first :: others)) =
      some (first :: others) := by
    rw [uniqueColumns?, after?_append, Option.bind_some]
    exact columns?_columnsText named
  have found : first? uniqueColumns? (opening ++ (uniqueOpening ++ columnsText (first :: others))) =
      some (first :: others) :=
    (plain.first?_append .unique (fun _ => Phrase.unique_opens) _).trans (first?_of_read read)
  unfold violation?
  rw [found]

/-- Columns of one table are looked up as columns of that table. -/
theorem violation?_unique (plain : Plain opening) {table column : List Char}
    {more : List (List Char)} (tableNamed : IsName table)
    (named : ∀ name ∈ column :: more, IsName name) :
    violation? (opening ++ (unique table column more).text) =
      some (unique table column more).failure := by
  have listed : ∀ qualified ∈ columns table column more,
      IsName qualified.table ∧ IsName qualified.column := by
    intro qualified member
    rcases List.mem_cons.mp member with rfl | later
    · exact ⟨tableNamed, named column (by simp)⟩
    · obtain ⟨name, given, rfl⟩ := List.mem_map.mp later
      exact ⟨tableNamed, named name (List.mem_cons_of_mem column given)⟩
  have names : (columns table column more).map (fun qualified => String.ofList qualified.column) =
      (column :: more).map String.ofList := by
    simp only [columns, List.map_cons, List.map_map]
    rfl
  refine (violation?_columns plain listed).trans ?_
  simp only [failure, columns, uniqueConstraint?] at names ⊢
  rw [names]

/-- The name behind a check of SQLite is found. -/
theorem violation?_check (plain : Plain opening) {constraint : List Char}
    (named : IsName constraint) :
    violation? (opening ++ (check constraint).text) = some (check constraint).failure := by
  have unique : first? uniqueColumns? (opening ++ (check constraint).text) = none :=
    first?_eq_none (fun _ => Phrase.unique_opens)
      (plain.absent_name (by decide : Phrase.unique ≠ .check) (by simp) named)
  have duplicate : first? duplicateKey? (opening ++ (check constraint).text) = none :=
    first?_eq_none (fun _ => Phrase.duplicate_opens)
      (plain.absent_name (by decide : Phrase.duplicate ≠ .check) (by simp) named)
  have name : name? constraint = some (constraint, []) := by
    have read : name? (constraint ++ []) = some (constraint, []) := name?_append named rfl
    rwa [List.append_nil] at read
  have read : sqliteCheck? (check constraint).text = some constraint := by
    unfold sqliteCheck?
    rw [show (check constraint).text = checkOpening ++ constraint from rfl, after?_append,
      Option.bind_some, name]
    rfl
  have found : first? sqliteCheck? (opening ++ (check constraint).text) = some constraint :=
    (plain.first?_append .check (fun _ => Phrase.check_opens) constraint).trans
      (first?_of_read read)
  unfold violation?
  simp only [unique, duplicate, found, Option.some_or]
  rfl

/-- The name between the quotes of a check of MySQL is found. -/
theorem violation?_quotedCheck (plain : Plain opening) {constraint : List Char}
    (named : IsName constraint) :
    violation? (opening ++ (quotedCheck constraint).text) =
      some (quotedCheck constraint).failure := by
  -- Past the quotes, no phrase occurs in the name or in the words behind it.
  have missed : ∀ {α : Type} {read : List Char → Option α} {phrase : Phrase},
      phrase ≠ .quotedCheck → (∀ tail, read tail ≠ none → phrase.text <+: tail) →
        first? read (opening ++ (quotedCheck constraint).text) = none := by
    intro α read phrase different opens
    have closing : ¬ phrase.text <:+: " is violated.".toList := by
      cases phrase <;> simp only [Phrase.text, Phrase.words, String.reduceToList] <;> decide +kernel
    calc first? read (opening ++ (quotedCheck constraint).text)
        = first? read (constraint ++ '\'' :: " is violated.".toList) :=
          plain.first?_past different opens (by simp) _
      _ = first? read " is violated.".toList :=
          first?_past opens (phrase.free _ (by simp)) (phrase.not_infix_name named)
      _ = none := first?_eq_none opens closing
  have unique := missed (by decide) fun _ => Phrase.unique_opens
  have duplicate := missed (by decide) fun _ => Phrase.duplicate_opens
  have check := missed (by decide) fun _ => Phrase.check_opens
  have quoted : quotedCheckOpening = Phrase.quotedCheck.text ++ ['\''] := by
    unfold quotedCheckOpening
    simp only [Phrase.text, Phrase.words, String.reduceToList]
    rfl
  have closing : quotedCheckClosing.isPrefixOf ('\'' :: " is violated.".toList) = true := by
    unfold quotedCheckClosing
    simp only [String.reduceToList]
    decide
  have read : mysqlCheck? (quotedCheck constraint).text = some constraint := by
    have whole : (quotedCheck constraint).text =
        quotedCheckOpening ++ (constraint ++ '\'' :: " is violated.".toList) := by
      rw [quoted, List.append_assoc]
      rfl
    have name : name? (constraint ++ '\'' :: " is violated.".toList) =
        some (constraint, '\'' :: " is violated.".toList) :=
      name?_append named (List.takeWhile_cons_of_neg (by decide))
    unfold mysqlCheck?
    rw [whole, after?_append, Option.bind_some, name]
    simp only [closing, if_true]
  have found : first? mysqlCheck? (opening ++ (quotedCheck constraint).text) = some constraint :=
    (plain.first?_append .quotedCheck (fun _ => Phrase.quotedCheck_opens) _).trans
      (first?_of_read read)
  unfold violation?
  simp only [unique, duplicate, check, found, Option.none_or]
  rfl

/-- A dangling reference of SQLite is recognised. -/
theorem violation?_dangling (plain : Plain opening) :
    violation? (opening ++ dangling.text) = some dangling.failure := by
  have unique := plain.first?_eq_none (by decide : Phrase.unique ≠ .dangling)
    fun _ => Phrase.unique_opens
  have duplicate := plain.first?_eq_none (by decide : Phrase.duplicate ≠ .dangling)
    fun _ => Phrase.duplicate_opens
  have check := plain.first?_eq_none (by decide : Phrase.check ≠ .dangling)
    fun _ => Phrase.check_opens
  have quotedCheck := plain.first?_eq_none (by decide : Phrase.quotedCheck ≠ .dangling)
    fun _ => Phrase.quotedCheck_opens
  have occurring : occurs danglingPhrase (opening ++ dangling.text) = true :=
    (occurs_iff _ _).mpr (List.suffix_append opening _).isInfix
  rw [show Phrase.dangling.text = dangling.text from rfl] at unique duplicate check quotedCheck
  unfold violation?
  simp only [unique, duplicate, check, quotedCheck, Option.or_none, occurring, if_true]
  rfl

/-- The path of a foreign key up to the quote behind its name. -/
def keyPathHead (database table constraint : List Char) : List Char :=
  '`' :: (database ++ '`' :: '.' :: '`' :: (table ++ '`' ::
    (", CONSTRAINT ".toList ++ '`' :: constraint)))

/-- The path of a foreign key is its head and a quote behind it. -/
theorem keyPath_eq (database table constraint rest : List Char) :
    keyPath database table constraint rest =
      keyPathHead database table constraint ++ '`' :: rest := by
  simp [keyPath, keyPathHead]

/-- No phrase but that of foreign keys occurs up to the name of the key. -/
theorem not_infix_head (plain : Plain opening) {database table constraint : List Char}
    (databaseNamed : IsName database) (tableNamed : IsName table) (named : IsName constraint)
    {phrase : Phrase} (different : phrase ≠ .foreignKey) :
    ¬ phrase.text <:+:
      (opening ++ "a ".toList) ++
        (Phrase.foreignKey.text ++ keyPathHead database table constraint) := by
  have free : '`' ∉ phrase.text := phrase.free _ (by simp)
  have point : ¬ phrase.text <:+: ['.'] := by
    cases phrase <;> simp only [Phrase.text, Phrase.words, String.reduceToList] <;> decide
  have words : ¬ phrase.text <:+: ", CONSTRAINT ".toList := by
    cases phrase <;> simp only [Phrase.text, Phrase.words, String.reduceToList] <;> decide +kernel
  intro occurring
  rw [← List.append_assoc] at occurring
  rcases infix_append_cons free occurring with before | occurring
  · exact plain.article.absent different before
  rcases infix_append_cons free occurring with inDatabase | occurring
  · exact phrase.not_infix_name databaseNamed inDatabase
  rcases infix_append_cons free (show phrase.text <:+: ['.'] ++ '`' :: _ from occurring) with
    between | occurring
  · exact point between
  rcases infix_append_cons free occurring with inTable | occurring
  · exact phrase.not_infix_name tableNamed inTable
  rcases infix_append_cons free occurring with inWords | inName
  · exact words inWords
  · exact phrase.not_infix_name named inName

/-- The path of a foreign key stays on its line up to the name. -/
theorem firstLine_keyPath {database table constraint : List Char} (rest : List Char)
    (databaseNamed : IsName database) (tableNamed : IsName table) (named : IsName constraint) :
    firstLine (keyPath database table constraint rest) =
      keyPath database table constraint (firstLine rest) := by
  have apart : ∀ {name : List Char}, IsName name → '\n' ∉ name :=
    fun named => named.not_mem (by decide)
  have words : '\n' ∉ ", CONSTRAINT ".toList := by
    simp only [String.reduceToList]
    decide
  have line : '\n' ∉ keyPathHead database table constraint ++ ['`'] := by
    simp [keyPathHead, apart databaseNamed, apart tableNamed, apart named]
  have split : ∀ later : List Char, keyPath database table constraint later =
      keyPathHead database table constraint ++ ['`'] ++ later := by
    intro later
    rw [keyPath_eq, List.append_assoc]
    rfl
  rw [split, firstLine_append line, ← split]

/-- A quoted constraint is found only behind its keyword. -/
theorem quotedConstraint?_needs {tail : List Char} (found : quotedConstraint? tail ≠ none) :
    "CONSTRAINT ".toList <+: tail := by
  have inside : "CONSTRAINT ".toList <+: "CONSTRAINT `".toList := by
    simp only [String.reduceToList]
    decide
  exact inside.trans (quotedConstraint?_opens found)

/-- The keyword of a quoted constraint occurs in no name, since a name has no space. -/
theorem not_infix_constraintWord {name : List Char} (named : IsName name) :
    ¬ "CONSTRAINT ".toList <:+: name := by
  refine named.not_infix_of_mem (c := ' ') (by decide) ?_
  simp only [String.reduceToList]
  decide

/-- The search for a quoted constraint goes past a quote behind a text without its keyword. -/
theorem first?_quotedConstraint?_past {text : List Char} (rest : List Char)
    (missing : ¬ "CONSTRAINT ".toList <:+: text) :
    first? quotedConstraint? (text ++ '`' :: rest) = first? quotedConstraint? rest := by
  have free : '`' ∉ "CONSTRAINT ".toList := by
    simp only [String.reduceToList]
    decide
  exact first?_past (fun _ => quotedConstraint?_needs) free missing

/-- No quoted constraint begins in the comma in front of it. -/
theorem quotedConstraint?_comma {tail : List Char} (filled : tail ≠ [])
    (suffix : tail <:+ [',', ' ']) (rest : List Char) :
    quotedConstraint? (tail ++ rest) = none := by
  by_cases found : quotedConstraint? (tail ++ rest) = none
  · exact found
  · have starts := quotedConstraint?_needs found
    obtain ⟨c, tail, rfl⟩ := List.exists_cons_of_ne_nil filled
    have member := suffix.subset (List.mem_cons_self)
    simp only [String.reduceToList] at starts
    obtain ⟨rfl, -⟩ := List.cons_prefix_cons.mp starts
    exact absurd member (by decide)

/-- A quoted constraint is read up to its closing quote. -/
theorem quotedConstraint?_quoted {constraint : List Char} (named : IsName constraint)
    (rest : List Char) :
    quotedConstraint? ("CONSTRAINT ".toList ++ '`' :: (constraint ++ '`' :: rest)) =
      some constraint := by
  have opened : "CONSTRAINT ".toList ++ '`' :: (constraint ++ '`' :: rest) =
      "CONSTRAINT `".toList ++ (constraint ++ '`' :: rest) := by
    simp only [String.reduceToList]
    rfl
  have name : name? (constraint ++ '`' :: rest) = some (constraint, '`' :: rest) :=
    name?_append named (List.takeWhile_cons_of_neg (by decide))
  unfold quotedConstraint?
  rw [opened, after?_append, Option.bind_some, name]
  rfl

/-- The first constraint that the path of a foreign key names is its own. -/
theorem first?_quotedConstraint? {database table constraint : List Char} (rest : List Char)
    (databaseNamed : IsName database) (tableNamed : IsName table) (named : IsName constraint) :
    first? quotedConstraint? (keyPath database table constraint rest) = some constraint := by
  have short : ∀ text ∈ [[], ['.']], ¬ "CONSTRAINT ".toList <:+: text := by
    simp only [String.reduceToList]
    decide
  have words : ", CONSTRAINT ".toList = [',', ' '] ++ "CONSTRAINT ".toList := by
    simp only [String.reduceToList]
    rfl
  -- Up to the comma, quotes part names that do not hold the word.
  calc first? quotedConstraint? (keyPath database table constraint rest)
      = first? quotedConstraint? (database ++ '`' :: (['.'] ++ '`' :: (table ++ '`' ::
          (", CONSTRAINT ".toList ++ '`' :: (constraint ++ '`' :: rest))))) :=
        first?_quotedConstraint?_past _ (short [] (by simp))
    _ = first? quotedConstraint? (['.'] ++ '`' :: (table ++ '`' ::
          (", CONSTRAINT ".toList ++ '`' :: (constraint ++ '`' :: rest)))) :=
        first?_quotedConstraint?_past _ (not_infix_constraintWord databaseNamed)
    _ = first? quotedConstraint? (table ++ '`' ::
          (", CONSTRAINT ".toList ++ '`' :: (constraint ++ '`' :: rest))) :=
        first?_quotedConstraint?_past _ (short ['.'] (by simp))
    _ = first? quotedConstraint?
          (", CONSTRAINT ".toList ++ '`' :: (constraint ++ '`' :: rest)) :=
        first?_quotedConstraint?_past _ (not_infix_constraintWord tableNamed)
    _ = first? quotedConstraint? ("CONSTRAINT ".toList ++ '`' :: (constraint ++ '`' :: rest)) := by
        rw [words, List.append_assoc]
        exact first?_append fun tail filled suffix => quotedConstraint?_comma filled suffix _
    _ = some constraint := first?_of_read (quotedConstraint?_quoted named rest)

/-- The constraint on the path of a foreign key is read. -/
theorem foreignKey?_keyPath {database table constraint : List Char} (rest : List Char)
    (databaseNamed : IsName database) (tableNamed : IsName table) (named : IsName constraint) :
    foreignKey? (Phrase.foreignKey.text ++ keyPath database table constraint rest) =
      some constraint := by
  unfold foreignKey?
  rw [Phrase.foreignKey_text, after?_append, Option.bind_some,
    firstLine_keyPath rest databaseNamed tableNamed named]
  exact first?_quotedConstraint? (firstLine rest) databaseNamed tableNamed named

/-- A foreign key of MySQL is found exactly if what stands behind its name is silent. -/
theorem violation?_foreignKey (plain : Plain opening)
    {database table constraint rest : List Char}
    (databaseNamed : IsName database) (tableNamed : IsName table) (named : IsName constraint) :
    violation? (opening ++ (foreignKey database table constraint rest).text) =
        some (foreignKey database table constraint rest).failure ↔ Silent rest := by
  have parted : opening ++ (foreignKey database table constraint rest).text =
      (opening ++ "a ".toList) ++
        (Phrase.foreignKey.text ++ keyPath database table constraint rest) := by
    rw [List.append_assoc]
    rfl
  have head : opening ++ (foreignKey database table constraint rest).text =
      ((opening ++ "a ".toList) ++
        (Phrase.foreignKey.text ++ keyPathHead database table constraint)) ++ '`' :: rest := by
    rw [parted, keyPath_eq]
    simp only [List.append_assoc]
  have searches : ∀ {α : Type} {read : List Char → Option α} {phrase : Phrase},
      phrase ≠ .foreignKey → (∀ tail, read tail ≠ none → phrase.text <+: tail) →
        first? read (opening ++ (foreignKey database table constraint rest).text) =
          first? read rest := by
    intro α read phrase different opens
    rw [head]
    exact first?_past opens (phrase.free '`' (by simp))
      (not_infix_head plain databaseNamed tableNamed named different)
  have dangling : Phrase.dangling.text <:+:
      opening ++ (foreignKey database table constraint rest).text ↔
        Phrase.dangling.text <:+: rest := by
    rw [head]
    constructor
    · intro occurring
      rcases infix_append_cons (Phrase.free .dangling '`' (by simp)) occurring with
        before | behind
      · exact absurd before (not_infix_head plain databaseNamed tableNamed named (by decide))
      · exact behind
    · intro occurring
      exact occurring.trans (List.suffix_append_of_suffix (List.suffix_cons _ _)).isInfix
  rw [← silent_iff searches dangling]
  constructor
  · intro found
    exact silent_of_violation? found
  · intro silent
    have occurring : occurs foreignKeyPhrase
        (opening ++ (foreignKey database table constraint rest).text) = true := by
      rw [occurs_iff, parted, Phrase.foreignKey_text]
      exact ⟨opening ++ "a ".toList, _, by simp only [List.append_assoc]; rfl⟩
    have found : first? foreignKey? (opening ++ (foreignKey database table constraint rest).text) =
        some constraint := by
      rw [parted]
      exact (plain.article.first?_append .foreignKey (fun _ => Phrase.foreignKey_opens) _).trans
        (first?_of_read (foreignKey?_keyPath rest databaseNamed tableNamed named))
    rw [violation?_of_silent silent, occurring, found]
    rfl

end Complaint

/-- Nothing is behind most complaints, and that is silent. -/
theorem silent_nil : Silent [] where
  unique := first?_eq_none (fun _ => Phrase.unique_opens) Phrase.unique.not_infix_nil
  duplicate := first?_eq_none (fun _ => Phrase.duplicate_opens) Phrase.duplicate.not_infix_nil
  check := first?_eq_none (fun _ => Phrase.check_opens) Phrase.check.not_infix_nil
  quotedCheck :=
    first?_eq_none (fun _ => Phrase.quotedCheck_opens) Phrase.quotedCheck.not_infix_nil
  dangling := Phrase.dangling.not_infix_nil

end MemoStore.Recognise
