import MemoStore.Schema.Changelog

/-!
# The steps of the changelog

Each script has as many statements as it creates objects, so pairing the statements with
the objects leaves none of either out. `steps_creates` says which objects the steps of a
variant create, in order, and `steps_sql` that they run all its statements. On MySQL every
statement begins with the definition of the object that its step is said to create
(`definition_of_steps`).
-/

namespace MemoStore.Schema

/-- What holds of the letters that spell a text holds of the text. Evaluating a long
literal goes through its letters, because a text does not evaluate by itself. -/
private theorem of_letters {text : String} {letters : List Char} {p : List Char → Prop}
    (spelled : text = String.ofList letters) (holds : p letters) : p text.toList := by
  rw [spelled, String.toList_ofList]
  exact holds

set_option maxRecDepth 20000 in
/-- The script for SQLite has a statement for every object of it. -/
theorem length_split_sqliteScript :
    (Script.split sqliteScript).length = (scriptObjects .sqlite).length := by
  unfold Script.split sqliteScript
  rw [List.length_map]
  refine of_letters (p := fun letters => (Script.statements letters).length = 5)
    (Eq.refl (String.ofList _)) ?_
  decide +kernel

set_option maxRecDepth 20000 in
/-- The script for MySQL has a statement for every object of it. -/
theorem length_split_mysqlScript :
    (Script.split mysqlScript).length = (scriptObjects .mysql).length := by
  unfold Script.split mysqlScript
  rw [List.length_map]
  refine of_letters (p := fun letters => (Script.statements letters).length = 10)
    (Eq.refl (String.ofList _)) ?_
  decide +kernel

/-- The right halves of a zipped list are the right list up to the length of the left one. -/
private theorem map_snd_zip_eq_take {α β : Type} (left : List α) (right : List β) :
    (left.zip right).map Prod.snd = right.take left.length := by
  induction left generalizing right with
  | nil => simp
  | cons _ left inductionHypothesis =>
      cases right with
      | nil => simp
      | cons _ right => simp [inductionHypothesis]

/-- What the statements of a variant create, in order. -/
def variantObjects (backend : Backend) (variant : Variant) : List Object :=
  scriptObjects backend ++ if variant.hasTagNameIndex then [.tagNameIndex] else []

/-- The steps of a script with one statement for each object create the objects of the variant. -/
private theorem creates_of_script {backend : Backend} {variant : Variant} {script : String}
    (found : script? backend = some script)
    (length : (Script.split script).length = (scriptObjects backend).length) :
    ∃ list, steps backend variant = .ok list ∧
      list.map Step.creates = variantObjects backend variant := by
  refine ⟨_, by rw [steps, statements, found]; rfl, ?_⟩
  have second : (Step.creates ∘ fun pair : String × Object => (⟨pair.1, pair.2⟩ : Step)) =
      Prod.snd := rfl
  rw [List.map_map, second, map_snd_zip_eq_take, List.length_append, length]
  cases variant with
  | uniqueTagName =>
      rw [List.take_of_length_le (by simp [createdObjects, Variant.hasTagNameIndex])]
      rfl
  | basic => simp [variantObjects, createdObjects, Variant.hasTagNameIndex]

/-- A backend with a script has steps for every variant, and they create the objects of
the script and, in one of the variants, the index on tag names. -/
theorem steps_creates {backend : Backend} (supported : backend ≠ .postgres)
    (variant : Variant) :
    ∃ list, steps backend variant = .ok list ∧
      list.map Step.creates = variantObjects backend variant := by
  cases backend with
  | mysql => exact creates_of_script rfl length_split_mysqlScript
  | sqlite => exact creates_of_script rfl length_split_sqliteScript
  | postgres => exact absurd rfl supported

/-- The steps of a variant on MySQL. -/
theorem exists_mysql_steps (variant : Variant) :
    ∃ list, steps .mysql variant = .ok list ∧
      list.map Step.creates = variantObjects .mysql variant :=
  steps_creates (by decide) variant

/-- MySQL has steps for every variant. -/
theorem steps_ne_nil {variant : Variant} {list : List Step}
    (found : steps .mysql variant = .ok list) : list ≠ [] := by
  rintro rfl
  obtain ⟨list, found', creates⟩ := exists_mysql_steps variant
  obtain rfl := Except.ok.inj (found.symm.trans found')
  cases creates

/-- How the statement for MySQL begins that creates an object. -/
def Object.definition : Object → String
  | .table entity => "CREATE TABLE `" ++ entity.table ++ "` ("
  | .foreignKey .memoOwner =>
    "ALTER TABLE `memo` ADD CONSTRAINT `" ++ NamedKey.memoOwner.name ++ "` "
  | .foreignKey .tagOwner =>
    "ALTER TABLE `tag` ADD CONSTRAINT `" ++ NamedKey.tagOwner.name ++ "` "
  | .foreignKey key =>
    "ALTER TABLE `memo_tag_relation` ADD CONSTRAINT `" ++ key.name ++ "` "
  | .trigger which => "CREATE TRIGGER `" ++ which.name ++ "` "
  | .tagNameIndex => "CREATE UNIQUE INDEX `" ++ Schema.tagNameIndex ++ "` "

set_option maxRecDepth 20000 in
/-- Every statement of the script for MySQL creates the object in its place. -/
theorem definition_mysqlScript :
    ∀ pair ∈ (Script.statements mysqlScript.toList).zip (scriptObjects .mysql),
      pair.2.definition.toList.isPrefixOf pair.1 = true := by
  unfold mysqlScript
  refine of_letters (p := fun text => ∀ pair ∈ (Script.statements text).zip (scriptObjects .mysql),
    pair.2.definition.toList.isPrefixOf pair.1 = true) (Eq.refl (String.ofList _)) ?_
  decide +kernel

/-- The steps of a variant run its statements, all of them and in order. -/
theorem steps_sql {backend : Backend} {variant : Variant} {list : List Step}
    (found : steps backend variant = .ok list) :
    statements backend variant = .ok (list.map Step.sql) := by
  have enough : ∀ {script : String}, (Script.split script).length = (scriptObjects backend).length →
      (Script.split script ++
          if variant.hasTagNameIndex then [tagNameIndexSql backend] else []).length ≤
        (createdObjects backend).length := by
    intro script length
    rw [List.length_append, length, createdObjects, List.length_append]
    refine Nat.add_le_add_left ?_ _
    split <;> simp
  cases backend with
  | mysql =>
      obtain rfl := Except.ok.inj found
      rw [List.map_map]
      exact congrArg Except.ok (List.map_fst_zip (enough length_split_mysqlScript)).symm
  | sqlite =>
      obtain rfl := Except.ok.inj found
      rw [List.map_map]
      exact congrArg Except.ok (List.map_fst_zip (enough length_split_sqliteScript)).symm
  | postgres => cases found

/-- The index on tag names is no statement of the script for MySQL. -/
theorem tagNameIndexSql_notMem_mysqlScript :
    tagNameIndexSql .mysql ∉ Script.split mysqlScript := by
  intro member
  obtain ⟨letters, statement, same⟩ := List.mem_map.mp member
  have length := length_split_mysqlScript
  rw [Script.split, List.length_map] at length
  rw [← List.map_fst_zip (Nat.le_of_eq length)] at statement
  obtain ⟨⟨_, object⟩, paired, rfl⟩ := List.mem_map.mp statement
  have begins := definition_mysqlScript _ paired
  rw [← String.toList_ofList (l := Prod.fst _), same] at begins
  have none : ∀ object ∈ scriptObjects .mysql,
      object.definition.toList.isPrefixOf (tagNameIndexSql .mysql).toList = false := by
    decide +kernel
  exact absurd begins (by rw [none object (List.of_mem_zip paired).2]; exact Bool.false_ne_true)

/-- Every step for MySQL creates the object that its statement begins with. -/
theorem definition_of_steps {variant : Variant} {list : List Step}
    (found : steps .mysql variant = .ok list) {step : Step} (member : step ∈ list) :
    step.creates.definition.toList <+: step.sql.toList := by
  obtain rfl := Except.ok.inj found
  obtain ⟨⟨sql, object⟩, paired, rfl⟩ := List.mem_map.mp member
  rw [createdObjects, List.zip_append length_split_mysqlScript] at paired
  rcases List.mem_append.mp paired with script | index
  · rw [Script.split, List.zip_map_left] at script
    obtain ⟨⟨letters, _⟩, inScript, same⟩ := List.mem_map.mp script
    obtain ⟨rfl, rfl⟩ := Prod.mk.inj same
    rw [String.toList_ofList]
    exact List.isPrefixOf_iff_prefix.mp (definition_mysqlScript _ inScript)
  · cases variant with
    | uniqueTagName =>
        obtain ⟨rfl, rfl⟩ := Prod.mk.inj (List.mem_singleton.mp index)
        exact List.isPrefixOf_iff_prefix.mp (by decide +kernel)
    | basic => exact absurd index List.not_mem_nil

end MemoStore.Schema
