import MemoStore.Proofs.Document.Layout

/-!
# Reading documents

A reader of whole documents. A node is told from how it begins: a key and its colon begin a record,
a dash begins a list, and anything else is a scalar. A list or record goes on as long as
lines stand at its column. `read?_render` says that each document whose keys are names is
read back, so nothing that a text holds can pass for the structure around it.
-/

namespace MemoStore.Document.Yaml

/-! ## Keys and lines -/

/-- Whether a character can stand in a key. -/
def isKeyChar (c : Char) : Bool :=
  c.isAlpha || c == '_'

/-- Whether a text is a name, which a key can be. -/
def IsName (name : String) : Prop :=
  name.toList ≠ [] ∧ name.toList.all isKeyChar = true

instance (name : String) : Decidable (IsName name) :=
  inferInstanceAs (Decidable (_ ∧ _))

/-- Every character of a name may stand in a key. -/
theorem IsName.letter {name : String} (isName : IsName name) :
    ∀ c ∈ name.toList, isKeyChar c = true :=
  List.all_eq_true.mp isName.2

/-- Whether the colon in front of a text ends a key. -/
def behindKey : List Char → Bool
  | ' ' :: _ | '\n' :: _ => true
  | _ => false

/-- Takes a key and its colon off a text. -/
def key? (text : List Char) : Option (String × List Char) :=
  match text.dropWhile isKeyChar with
  | ':' :: rest =>
    if behindKey rest then some (String.ofList (text.takeWhile isKeyChar), rest) else none
  | _ => none

/-- Takes the indentation off a line that is indented at least so far. -/
def line? (column : Nat) (text : List Char) : Option (List Char) :=
  if (spaces column).isPrefixOf text then some (text.drop column) else none

/-- Takes a dash off a text. -/
def dash? : List Char → Option (List Char)
  | '-' :: ' ' :: rest => some rest
  | _ => none

/-! ## The reader

The first argument of each function bounds how deep the calls go. A call that takes no character
off the text is followed by one that does, and a dash or a key has more than one, so one more
than the length of the text is enough.
-/

mutual

/-- Reads a node from where it begins. Its items or keys stand at `column`, and the lines of a text
at `indent`. -/
def node? : Nat → Nat → Nat → List Char → Option (Node × List Char)
  | 0, _, _, _ => none
  | fuel + 1, column, indent, text =>
    match key? text, dash? text with
    | some (name, value), _ =>
      (fields? fuel column name value).map fun (fields, rest) => (.record fields, rest)
    | none, some item => (items? fuel column item).map fun (items, rest) => (.list items, rest)
    | none, none => scalar? indent text

/-- Reads the items of a list from behind the dash of the first. -/
def items? : Nat → Nat → List Char → Option (List Node × List Char)
  | 0, _, _ => none
  | fuel + 1, column, text =>
    (node? fuel (column + 2) (column + 2) text).bind fun (item, rest) =>
      match (line? column rest).bind dash? with
      | some next => (items? fuel column next).map fun (more, rest) => (item :: more, rest)
      | none => some ([item], rest)

/-- Reads the fields of a record from behind the colon of the first. -/
def fields? : Nat → Nat → String → List Char → Option (List (String × Node) × List Char)
  | 0, _, _, _ => none
  | fuel + 1, column, name, text =>
    (value? fuel column text).bind fun (value, rest) =>
      match (line? column rest).bind key? with
      | some (next, text) =>
        (fields? fuel column next text).map fun (more, rest) => ((name, value) :: more, rest)
      | none => some ([(name, value)], rest)

/-- Reads what stands behind a key at `column` and its colon. -/
def value? : Nat → Nat → List Char → Option (Node × List Char)
  | fuel + 1, column, '\n' :: text =>
    match (line? column text).bind dash?, (line? (column + 2) text).bind key? with
    | some item, _ => (items? fuel column item).map fun (items, rest) => (.list items, rest)
    | none, some (name, value) =>
      (fields? fuel (column + 2) name value).map fun (fields, rest) => (.record fields, rest)
    | none, none => none
  | _ + 1, column, ' ' :: text => scalar? (column + 2) text
  | _, _, _ => none

end

/-- Reads a document. -/
def read? (text : String) : Option Node :=
  match node? (text.toList.length + 1) 0 2 text.toList with
  | some (node, []) => some node
  | _ => none

/-! ## The rules of the reader -/

section

variable {fuel column indent : Nat} {text text' rest rest' : List Char}

/-- A text that opens with neither a key nor a dash is read as a scalar. -/
theorem node?_scalar (key : key? text = none) (dash : dash? text = none) :
    node? (fuel + 1) column indent text = scalar? indent text := by
  rw [node?, key, dash]

/-- A text that opens with a dash is read as a list. -/
theorem node?_list {items : List Node} (key : key? text = none) (dash : dash? text = some text')
    (read : items? fuel column text' = some (items, rest)) :
    node? (fuel + 1) column indent text = some (.list items, rest) := by
  simp only [node?, key, dash, read]
  rfl

/-- A text that opens with a key is read as a record. -/
theorem node?_record {name : String} {fields : List (String × Node)}
    (key : key? text = some (name, text'))
    (read : fields? fuel column name text' = some (fields, rest)) :
    node? (fuel + 1) column indent text = some (.record fields, rest) := by
  simp only [node?, key, read]
  rfl

/-- An item is the last one when its column has no further dash. -/
theorem items?_last {item : Node}
    (read : node? fuel (column + 2) (column + 2) text = some (item, rest))
    (ends : (line? column rest).bind dash? = none) :
    items? (fuel + 1) column text = some ([item], rest) := by
  simp only [items?, read, Option.bind_some, ends]

/-- An item is followed by the items of the next dash in its column. -/
theorem items?_cons {item : Node} {more : List Node}
    (read : node? fuel (column + 2) (column + 2) text = some (item, rest))
    (next : (line? column rest).bind dash? = some text')
    (later : items? fuel column text' = some (more, rest')) :
    items? (fuel + 1) column text = some (item :: more, rest') := by
  simp only [items?, read, Option.bind_some, next, later]
  rfl

/-- A field is the last one when its column has no further key. -/
theorem fields?_last {name : String} {value : Node}
    (read : value? fuel column text = some (value, rest))
    (ends : (line? column rest).bind key? = none) :
    fields? (fuel + 1) column name text = some ([(name, value)], rest) := by
  simp only [fields?, read, Option.bind_some, ends]

/-- A field is followed by the fields of the next key in its column. -/
theorem fields?_cons {name name' : String} {value : Node} {more : List (String × Node)}
    (read : value? fuel column text = some (value, rest))
    (next : (line? column rest).bind key? = some (name', text'))
    (later : fields? fuel column name' text' = some (more, rest')) :
    fields? (fuel + 1) column name text = some ((name, value) :: more, rest') := by
  simp only [fields?, read, Option.bind_some, next, later]
  rfl

/-- Behind a key, a list begins on the next line in the column of the key. -/
theorem value?_list {items : List Node} (dash : (line? column text).bind dash? = some text')
    (read : items? fuel column text' = some (items, rest)) :
    value? (fuel + 1) column ('\n' :: text) = some (.list items, rest) := by
  simp only [value?, dash, read]
  rfl

/-- Behind a key, a record begins on the next line, two columns further in. -/
theorem value?_record {name : String} {fields : List (String × Node)}
    (dash : (line? column text).bind dash? = none)
    (key : (line? (column + 2) text).bind key? = some (name, text'))
    (read : fields? fuel (column + 2) name text' = some (fields, rest)) :
    value? (fuel + 1) column ('\n' :: text) = some (.record fields, rest) := by
  simp only [value?, dash, key, read]
  rfl

end

/-! ## What may stand behind a list -/

/-- Whether the rest of a document is empty or goes on with a line that is no item of a list at
a column. -/
def Past (column : Nat) (rest : List Char) : Prop :=
  rest = [] ∨ ∃ indent c more, rest = spaces indent ++ c :: more ∧ c ≠ ' ' ∧ isBreak c = false ∧
    (indent < column ∨ indent = column ∧ c ≠ '-')

/-- What stands outside a column is past it. -/
theorem Outside.past {column : Nat} {rest : List Char} (outside : Outside column rest) :
    Past column rest := by
  rcases outside with rfl | ⟨indent, c, more, rfl, less, unspaced, within⟩
  · exact .inl rfl
  · exact .inr ⟨indent, c, more, rfl, unspaced, within, .inl less⟩

/-- What stands outside a column stands outside those further in. -/
theorem Outside.mono {column column' : Nat} {rest : List Char} (outside : Outside column rest)
    (less : column ≤ column') : Outside column' rest := by
  rcases outside with rfl | ⟨indent, c, more, rfl, inside, unspaced, within⟩
  · exact .inl rfl
  · exact .inr ⟨indent, c, more, rfl, by omega, unspaced, within⟩

/-- What is past a column stands outside every column further in. -/
theorem Past.outside {column column' : Nat} {rest : List Char} (past : Past column rest)
    (less : column < column') : Outside column' rest := by
  rcases past with rfl | ⟨indent, c, more, rfl, unspaced, within, inside⟩
  · exact .inl rfl
  · exact .inr ⟨indent, c, more, rfl, by omega, unspaced, within⟩

/-- A line that is indented to a column is found there. -/
theorem line?_spaces (column : Nat) (text : List Char) :
    line? column (spaces column ++ text) = some text := by
  have width : (spaces column).length = column := List.length_replicate
  have stands : (spaces column).isPrefixOf (spaces column ++ text) = true :=
    List.isPrefixOf_iff_prefix.mpr ⟨text, rfl⟩
  rw [line?, if_pos stands, List.drop_left' width]

/-- A line that is indented less is not found in the column. -/
theorem line?_less {column indent : Nat} {c : Char} (less : indent < column) (unspaced : c ≠ ' ')
    (more : List Char) : line? column (spaces indent ++ c :: more) = none := by
  rw [line?, spaces_not_prefix less unspaced]
  rfl

/-- Only a dash opens an item. -/
theorem dash?_other {c : Char} (other : c ≠ '-') (more : List Char) : dash? (c :: more) = none := by
  unfold dash?
  split
  · simp_all
  · rfl

/-- A list ends where the rest is no item of it. -/
theorem Past.ends {column : Nat} {rest : List Char} (past : Past column rest) :
    (line? column rest).bind dash? = none := by
  rcases past with rfl | ⟨indent, c, more, rfl, unspaced, -, less | ⟨rfl, other⟩⟩
  · cases column <;> rfl
  · rw [line?_less less unspaced]
    rfl
  · rw [line?_spaces]
    exact dash?_other other more

/-- A record ends where the rest is indented by less. -/
theorem Outside.ends {column : Nat} {rest : List Char} (outside : Outside column rest) :
    (Yaml.line? column rest).bind key? = none := by
  rcases outside with rfl | ⟨indent, c, more, rfl, less, unspaced, -⟩
  · cases column <;> rfl
  · rw [line?_less less unspaced]
    rfl

/-! ## Names -/

/-- What stands behind a key tells the reader that it is one. -/
theorem behindKey_valueText (column : Nat) (node : Node) (rest : List Char) :
    behindKey (valueText column node ++ rest) = true := by
  match node with
  | .text _ | .flag _ | .list [] | .list (_ :: _) | .record [] | .record (_ :: _) => rfl

/-- A name with its colon is read as a key, when a space or a line break follows. -/
theorem key?_name {name : String} (isName : IsName name) {rest : List Char}
    (behind : behindKey rest = true) : key? (name.toList ++ ':' :: rest) = some (name, rest) := by
  have colon : isKeyChar ':' = false := by decide
  have taken : (name.toList ++ ':' :: rest).takeWhile isKeyChar = name.toList := by
    simp [List.takeWhile_append_of_pos isName.letter, colon]
  have dropped : (name.toList ++ ':' :: rest).dropWhile isKeyChar = ':' :: rest := by
    simp [List.dropWhile_append_of_pos isName.letter, colon]
  simp [key?, dropped, taken, behind]

/-- A line that begins with a name is no item of a list. -/
theorem past_name {name : String} (isName : IsName name) (column : Nat) (rest : List Char) :
    Past column (spaces column ++ name.toList ++ rest) := by
  obtain ⟨c, more, letters⟩ := List.exists_cons_of_ne_nil isName.1
  have first : isKeyChar c = true := isName.letter c (letters ▸ List.mem_cons_self)
  have within : isBreak c = false := by
    refine Bool.eq_false_iff.mpr fun ends => ?_
    simp only [isBreak, Bool.or_eq_true, beq_iff_eq] at ends
    rcases ends with (rfl | rfl) | rfl <;> exact absurd first (by decide)
  refine .inr ⟨column, c, more ++ rest, by simp [letters], ?_, within, .inr ⟨rfl, ?_⟩⟩
  all_goals
    rintro rfl
    exact absurd first (by decide)

/-! ## Scalars -/

/-- Whether a text begins neither a record nor a list. -/
def Bare (text : List Char) : Prop :=
  key? text = none ∧ dash? text = none

/-- A text that opens with a mark other than the colon has no key. -/
theorem key?_mark {c : Char} (other : isKeyChar c = false) (colon : c ≠ ':') (rest : List Char) :
    key? (c :: rest) = none := by
  rw [key?, List.dropWhile_cons, other]
  split
  · simp_all
  · rfl

/-- A text that begins with a mark is bare. -/
theorem bare_mark {c : Char} (other : isKeyChar c = false) (colon : c ≠ ':') (dash : c ≠ '-')
    (rest : List Char) : Bare (c :: rest) :=
  ⟨key?_mark other colon rest, dash?_other dash rest⟩

/-- A text that holds no key mark does not begin with a key. -/
theorem key?_unmarked {text : List Char} {spaced : Bool} (unmarked : holdsMark spaced text = false)
    (unbroken : '\n' ∉ text) (rest : List Char) : key? (text ++ '\n' :: rest) = none := by
  have inner : ∀ more, (text ++ '\n' :: rest).dropWhile isKeyChar = ':' :: more →
      behindKey more = false := by
    intro more dropped
    induction text generalizing spaced with
    | nil => cases dropped
    | cons c text inductionHypothesis =>
        rw [holdsMark, Bool.or_eq_false_iff, Bool.or_eq_false_iff] at unmarked
        have later : '\n' ∉ text := fun member => unbroken (List.mem_cons_of_mem _ member)
        rw [List.cons_append, List.dropWhile_cons] at dropped
        split at dropped
        · exact inductionHypothesis unmarked.2 later dropped
        · obtain ⟨rfl, rfl⟩ := List.cons.inj dropped
          cases text with
          | nil => cases unmarked.1.1
          | cons d text =>
              have spaceless : d ≠ ' ' := by simpa [endsWord] using unmarked.1.1
              have feedless : d ≠ '\n' := by
                rintro rfl
                exact later List.mem_cons_self
              simp [behindKey, spaceless, feedless]
  unfold key?
  split
  · rename_i more dropped
    rw [inner more dropped]
    rfl
  · rfl

/-- A text that does not open a structure does not begin with a dash. -/
theorem dash?_unopened {text : List Char} (unopened : opensStructure text = false)
    (nonempty : text ≠ []) (rest : List Char) : dash? (text ++ '\n' :: rest) = none := by
  obtain ⟨c, text, rfl⟩ := List.exists_cons_of_ne_nil nonempty
  by_cases dash : c = '-'
  · subst dash
    cases text with
    | nil => cases unopened
    | cons d text =>
        have spaceless : d ≠ ' ' := by
          rintro rfl
          simp [opensStructure, endsWord] at unopened
        simp [dash?, spaceless]
  · exact dash?_other dash _

/-- The text of a scalar opens neither an item nor a field. -/
theorem bare_scalarText (column : Nat) (text rest : List Char) :
    Bare (scalarText column text ++ rest) := by
  unfold scalarText
  cases style : Style.of text with
  | plain =>
      obtain ⟨unbroken, -, structural⟩ := plain_of_style style
      simp only [readsAsStructure, Bool.or_eq_false_iff] at structural
      rw [List.append_assoc]
      exact ⟨key?_unmarked structural.1.1.1.2 unbroken rest,
        dash?_unopened structural.1.1.1.1 (within_of_plain style).1 rest⟩
  | singleQuoted => exact bare_mark (by decide) (by decide) (by decide) _
  | doubleQuoted => exact bare_mark (by decide) (by decide) (by decide) _
  | block => exact bare_mark (by decide) (by decide) (by decide) _

/-! ## Nodes -/

/-- Whether the keys of all records in a node are names. -/
inductive Named : Node → Prop where
  | text (value : String) : Named (.text value)
  | flag (value : Bool) : Named (.flag value)
  | list {items : List Node} : (∀ item ∈ items, Named item) → Named (.list items)
  | record {fields : List (String × Node)} : (∀ field ∈ fields, IsName field.1) →
      (∀ field ∈ fields, Named field.2) → Named (.record fields)

/-- What the reader makes of the text of a node, whatever stands behind it. -/
structure ReadsBack (node : Node) : Prop where
  whole {column indent fuel : Nat} {rest : List Char} (positive : 0 < indent)
    (deeper : column ≤ indent) (outside : Outside column rest)
    (enough : (nodeText column indent node ++ rest).length < fuel) :
    node? fuel column indent (nodeText column indent node ++ rest) = some (node, rest)
  value {column fuel : Nat} {rest : List Char} (past : Past column rest)
    (enough : (valueText column node ++ rest).length < fuel) :
    value? fuel column (valueText column node ++ rest) = some (node, rest)

/-- A node that is written as a scalar is read back as one. -/
theorem readsBack_scalar {node : Node} (written : Nat → List Char)
    (text : ∀ column indent, nodeText column indent node = written indent)
    (behind : ∀ column, valueText column node = ' ' :: written (column + 2))
    (bare : ∀ indent rest, Bare (written indent ++ rest))
    (read : ∀ indent rest, 0 < indent → Outside indent rest →
      scalar? indent (written indent ++ rest) = some (node, rest)) : ReadsBack node where
  whole {column indent fuel rest} positive deeper outside enough := by
    obtain _ | fuel := fuel
    · omega
    rw [text, node?_scalar (bare indent rest).1 (bare indent rest).2]
    exact read indent rest positive (outside.mono deeper)
  value {column fuel rest} past enough := by
    obtain _ | fuel := fuel
    · omega
    rw [behind, List.cons_append, value?]
    exact read (column + 2) rest (Nat.succ_pos _) (past.outside (by omega))

/-- A node that is written as a word is read back. -/
theorem readsBack_word {node : Node} (c : Char) (word : List Char)
    (start : c ∉ ['\'', '"', '|', ':', '-'])
    (unbroken : '\n' ∉ c :: word) (means : plain? (c :: word) = some node)
    (key : ∀ rest, key? (c :: word ++ '\n' :: rest) = none)
    (text : ∀ column indent, nodeText column indent node = c :: word ++ ['\n'])
    (behind : ∀ column, valueText column node = ' ' :: (c :: word ++ ['\n'])) :
    ReadsBack node := by
  simp only [List.mem_cons, not_or] at start
  obtain ⟨single, double, block, colon, dash, -⟩ := start
  refine readsBack_scalar (fun _ => c :: word ++ ['\n']) text behind (fun _ rest => ?_)
    fun indent rest _ _ => ?_
  · have bare := key rest
    rw [List.append_assoc]
    exact ⟨bare, dash?_other dash _⟩
  · rw [List.append_assoc]
    exact scalar?_word indent single double block unbroken means rest

/-- The items of a list are read back if each of them is. -/
theorem items?_itemsText {item : Node} {more : List Node}
    (readsBack : ∀ node ∈ item :: more, ReadsBack node) {column fuel : Nat} {rest : List Char}
    (past : Past column rest)
    (enough : (nodeText (column + 2) (column + 2) item ++
      (itemsText column more ++ rest)).length + 1 < fuel) :
    items? fuel column (nodeText (column + 2) (column + 2) item ++
      (itemsText column more ++ rest)) = some (item :: more, rest) := by
  induction more generalizing item fuel with
  | nil =>
      obtain _ | fuel := fuel
      · omega
      have first := (readsBack item List.mem_cons_self).whole (Nat.succ_pos _) (Nat.le_refl _)
        (past.outside (by omega)) (Nat.lt_of_succ_lt_succ enough)
      exact items?_last first past.ends
  | cons next more inductionHypothesis =>
      obtain _ | fuel := fuel
      · omega
      have text : itemsText column (next :: more) ++ rest = spaces column ++ '-' :: ' ' ::
          (nodeText (column + 2) (column + 2) next ++ (itemsText column more ++ rest)) := by
        simp [itemsText]
      rw [text] at enough ⊢
      have outside : Outside (column + 2) (spaces column ++ '-' :: ' ' ::
          (nodeText (column + 2) (column + 2) next ++ (itemsText column more ++ rest))) :=
        .inr ⟨column, '-', _, rfl, by omega, by decide, rfl⟩
      have first := (readsBack item List.mem_cons_self).whole (Nat.succ_pos _) (Nat.le_refl _)
        outside (Nat.lt_of_succ_lt_succ enough)
      refine items?_cons first ?_ (inductionHypothesis
        (fun node member => readsBack node (List.mem_cons_of_mem _ member)) ?_)
      · rw [line?_spaces]
        rfl
      · simp only [List.length_append, List.length_cons] at enough ⊢
        omega

/-- The fields of a record are read back if each of their values is. -/
theorem fields?_fieldsText {name : String} {value : Node} {more : List (String × Node)}
    (names : ∀ field ∈ more, IsName field.1)
    (readsBack : ∀ field ∈ (name, value) :: more, ReadsBack field.2) {column fuel : Nat}
    {rest : List Char} (outside : Outside column rest)
    (enough : (valueText column value ++ (fieldsText column more ++ rest)).length + 1 < fuel) :
    fields? fuel column name (valueText column value ++ (fieldsText column more ++ rest)) =
      some ((name, value) :: more, rest) := by
  induction more generalizing name value fuel with
  | nil =>
      obtain _ | fuel := fuel
      · omega
      have first := (readsBack _ List.mem_cons_self).value outside.past
        (Nat.lt_of_succ_lt_succ enough)
      exact fields?_last first outside.ends
  | cons next more inductionHypothesis =>
      obtain _ | fuel := fuel
      · omega
      obtain ⟨nextName, nextValue⟩ := next
      have isName : IsName nextName := names _ List.mem_cons_self
      have text : fieldsText column ((nextName, nextValue) :: more) ++ rest = spaces column ++
          nextName.toList ++ ':' :: (valueText column nextValue ++
            (fieldsText column more ++ rest)) := by
        simp [fieldsText]
      rw [text] at enough ⊢
      have first := (readsBack _ List.mem_cons_self).value (past_name isName column _)
        (Nat.lt_of_succ_lt_succ enough)
      refine fields?_cons first ?_ (inductionHypothesis
        (fun field member => names field (List.mem_cons_of_mem _ member))
        (fun field member => readsBack field (List.mem_cons_of_mem _ member)) ?_)
      · rw [List.append_assoc, line?_spaces]
        exact key?_name isName (behindKey_valueText _ _ _)
      · simp only [List.length_append, List.length_cons] at enough ⊢
        omega

/-- A filled list is read back when its items are. -/
theorem readsBack_list {item : Node} {more : List Node}
    (readsBack : ∀ node ∈ item :: more, ReadsBack node) : ReadsBack (.list (item :: more)) where
  whole {column indent fuel rest} _ _ outside enough := by
    obtain _ | fuel := fuel
    · omega
    have text : nodeText column indent (.list (item :: more)) ++ rest = '-' :: ' ' ::
        (nodeText (column + 2) (column + 2) item ++ (itemsText column more ++ rest)) := by
      simp [nodeText]
    rw [text] at enough ⊢
    refine node?_list (key?_mark rfl (by decide) _) rfl
      (items?_itemsText readsBack outside.past ?_)
    simp only [List.length_cons] at enough
    omega
  value {column fuel rest} past enough := by
    obtain _ | fuel := fuel
    · omega
    have text : valueText column (.list (item :: more)) ++ rest =
        '\n' :: (spaces column ++ '-' :: ' ' ::
          (nodeText (column + 2) (column + 2) item ++ (itemsText column more ++ rest))) := by
      simp [valueText, itemsText]
    rw [text] at enough ⊢
    refine value?_list ?_ (items?_itemsText readsBack past ?_)
    · rw [line?_spaces]
      rfl
    · simp only [List.length_append, List.length_cons] at enough ⊢
      omega

/-- A filled record with names for keys is read back when its values are. -/
theorem readsBack_record {name : String} {value : Node} {more : List (String × Node)}
    (names : ∀ field ∈ (name, value) :: more, IsName field.1)
    (readsBack : ∀ field ∈ (name, value) :: more, ReadsBack field.2) :
    ReadsBack (.record ((name, value) :: more)) := by
  have isName : IsName name := names _ List.mem_cons_self
  have letters : 0 < name.toList.length := List.length_pos_iff.mpr isName.1
  have later (field : String × Node) (member : field ∈ more) : IsName field.1 :=
    names field (List.mem_cons_of_mem _ member)
  refine ⟨fun {column indent fuel rest} _ _ outside enough => ?_,
    fun {column fuel rest} past enough => ?_⟩
  · obtain _ | fuel := fuel
    · omega
    have text : nodeText column indent (.record ((name, value) :: more)) ++ rest =
        name.toList ++ ':' :: (valueText column value ++ (fieldsText column more ++ rest)) := by
      simp [nodeText]
    rw [text] at enough ⊢
    refine node?_record (key?_name isName (behindKey_valueText _ _ _))
      (fields?_fieldsText later readsBack outside ?_)
    simp only [List.length_append, List.length_cons] at enough ⊢
    omega
  · obtain _ | fuel := fuel
    · omega
    have text : valueText column (.record ((name, value) :: more)) ++ rest =
        '\n' :: (spaces (column + 2) ++ (name.toList ++ ':' ::
          (valueText (column + 2) value ++ (fieldsText (column + 2) more ++ rest)))) := by
      simp [valueText, fieldsText]
    rw [text] at enough ⊢
    refine value?_record ?_ ?_ (fields?_fieldsText later readsBack (past.outside (by omega)) ?_)
    · have deeper : spaces (column + 2) = spaces column ++ [' ', ' '] :=
        List.replicate_append_replicate.symm
      rw [deeper, List.append_assoc, line?_spaces]
      rfl
    · rw [line?_spaces]
      exact key?_name isName (behindKey_valueText _ _ _)
    · simp only [List.length_append, List.length_cons] at enough ⊢
      omega

/-- Every node whose keys are names is read back. -/
theorem Named.readsBack {node : Node} (named : Named node) : ReadsBack node := by
  induction named with
  | text value =>
      refine readsBack_scalar (fun indent => scalarText indent value.toList) (fun _ _ => rfl)
        (fun _ => rfl) (fun _ _ => bare_scalarText _ _ _) fun indent rest positive outside => ?_
      rw [scalar?_scalarText positive outside, String.ofList_toList]
  | flag value =>
      cases value with
      | true =>
          exact readsBack_word 't' "rue".toList (by decide) (by decide) rfl (fun _ => rfl)
            (fun _ _ => rfl) fun _ => rfl
      | false =>
          exact readsBack_word 'f' "alse".toList (by decide) (by decide) rfl (fun _ => rfl)
            (fun _ _ => rfl) fun _ => rfl
  | @list items named inductionHypothesis =>
      cases items with
      | nil =>
          exact readsBack_word '[' [']'] (by decide) (by decide) rfl (fun _ => rfl)
            (fun _ _ => rfl) fun _ => rfl
      | cons item more => exact readsBack_list inductionHypothesis
  | @record fields names named inductionHypothesis =>
      cases fields with
      | nil =>
          exact readsBack_word '\x7b' ['\x7d'] (by decide) (by decide) rfl (fun _ => rfl)
            (fun _ _ => rfl) fun _ => rfl
      | cons field more => exact readsBack_record names inductionHypothesis

/-- Every document whose keys are names is read back. -/
theorem read?_render {document : Node} (named : Named document) :
    read? (render document) = some document := by
  have read : node? ((nodeText 0 2 document ++ []).length + 1) 0 2 (nodeText 0 2 document ++ []) =
      some (document, []) :=
    named.readsBack.whole (by decide) (by decide) (.inl rfl) (Nat.lt_succ_self _)
  rw [List.append_nil] at read
  rw [read?, render, String.toList_ofList, flatMap_documentLines, read]

end MemoStore.Document.Yaml
