import MemoStore.Proofs.Document.Scalars

/-!
# The text of a document

The lines of a document, run together. A node is written from where it begins, behind a dash or
behind a key, so the text of a node holds the texts of its parts as they are; the lines move
the first line of an item behind its dash instead. `flatMap_documentLines` says that both
come to the same text.
-/

namespace MemoStore.Document

/-- What holds of a node if it holds of its parts holds of every node. -/
theorem Node.induct {P : Node → Prop} (text : ∀ value, P (.text value))
    (flag : ∀ value, P (.flag value))
    (list : ∀ items, (∀ item ∈ items, P item) → P (.list items))
    (record : ∀ fields, (∀ field ∈ fields, P field.2) → P (.record fields)) : ∀ node, P node
  | .text value => text value
  | .flag value => flag value
  | .list items => list items fun item _ => Node.induct text flag list record item
  | .record fields => record fields fun field _ => Node.induct text flag list record field.2
termination_by node => sizeOf node
decreasing_by
  · have smaller := List.sizeOf_lt_of_mem ‹item ∈ items›
    simp only [Node.list.sizeOf_spec]
    omega
  · have smaller := List.sizeOf_lt_of_mem ‹field ∈ fields›
    rcases field with ⟨name, value⟩
    simp only [Prod.mk.sizeOf_spec, Node.record.sizeOf_spec] at smaller ⊢
    omega

namespace Yaml

/-- A flag as a word. -/
def flagWord (value : Bool) : List Char :=
  (if value then "true" else "false").toList

mutual

/-- What a node is written as from where it begins. Its items or keys stand at `column`, and the
lines of a text at `indent`. -/
def nodeText (column indent : Nat) : Node → List Char
  | .text value => scalarText indent value.toList
  | .flag value => flagWord value ++ ['\n']
  | .list [] => "[]".toList ++ ['\n']
  | .list (item :: more) =>
    '-' :: ' ' :: nodeText (column + 2) (column + 2) item ++ itemsText column more
  | .record [] => "\x7b\x7d".toList ++ ['\n']
  | .record ((name, value) :: more) =>
    name.toList ++ ':' :: valueText column value ++ fieldsText column more

/-- What a node is written as behind a key that stands at `column` and its colon. -/
def valueText (column : Nat) : Node → List Char
  | .text value => ' ' :: scalarText (column + 2) value.toList
  | .flag value => ' ' :: flagWord value ++ ['\n']
  | .list [] => ' ' :: "[]".toList ++ ['\n']
  | .list (item :: more) => '\n' :: itemsText column (item :: more)
  | .record [] => ' ' :: "\x7b\x7d".toList ++ ['\n']
  | .record (field :: more) => '\n' :: fieldsText (column + 2) (field :: more)

/-- What the items of a list are written as, each on its lines. -/
def itemsText (column : Nat) : List Node → List Char
  | [] => []
  | item :: more =>
    spaces column ++ '-' :: ' ' :: nodeText (column + 2) (column + 2) item ++
      itemsText column more

/-- What the fields of a record are written as, each on its lines. -/
def fieldsText (column : Nat) : List (String × Node) → List Char
  | [] => []
  | (name, value) :: more =>
    spaces column ++ name.toList ++ ':' :: valueText column value ++ fieldsText column more

end

/-! ## The first line -/

/-- Whether some lines begin with one that stands at a column and has something on it. -/
def Stand (column : Nat) (lines : List (List Char)) : Prop :=
  ∃ line later, lines = (spaces column ++ line) :: later ∧ line ≠ []

/-- Lines that stand at a column do so whatever lines follow. -/
theorem Stand.append {column : Nat} {lines : List (List Char)} (stand : Stand column lines)
    (more : List (List Char)) : Stand column (lines ++ more) := by
  obtain ⟨line, later, rfl, nonempty⟩ := stand
  exact ⟨line, later ++ more, rfl, nonempty⟩

/-- Lines that stand behind a dash are written as before, with the dash in place of their
indentation. -/
theorem Stand.dashed {column : Nat} {lines : List (List Char)} {text : List Char}
    (stand : Stand (column + 2) lines)
    (written : lines.flatMap ended = spaces (column + 2) ++ text) :
    (dashed column lines).flatMap ended = spaces column ++ '-' :: ' ' :: text ∧
      Stand column (dashed column lines) := by
  obtain ⟨line, later, rfl, nonempty⟩ := stand
  rw [List.flatMap_cons, ended_append nonempty, List.append_assoc] at written
  obtain rfl := List.append_cancel_left written
  have moved : Yaml.dashed column ((spaces (column + 2) ++ line) :: later) =
      (spaces column ++ '-' :: ' ' :: line) :: later := by
    have width : (spaces (column + 2)).length = column + 2 := List.length_replicate
    rw [Yaml.dashed, List.drop_left' width, List.append_assoc]
    rfl
  rw [moved]
  refine ⟨?_, '-' :: ' ' :: line, later, rfl, by simp⟩
  have opening : spaces column ++ '-' :: ' ' :: line = spaces column ++ ['-', ' '] ++ line := by
    simp
  rw [List.flatMap_cons, opening, ended_append nonempty]
  simp

/-- A scalar behind an opening stands where the opening does. -/
theorem stand_scalarLines {column indent : Nat} {opening : List Char} (nonempty : opening ≠ [])
    (text : List Char) : Stand column (scalarLines (spaces column ++ opening) indent text) := by
  unfold scalarLines
  split
  all_goals
    rw [List.append_assoc]
    exact ⟨_, _, rfl, by simp [nonempty]⟩

/-- The first line of a value is the one with its key. -/
theorem stand_valueLines {column indent : Nat} {opening : List Char} (nonempty : opening ≠ [])
    (node : Node) : Stand column (valueLines (spaces column ++ opening) indent node) := by
  unfold valueLines
  split
  · rw [List.append_assoc]
    exact stand_scalarLines (by simp) _
  · rw [List.append_assoc]
    exact ⟨_, _, rfl, by simp [nonempty]⟩
  · split
    · rw [List.append_assoc]
      exact ⟨_, _, rfl, by simp [nonempty]⟩
    · exact ⟨_, _, rfl, nonempty⟩
  · split
    · rw [List.append_assoc]
      exact ⟨_, _, rfl, by simp [nonempty]⟩
    · exact ⟨_, _, rfl, nonempty⟩

/-- A filled record stands at its column. -/
theorem stand_fieldsLines (column : Nat) (field : String × Node) (more : List (String × Node)) :
    Stand column (fieldsLines column (field :: more)) := by
  rw [fieldsLines, List.append_assoc]
  exact (stand_valueLines (by simp) field.2).append _

/-! ## The lines run together -/

/-- What the lines of a node run together to, wherever it stands. -/
structure Written (node : Node) : Prop where
  item : ∀ column, (itemLines column node).flatMap ended =
    spaces column ++ '-' :: ' ' :: nodeText (column + 2) (column + 2) node
  stands : ∀ column, Stand column (itemLines column node)
  value : ∀ opening column, (valueLines (opening ++ [':']) column node).flatMap ended =
    opening ++ ':' :: valueText column node

/-- The lines of a list make its text, when those of its items do. -/
theorem flatMap_itemsLines {items : List Node} (written : ∀ item ∈ items, Written item)
    (column : Nat) : (itemsLines column items).flatMap ended = itemsText column items := by
  induction items with
  | nil => rfl
  | cons item more inductionHypothesis =>
      have later := inductionHypothesis fun item member =>
        written item (List.mem_cons_of_mem _ member)
      rw [itemsLines, List.flatMap_append, (written item List.mem_cons_self).item, later, itemsText]

/-- The lines of a record make its text, when those of its values do. -/
theorem flatMap_fieldsLines {fields : List (String × Node)}
    (written : ∀ field ∈ fields, Written field.2) (column : Nat) :
    (fieldsLines column fields).flatMap ended = fieldsText column fields := by
  induction fields with
  | nil => rfl
  | cons field more inductionHypothesis =>
      obtain ⟨name, value⟩ := field
      have later := inductionHypothesis fun field member =>
        written field (List.mem_cons_of_mem _ member)
      rw [fieldsLines, List.flatMap_append, (written _ List.mem_cons_self).value, later, fieldsText]

/-- A node that is written as a word stands on one line, behind a dash as behind a key. -/
theorem written_word {node : Node} (word : List Char) (c : Char) (within : isBreak c = false)
    (item : ∀ column, itemLines column node = [spaces column ++ '-' :: ' ' :: (word ++ [c])])
    (value : ∀ opening column, valueLines opening column node = [opening ++ ' ' :: (word ++ [c])])
    (text : ∀ column, nodeText column column node = word ++ [c] ++ ['\n'])
    (behind : ∀ column, valueText column node = ' ' :: (word ++ [c] ++ ['\n'])) : Written node := by
  have alone (opening : List Char) :
      [opening ++ (word ++ [c])].flatMap ended = opening ++ (word ++ [c] ++ ['\n']) := by
    rw [List.flatMap_singleton, ended_append (by simp), ended_eq, leavesBroken_of_last within]
    rfl
  refine ⟨fun column => ?_, fun column => ⟨_, _, item column, by simp⟩, fun opening column => ?_⟩
  · have line := alone (spaces column ++ ['-', ' '])
    rw [item, text]
    simpa using line
  · have line := alone (opening ++ [':', ' '])
    rw [value, behind]
    simpa using line

/-- The lines of every node make its text, by induction on the node. -/
theorem written (node : Node) : Written node := by
  induction node using Node.induct with
  | text value =>
      refine ⟨fun column => ?_, fun column => ?_, fun opening column => ?_⟩
      · rw [itemLines, flatMap_scalarLines, nodeText]
        simp
      · rw [itemLines]
        exact stand_scalarLines (by simp) _
      · rw [valueLines, flatMap_scalarLines, valueText]
        simp
  | flag value =>
      cases value with
      | true =>
          exact written_word "tru".toList 'e' rfl (fun _ => rfl) (fun _ _ => rfl) (fun _ => rfl)
            fun _ => rfl
      | false =>
          exact written_word "fals".toList 'e' rfl (fun _ => rfl) (fun _ _ => rfl) (fun _ => rfl)
            fun _ => rfl
  | list items inductionHypothesis =>
      cases items with
      | nil =>
          exact written_word ['['] ']' rfl (fun _ => rfl) (fun _ _ => rfl) (fun _ => rfl)
            fun _ => rfl
      | cons item more =>
          have items := flatMap_itemsLines inductionHypothesis
          have stands (column : Nat) : Stand column (itemsLines column (item :: more)) :=
            ((inductionHypothesis item List.mem_cons_self).stands column).append _
          have behind (column : Nat) := (stands (column + 2)).dashed
            ((items (column + 2)).trans (List.append_assoc _ _ _))
          refine ⟨fun column => (behind column).1, fun column => (behind column).2,
            fun opening column => ?_⟩
          have within : leavesBroken false (opening ++ [':']) = false := leavesBroken_of_last rfl
          have lines : valueLines (opening ++ [':']) column (.list (item :: more)) =
            (opening ++ [':']) :: itemsLines column (item :: more) := rfl
          rw [lines, List.flatMap_cons, items, ended_eq, within, valueText]
          simp
  | record fields inductionHypothesis =>
      cases fields with
      | nil =>
          exact written_word ['\x7b'] '\x7d' rfl (fun _ => rfl) (fun _ _ => rfl) (fun _ => rfl)
            fun _ => rfl
      | cons field more =>
          have fields := flatMap_fieldsLines inductionHypothesis
          have text (column indent : Nat) : fieldsText column (field :: more) =
              spaces column ++ nodeText column indent (.record (field :: more)) := by
            rw [fieldsText, nodeText]
            simp only [List.append_assoc]
          have behind (column : Nat) := (stand_fieldsLines (column + 2) field more).dashed
            ((fields (column + 2)).trans (text _ (column + 2)))
          refine ⟨fun column => (behind column).1, fun column => (behind column).2,
            fun opening column => ?_⟩
          have within : leavesBroken false (opening ++ [':']) = false := leavesBroken_of_last rfl
          have lines : valueLines (opening ++ [':']) column (.record (field :: more)) =
            (opening ++ [':']) :: fieldsLines (column + 2) (field :: more) := rfl
          rw [lines, List.flatMap_cons, fields, ended_eq, within, valueText]
          simp

/-- The lines of a document run together to its text. -/
theorem flatMap_documentLines (node : Node) :
    (documentLines node).flatMap ended = nodeText 0 2 node := by
  match node with
  | .text value => exact flatMap_scalarLines [] 2 value.toList
  | .flag true | .flag false | .list [] | .record [] => rfl
  | .list (item :: more) => exact flatMap_itemsLines (fun item _ => written item) 0
  | .record (field :: more) => exact flatMap_fieldsLines (fun field _ => written field.2) 0

end Yaml

end MemoStore.Document
