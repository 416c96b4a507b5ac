import MemoStore.Proofs.Failure.Duplicates

/-!
# Labels before messages

Most errors of the engine write their message behind a label and a colon, and the phrases are
searched for in all of it. No phrase begins with a colon or a space, and none holds a colon before
its keyword, so no phrase begins in a label that has neither of the two keywords. What such an error
becomes depends on its message alone: `violation?_behind`, `Failure.ofEngine_labelled`.
-/

namespace MemoStore.Recognise

open MemoStore.Text

/-- What stands between a label and the message behind it. -/
def colon : List Char :=
  [':', ' ']

/-- Whether no occurrence of a literal can begin in a label without the keyword, or in the colon
behind it. -/
def Unlabelled (keyword literal : List Char) : Prop :=
  Clashes keyword literal colon ∧ ∀ tail ∈ colon.tails, tail ≠ [] → ¬ Agree literal tail

instance (keyword literal : List Char) : Decidable (Unlabelled keyword literal) :=
  inferInstanceAs (Decidable (_ ∧ _))

namespace Unlabelled

variable {keyword literal label rest : List Char}

/-- An occurrence of the literal does not begin in the colon. -/
theorem not_prefix_colon (unlabelled : Unlabelled keyword literal) {tail : List Char}
    (filled : tail ≠ []) (suffix : tail <:+ colon) : ¬ literal <+: tail ++ rest := by
  intro starts
  exact unlabelled.2 tail ((List.mem_tails tail colon).mpr suffix) filled
    (List.prefix_or_prefix_of_prefix starts (List.prefix_append tail rest))

/-- A search goes past a label if its reader needs the literal. -/
theorem first?_behind {α : Type} {read : List Char → Option α}
    (unlabelled : Unlabelled keyword literal) (absent : ¬ keyword <:+: label)
    (opens : ∀ tail, read tail ≠ none → literal <+: tail) :
    first? read (label ++ (colon ++ rest)) = first? read rest := by
  have fails {tail : List Char} (missing : ¬ literal <+: tail) : read tail = none := by
    by_contra found
    exact missing (opens tail found)
  calc first? read (label ++ (colon ++ rest))
      = first? read (colon ++ rest) := first?_append fun _ filled suffix =>
        fails (unlabelled.1.not_prefix_append absent filled suffix)
    _ = first? read rest := first?_append fun _ filled suffix =>
        fails (unlabelled.not_prefix_colon filled suffix)

/-- The literal occurs behind a label or not at all. -/
theorem infix_behind_iff (unlabelled : Unlabelled keyword literal) (absent : ¬ keyword <:+: label) :
    literal <:+: label ++ (colon ++ rest) ↔ literal <:+: rest := by
  rw [infix_append_iff_of_fails fun _ => unlabelled.1.not_prefix_append absent,
    infix_append_iff_of_fails fun _ => unlabelled.not_prefix_colon]

end Unlabelled

/-- No occurrence of a phrase can begin in a label without its keyword. -/
theorem Phrase.unlabelled (phrase : Phrase) : Unlabelled phrase.keyword.toList phrase.text := by
  cases phrase <;> simp only [keyword, text, words, String.reduceToList] <;> decide +kernel

/-- The same holds of the shorter phrase of a violated foreign key. -/
theorem unlabelled_foreignKeyPhrase : Unlabelled "constraint".toList foreignKeyPhrase := by
  unfold foreignKeyPhrase
  simp only [String.reduceToList]
  decide +kernel

/-! ## Labels of errors -/

/-- A text reports the same violation behind a plain label and a colon. -/
theorem violation?_behind {label : List Char} (plain : Plain label) (text : List Char) :
    violation? (label ++ (colon ++ text)) = violation? text := by
  have searches {α : Type} {read : List Char → Option α} (phrase : Phrase)
      (opens : ∀ tail, read tail ≠ none → phrase.text <+: tail) :
      first? read (label ++ (colon ++ text)) = first? read text :=
    phrase.unlabelled.first?_behind (plain.keyword phrase) opens
  have dangling :
      occurs danglingPhrase (label ++ (colon ++ text)) = occurs danglingPhrase text := by
    rw [Bool.eq_iff_iff, occurs_iff, occurs_iff]
    exact (Phrase.unlabelled .dangling).infix_behind_iff (plain.keyword .dangling)
  have foreignKey :
      occurs foreignKeyPhrase (label ++ (colon ++ text)) = occurs foreignKeyPhrase text := by
    rw [Bool.eq_iff_iff, occurs_iff, occurs_iff]
    exact unlabelled_foreignKeyPhrase.infix_behind_iff plain.constraint
  unfold violation?
  rw [searches .unique fun _ => Phrase.unique_opens,
    searches .duplicate fun _ => Phrase.duplicate_opens,
    searches .check fun _ => Phrase.check_opens,
    searches .quotedCheck fun _ => Phrase.quotedCheck_opens,
    searches .foreignKey fun _ => Phrase.foreignKey_opens, dangling, foreignKey]

end MemoStore.Recognise

namespace MemoStore

/-- A violation of a constraint, whatever its name. -/
def Failure.IsViolation : Failure → Prop
  | .uniqueViolation _ | .foreignKeyViolation _ | .checkViolation _ => True
  | _ => False

/-- What a text reports is a violation. -/
theorem Recognise.isViolation_of_violation? {text : List Char} {failure : Failure}
    (found : violation? text = some failure) : failure.IsViolation := by
  unfold violation? at found
  repeat' split at found
  all_goals cases found <;> trivial

namespace EngineError

/-- The errors that write a message behind a label, and nothing behind the message. -/
def labelled : List (String → EngineError) :=
  [.custom, .execution, .query, .connection, .recordNotFound, .type, .json, .migration,
    .conversion]

variable {carrier : String → EngineError}

/-- The label of a labelled error ends in a colon. -/
theorem exists_label (listed : carrier ∈ labelled) :
    ∃ label, (carrier, label, "") ∈ carriers ∧ label.toList.getLast? = some ':' := by
  have written : ∀ carrier ∈ labelled, ∃ label, (carrier, label, "") ∈ carriers := by
    simp [labelled, carriers, exists_or]
  have closing : ∀ entry ∈ carriers.map Prod.snd,
      entry.2 = "" → entry.1.toList.getLast? = some ':' := by
    simp only [carriers, List.map_cons, List.map_nil, List.forall_mem_cons, String.reduceToList]
    decide
  obtain ⟨label, member⟩ := written carrier listed
  exact ⟨label, member, closing _ (List.mem_map_of_mem member) rfl⟩

/-- A labelled error reports what its message reports. -/
theorem violation?_labelled (listed : carrier ∈ labelled) (m : String) :
    Recognise.violation? (carrier m).message.toList = Recognise.violation? m.toList := by
  obtain ⟨label, written, closing⟩ := exists_label listed
  obtain ⟨words, split⟩ := List.getLast?_eq_some_iff.mp closing
  have plain : Recognise.Plain words := by
    have whole := plain_label written
    rw [split] at whole
    exact whole.of_infix (List.prefix_append words [':']).isInfix
  have message : (carrier m).message.toList = words ++ (Recognise.colon ++ m.toList) := by
    rw [message_of_carrier written]
    simp [split, Recognise.colon]
  rw [message, Recognise.violation?_behind plain]

end EngineError

/-- What an error with a label becomes does not depend on the label: any two with the same message
become the violation that the message reports by itself, or stay what they are if it reports
none. -/
theorem Failure.ofEngine_labelled {first second : String → EngineError}
    (firstListed : first ∈ EngineError.labelled) (secondListed : second ∈ EngineError.labelled)
    (m : String) :
    (∃ failure : Failure, failure.IsViolation ∧ Recognise.violation? m.toList = some failure ∧
      ofEngine (first m) = failure ∧ ofEngine (second m) = failure) ∨
    (Recognise.violation? m.toList = none ∧
      ofEngine (first m) = .engine (first m) ∧ ofEngine (second m) = .engine (second m)) := by
  unfold ofEngine
  rw [EngineError.violation?_labelled firstListed, EngineError.violation?_labelled secondListed]
  cases found : Recognise.violation? m.toList with
  | none => exact .inr ⟨rfl, rfl, rfl⟩
  | some failure =>
      exact .inl ⟨failure, Recognise.isViolation_of_violation? found, rfl, rfl, rfl⟩

/-- The words of a phrase that stand in a message without its first word are not completed by a
label. -/
theorem Failure.ofEngine_labelled_check :
    let m := "constraint failed: a.b, CHECK constraint failed: check_tag_owner"
    EngineError.custom ∈ EngineError.labelled ∧ EngineError.json ∈ EngineError.labelled ∧
      ofEngine (.custom m) = .checkViolation "check_tag_owner" ∧
      ofEngine (.json m) = .checkViolation "check_tag_owner" := by
  intro m
  have custom : EngineError.custom ∈ EngineError.labelled := by simp [EngineError.labelled]
  have json : EngineError.json ∈ EngineError.labelled := by simp [EngineError.labelled]
  have reported : Recognise.violation? m.toList = some (.checkViolation "check_tag_owner") := by
    decide +kernel
  refine ⟨custom, json, ?_⟩
  rcases ofEngine_labelled custom json m with ⟨failure, -, found, same⟩ | ⟨missing, -⟩
  · rw [reported] at found
    cases found
    exact same
  · rw [reported] at missing
    cases missing

end MemoStore
