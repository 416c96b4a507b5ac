import MemoStore.Proofs.Failure.Complaints

/-!
# Complaints about duplicates

A complaint about a duplicate quotes the value that is there already, and a client may have stored
any text. `violation?_duplicate_line` says what is recognised when the value stands on one
line: the key, unless the value lists the columns of a unique constraint as SQLite does.
`violation?_duplicate_broken` says that a value on several lines keeps the key from being
found. `ofEngine_duplicate` draws both together for every error that carries such a message.
-/

namespace MemoStore.Recognise

open MemoStore.Text

/-- A text that changes nothing behind a complaint: it stays on its line, has no phrase in it, and
does not make another beginning of a key out of a quote. -/
structure Idle (ending : List Char) : Prop where
  line : '\n' ∉ ending
  quote : ¬ ['\'', ' ', 'f'] <:+: '\'' :: ending
  phrases : ∀ phrase : Phrase, ¬ phrase.text <:+: ending
  foreignKey : ¬ foreignKeyPhrase <:+: ending

/-- A value that does not speak for the engine: no phrase of a complaint is in it, and nothing that
could stand between a value and its key. -/
structure Mute (value : List Char) : Prop where
  phrases : ∀ phrase : Phrase, ¬ phrase.text <:+: value
  foreignKey : ¬ foreignKeyPhrase <:+: value
  key : ¬ duplicateKeyOpening <:+: value

/-- The constraint of SQLite that a value claims to have violated. -/
def claimed? (value : List Char) : Option String :=
  (first? uniqueColumns? value).map fun columns =>
    (uniqueConstraint? columns).getD (String.ofList (columnsText columns))

namespace Complaint

variable {opening value key ending : List Char} {table : Option (List Char)}

/-! ## Behind the value -/

/-- What a complaint about a duplicate says behind the value, up to the end of the text. -/
def closing (table : Option (List Char)) (key ending : List Char) : List Char :=
  " for key ".toList ++ '\'' :: (keyText table key ++ '\'' :: ending)

/-- The text of a duplicate entry is its phrase, the quoted value and the closing with the key. -/
theorem duplicate_text (value key ending : List Char) (table : Option (List Char)) :
    (duplicate value table key).text ++ ending =
      Phrase.duplicate.text ++ '\'' :: (value ++ '\'' :: closing table key ending) := by
  have phrase : Phrase.duplicate.text = "Duplicate entry ".toList := rfl
  unfold text closing
  rw [phrase]
  simp only [List.append_assoc, List.cons_append, List.nil_append]

/-- A text with a space and without a point is no part of a key and its table. -/
theorem not_infix_keyText (qualifier : ∀ name ∈ table, IsName name) (named : IsName key)
    {literal : List Char} (spaced : ' ' ∈ literal) (point : '.' ∉ literal) :
    ¬ literal <:+: keyText table key := by
  cases table with
  | none => exact named.not_infix_of_mem (by decide) spaced
  | some table =>
      intro occurring
      rcases infix_append_cons point occurring with before | behind
      · exact (qualifier table rfl).not_infix_of_mem (by decide) spaced before
      · exact named.not_infix_of_mem (by decide) spaced behind

/-- A key and its table hold neither a quote nor a line feed, and begin with a word
character. -/
theorem keyText_letters (qualifier : ∀ name ∈ table, IsName name) (named : IsName key) :
    ∃ c rest, keyText table key = c :: rest ∧ isWord c = true ∧
      ∀ d ∈ keyText table key, d ≠ '\'' ∧ d ≠ '\n' := by
  have letters : ∀ {name : List Char}, IsName name → ∀ d ∈ name, d ≠ '\'' ∧ d ≠ '\n' := by
    intro name named d member
    constructor
    · rintro rfl
      exact named.not_mem (by decide) member
    · rintro rfl
      exact named.not_mem (by decide) member
  have first : ∀ {name : List Char}, IsName name →
      ∃ c rest, name = c :: rest ∧ isWord c = true := by
    intro name named
    obtain ⟨c, rest, rfl⟩ := List.exists_cons_of_ne_nil named.filled
    exact ⟨c, rest, rfl, named.words c (by simp)⟩
  cases table with
  | none =>
      obtain ⟨c, rest, same, word⟩ := first named
      exact ⟨c, rest, same, word, letters named⟩
  | some table =>
      obtain ⟨c, rest, same, word⟩ := first (qualifier table rfl)
      refine ⟨c, rest ++ '.' :: key, by simp [keyText, same], word, ?_⟩
      intro d member
      rcases List.mem_append.mp member with inTable | behind
      · exact letters (qualifier table rfl) d inTable
      · rcases List.mem_cons.mp behind with rfl | inKey
        · decide
        · exact letters named d inKey

/-- A phrase that is in none of the parts behind the value is not there at all. -/
theorem not_infix_closing (qualifier : ∀ name ∈ table, IsName name) (named : IsName key)
    {literal : List Char} (spaced : ' ' ∈ literal) (free : ∀ c ∈ ['\'', '.'], c ∉ literal)
    (words : ¬ literal <:+: " for key ".toList) (behind : ¬ literal <:+: ending) :
    ¬ literal <:+: closing table key ending := by
  have quote : '\'' ∉ literal := free _ (by simp)
  intro occurring
  rcases infix_append_cons quote occurring with inWords | occurring
  · exact words inWords
  rcases infix_append_cons quote occurring with inKey | inEnding
  · exact not_infix_keyText qualifier named spaced (free _ (by simp)) inKey
  · exact behind inEnding

/-- Behind the quote that ends the value, the key is not looked for again. -/
theorem closing_quote (qualifier : ∀ name ∈ table, IsName name) (named : IsName key)
    (idle : Idle ending) : ¬ ['\'', ' ', 'f'] <:+: closing table key ending := by
  obtain ⟨c, rest, same, word, letters⟩ := keyText_letters qualifier named
  have apart : ∀ text : List Char, '\'' ∉ text → ∀ later : List Char,
      ['\'', ' ', 'f'] <:+: text ++ later → ['\'', ' ', 'f'] <:+: later := by
    intro text free later occurring
    induction text with
    | nil => exact occurring
    | cons d text inductionHypothesis =>
        rcases List.infix_cons_iff.mp occurring with starts | behind
        · obtain ⟨rfl, -⟩ := List.cons_prefix_cons.mp starts
          exact absurd (by simp) free
        · exact inductionHypothesis (fun member => free (List.mem_cons_of_mem d member)) behind
  intro occurring
  have quoted := apart " for key ".toList (by simp only [String.reduceToList]; decide) _ occurring
  rcases List.infix_cons_iff.mp quoted with starts | behind
  · rw [same, List.cons_append] at starts
    obtain ⟨-, starts⟩ := List.cons_prefix_cons.mp starts
    obtain ⟨rfl, -⟩ := List.cons_prefix_cons.mp starts
    exact absurd word (by decide)
  · exact idle.quote (apart (keyText table key) (fun member => (letters _ member).1 rfl) _ behind)

/-- What stands behind the value stays on its line. -/
theorem closing_line (qualifier : ∀ name ∈ table, IsName name) (named : IsName key)
    (idle : Idle ending) : '\n' ∉ closing table key ending := by
  obtain ⟨-, -, -, -, letters⟩ := keyText_letters qualifier named
  have words : '\n' ∉ " for key ".toList := by
    simp only [String.reduceToList]
    decide
  intro member
  rcases List.mem_append.mp member with inWords | behind
  · exact words inWords
  · rcases List.mem_cons.mp behind with same | inKey
    · cases same
    · rcases List.mem_append.mp inKey with inText | last
      · exact (letters _ inText).2 rfl
      · rcases List.mem_cons.mp last with same | inEnding
        · cases same
        · exact idle.line inEnding

/-- No phrase is in the words before the key. -/
theorem not_infix_words (phrase : Phrase) : ¬ phrase.text <:+: " for key ".toList := by
  cases phrase <;> simp only [Phrase.text, Phrase.words, String.reduceToList] <;> decide +kernel

/-- No phrase is behind the value. -/
theorem closing_phrase (qualifier : ∀ name ∈ table, IsName name) (named : IsName key)
    (idle : Idle ending) (phrase : Phrase) : ¬ phrase.text <:+: closing table key ending := by
  refine not_infix_closing qualifier named phrase.space_mem ?_ (not_infix_words phrase)
    (idle.phrases phrase)
  intro c listed
  refine phrase.free c ?_
  rcases List.mem_cons.mp listed with rfl | listed
  · simp
  · simp_all

/-! ## What is searched for -/

/-- The columns that a complaint about a duplicate is taken to list are those that its value
lists. -/
theorem first?_uniqueColumns?_duplicate (plain : Plain opening)
    (qualifier : ∀ name ∈ table, IsName name) (named : IsName key) (idle : Idle ending) :
    first? uniqueColumns? (opening ++ ((duplicate value table key).text ++ ending)) =
      first? uniqueColumns? value := by
  -- Columns at the end of the value are not completed by the quote behind it.
  have within : ∀ tail, tail <:+ value →
      uniqueColumns? (tail ++ '\'' :: closing table key ending) = uniqueColumns? tail :=
    fun tail _ => uniqueColumns?_append_cons (by decide) (by decide)
      (Phrase.free .unique '\'' (by simp))
  have nothing : first? uniqueColumns? (closing table key ending) = none :=
    first?_eq_none (fun _ => Phrase.unique_opens) (closing_phrase qualifier named idle .unique)
  calc first? uniqueColumns? (opening ++ ((duplicate value table key).text ++ ending))
      = first? uniqueColumns? (value ++ '\'' :: closing table key ending) := by
        rw [duplicate_text]
        exact plain.first?_past (by decide : Phrase.unique ≠ .duplicate)
          (fun _ => Phrase.unique_opens) (by simp) _
    _ = (first? uniqueColumns? value).or (first? uniqueColumns? (closing table key ending)) :=
        first?_append_cons within
    _ = first? uniqueColumns? value := by rw [nothing, Option.or_none]

/-- The phrase of a duplicate with the quote behind it is how a duplicate begins. -/
theorem duplicateOpening_eq : duplicateOpening = Phrase.duplicate.text ++ ['\''] := by
  unfold duplicateOpening
  simp only [Phrase.text, Phrase.words, String.reduceToList]
  rfl

/-- What is read as a duplicate is the last key on the first line behind the opening quote. -/
theorem duplicateKey?_quoted (rest : List Char) :
    duplicateKey? (Phrase.duplicate.text ++ '\'' :: rest) =
      last? (fun tail => (after? duplicateKeyOpening tail).bind key?) (firstLine rest) := by
  have opened : Phrase.duplicate.text ++ '\'' :: rest = duplicateOpening ++ rest := by
    rw [duplicateOpening_eq, List.append_assoc]
    rfl
  rw [duplicateKey?, opened, after?_append, Option.bind_some]

/-- The key of a duplicate is read if the value is on one line. -/
theorem duplicateKey?_line (line : '\n' ∉ value) (qualifier : ∀ name ∈ table, IsName name)
    (named : IsName key) (idle : Idle ending) :
    duplicateKey? ((duplicate value table key).text ++ ending) = some key := by
  have whole : firstLine (value ++ '\'' :: closing table key ending) =
      value ++ '\'' :: closing table key ending := by
    refine firstLine_eq_self fun member => ?_
    rcases List.mem_append.mp member with inValue | behind
    · exact line inValue
    · rcases List.mem_cons.mp behind with same | inClosing
      · cases same
      · exact closing_line qualifier named idle inClosing
  have quoted : '\'' :: closing table key ending =
      duplicateKeyOpening ++ (keyText table key ++ '\'' :: ending) := by
    unfold closing duplicateKeyOpening
    simp only [String.reduceToList]
    rfl
  have read : key? (keyText table key ++ '\'' :: ending) = some key := by
    cases table with
    | none => exact key?_name named
    | some table =>
        rw [keyText, List.append_assoc]
        exact key?_qualified (qualifier table rfl) named
  rw [duplicate_text, duplicateKey?_quoted, whole]
  refine last?_append (by rw [quoted, after?_append, Option.bind_some, read]) ?_
  intro tail suffix
  rw [after?_eq_none, Option.bind_none]
  intro starts
  have quote : ['\'', ' ', 'f'] <+: duplicateKeyOpening := by
    unfold duplicateKeyOpening
    simp only [String.reduceToList]
    decide
  exact closing_quote qualifier named idle
    ((quote.trans starts).isInfix.trans suffix.isInfix)

/-- No key is read behind a value on several lines. -/
theorem duplicateKey?_broken (broken : '\n' ∈ value) (mute : Mute value) :
    duplicateKey? ((duplicate value table key).text ++ ending) = none := by
  obtain ⟨line, more, rfl, unbroken⟩ := List.eq_append_cons_of_mem broken
  have first (rest : List Char) : firstLine (line ++ '\n' :: rest) = line := by
    rw [firstLine_append unbroken]
    exact List.append_nil line
  rw [duplicate_text, duplicateKey?_quoted, List.append_assoc, List.cons_append, first]
  refine last?_eq_none_iff.mpr fun tail suffix => ?_
  rw [after?_eq_none, Option.bind_none]
  intro starts
  exact mute.key (starts.isInfix.trans (suffix.isInfix.trans (List.prefix_append _ _).isInfix))

/-- A duplicate is looked for in vain behind the place where a complaint about one begins. -/
theorem first?_duplicateKey?_behind (mute : Mute value) (qualifier : ∀ name ∈ table, IsName name)
    (named : IsName key) (idle : Idle ending) :
    first? duplicateKey? ((duplicate value table key).text ++ ending) =
      duplicateKey? ((duplicate value table key).text ++ ending) := by
  have parted : Phrase.duplicate.text = 'D' :: "uplicate entry ".toList := by
    simp only [Phrase.text, Phrase.words, String.reduceToList]
  have shorter : ¬ Phrase.duplicate.text <:+: "uplicate entry ".toList := by
    simp only [Phrase.text, Phrase.words, String.reduceToList]
    decide +kernel
  have free : '\'' ∉ Phrase.duplicate.text := Phrase.free .duplicate _ (by simp)
  have later : first? duplicateKey? ("uplicate entry ".toList ++ '\'' ::
      (value ++ '\'' :: closing table key ending)) = none :=
    calc first? duplicateKey? ("uplicate entry ".toList ++ '\'' ::
          (value ++ '\'' :: closing table key ending))
        = first? duplicateKey? (value ++ '\'' :: closing table key ending) :=
          first?_past (fun _ => Phrase.duplicate_opens) free shorter
      _ = first? duplicateKey? (closing table key ending) :=
          first?_past (fun _ => Phrase.duplicate_opens) free (mute.phrases .duplicate)
      _ = none :=
          first?_eq_none (fun _ => Phrase.duplicate_opens)
            (closing_phrase qualifier named idle .duplicate)
  rw [duplicate_text]
  rw [parted] at *
  rw [List.cons_append, first?, later, Option.or_none]

/-- A phrase that is in no part of a complaint about a duplicate is not in it. -/
theorem not_infix_duplicate {literal : List Char}
    (free : '\'' ∉ literal) (before : ¬ literal <:+: opening ++ Phrase.duplicate.text)
    (inside : ¬ literal <:+: value) (behind : ¬ literal <:+: closing table key ending) :
    ¬ literal <:+: opening ++ ((duplicate value table key).text ++ ending) := by
  rw [duplicate_text, ← List.append_assoc]
  intro occurring
  rcases infix_append_cons free occurring with inOpening | occurring
  · exact before inOpening
  rcases infix_append_cons free occurring with inValue | inClosing
  · exact inside inValue
  · exact behind inClosing

/-- A duplicate is not about a foreign key. -/
theorem not_infix_foreignKey (plain : Plain opening) (mute : Mute value)
    (qualifier : ∀ name ∈ table, IsName name) (named : IsName key) (idle : Idle ending) :
    ¬ foreignKeyPhrase <:+: opening ++ ((duplicate value table key).text ++ ending) := by
  have spelled : foreignKeyPhrase = "foreign key constraint fails".toList := rfl
  have free : ∀ c ∈ ['\'', '.'], c ∉ foreignKeyPhrase := by
    rw [spelled]
    simp only [List.forall_mem_cons, List.not_mem_nil, false_imp_iff, implies_true, and_true,
      String.reduceToList]
    decide
  have spaced : ' ' ∈ foreignKeyPhrase := by
    rw [spelled]
    simp only [String.reduceToList]
    decide
  have words : ¬ foreignKeyPhrase <:+: " for key ".toList := by
    rw [spelled]
    simp only [String.reduceToList]
    decide +kernel
  have clash : Clashes "constraint".toList foreignKeyPhrase Phrase.duplicate.text ∧
      ¬ foreignKeyPhrase <:+: Phrase.duplicate.text ++ [] := by
    rw [spelled]
    simp only [Phrase.text, Phrase.words, String.reduceToList]
    decide +kernel
  have before := clash.1.not_infix_append plain.constraint clash.2
  rw [List.append_nil] at before
  exact not_infix_duplicate (free _ (by simp)) before mute.foreignKey
    (not_infix_closing qualifier named spaced free words idle.foreignKey)

/-! ## What is recognised -/

/-- A duplicate whose value is on one line is recognised by its key, or by the constraint that the
value claims to have violated. -/
theorem violation?_duplicate_line (plain : Plain opening) (line : '\n' ∉ value)
    (qualifier : ∀ name ∈ table, IsName name) (named : IsName key) (idle : Idle ending) :
    violation? (opening ++ ((duplicate value table key).text ++ ending)) =
      some (.uniqueViolation ((claimed? value).getD (String.ofList key))) := by
  have unique : first? uniqueColumns? (opening ++ ((duplicate value table key).text ++ ending)) =
      first? uniqueColumns? value :=
    first?_uniqueColumns?_duplicate plain qualifier named idle
  have found : first? duplicateKey? (opening ++ ((duplicate value table key).text ++ ending)) =
      some key := by
    have read := duplicateKey?_line line qualifier named idle
    rw [duplicate_text] at read ⊢
    exact (plain.first?_append .duplicate (fun _ => Phrase.duplicate_opens) _).trans
      (first?_of_read read)
  unfold violation?
  rw [unique, found, claimed?]
  cases first? uniqueColumns? value <;> rfl

/-- Nothing is recognised in a duplicate whose value is on several lines and does not speak for the
engine. -/
theorem violation?_duplicate_broken (plain : Plain opening) (broken : '\n' ∈ value)
    (mute : Mute value) (qualifier : ∀ name ∈ table, IsName name) (named : IsName key)
    (idle : Idle ending) :
    violation? (opening ++ ((duplicate value table key).text ++ ending)) = none := by
  have missing {phrase : Phrase} (different : phrase ≠ .duplicate) :
      ¬ phrase.text <:+: opening ++ ((duplicate value table key).text ++ ending) :=
    not_infix_duplicate (phrase.free _ (by simp)) (plain.absent different)
      (mute.phrases phrase) (closing_phrase qualifier named idle phrase)
  have duplicate : first? duplicateKey?
      (opening ++ ((duplicate value table key).text ++ ending)) = none := by
    have behind := (first?_duplicateKey?_behind mute qualifier named idle).trans
      (duplicateKey?_broken broken mute)
    rw [duplicate_text] at behind ⊢
    exact (plain.first?_append .duplicate (fun _ => Phrase.duplicate_opens) _).trans behind
  have silent : Silent (opening ++ ((Complaint.duplicate value table key).text ++ ending)) :=
    { unique := first?_eq_none (fun _ => Phrase.unique_opens) (missing (by decide))
      duplicate := duplicate
      check := first?_eq_none (fun _ => Phrase.check_opens) (missing (by decide))
      quotedCheck := first?_eq_none (fun _ => Phrase.quotedCheck_opens) (missing (by decide))
      dangling := missing (by decide) }
  have unmentioned : occurs foreignKeyPhrase
      (opening ++ ((Complaint.duplicate value table key).text ++ ending)) = false := by
    rw [Bool.eq_false_iff, ne_eq, occurs_iff]
    exact not_infix_foreignKey plain mute qualifier named idle
  rw [violation?_of_silent silent, unmentioned]
  rfl

/-- Nothing behind a complaint is idle. -/
theorem idle_nil : Idle [] where
  line := by decide
  quote := by decide
  phrases := Phrase.not_infix_nil
  foreignKey := by
    unfold foreignKeyPhrase
    simp only [String.reduceToList]
    decide

/-- The key of a duplicate is found unless the value lists columns itself. -/
theorem violation?_duplicate (plain : Plain opening) (line : '\n' ∉ value)
    (quiet : first? uniqueColumns? value = none) (qualifier : ∀ name ∈ table, IsName name)
    (named : IsName key) :
    violation? (opening ++ (duplicate value table key).text) =
      some (duplicate value table key).failure := by
  have recognised := violation?_duplicate_line plain line qualifier named idle_nil
  rw [List.append_nil] at recognised
  rw [recognised, claimed?, quiet]
  rfl

end Complaint

end MemoStore.Recognise

namespace MemoStore

open Recognise (Plain Idle IsName Complaint claimed? Mute)

/-! ## The errors that carry a message -/

namespace EngineError

/-- The errors that carry a message of the engine, each with what it says before the message and
behind it. -/
def carriers : List ((String → EngineError) × String × String) :=
  [(.custom, "Custom Error:", ""), (.execution, "Execution Error:", ""),
    (.query, "Query Error:", ""), (.connection, "Connection Error:", ""),
    (.recordNotFound, "RecordNotFound Error:", ""), (.attributeNotSet, "Attribute", " is NotSet"),
    (.type, "Type Error:", ""), (.json, "Json Error:", ""), (.migration, "Migration Error:", ""),
    (.conversion, "Error converting `i64` into `i32`:", "")]

variable {carrier : String → EngineError} {label ending : String}

/-- An error that carries a message puts its label in front and its ending behind. -/
theorem message_of_carrier (listed : (carrier, label, ending) ∈ carriers) (m : String) :
    (carrier m).message = label ++ " " ++ m ++ ending := by
  simp only [carriers, List.mem_cons, Prod.mk.injEq, List.not_mem_nil, or_false] at listed
  rcases listed with listed | listed | listed | listed | listed | listed | listed | listed |
      listed | listed <;> obtain ⟨rfl, rfl, rfl⟩ := listed <;> unfold EngineError.message <;>
    simp only [String.reduceAppend, String.append_empty]

/-- What an error says before its message is plain. -/
theorem plain_label (listed : (carrier, label, ending) ∈ carriers) : Plain label.toList := by
  have labels : ∀ label ∈ carriers.map fun entry => entry.2.1, Plain label.toList := by
    simp only [carriers, List.map_cons, List.map_nil, List.forall_mem_cons, String.reduceToList]
    decide +kernel
  exact labels label (List.mem_map_of_mem listed)

/-- What an error says behind its message changes nothing. -/
theorem idle_ending (listed : (carrier, label, ending) ∈ carriers) : Idle ending.toList := by
  have notSet : Idle " is NotSet".toList := by
    constructor
    · simp only [String.reduceToList]
      decide
    · simp only [String.reduceToList]
      decide
    · intro phrase
      cases phrase <;> simp only [Recognise.Phrase.text, Recognise.Phrase.words,
        String.reduceToList] <;> decide +kernel
    · unfold Recognise.foreignKeyPhrase
      simp only [String.reduceToList]
      decide +kernel
  have endings : ∀ ending ∈ carriers.map fun entry => entry.2.2,
      ending = "" ∨ ending = " is NotSet" := by
    simp only [carriers, List.map_cons, List.map_nil, List.forall_mem_cons]
    decide
  rcases endings ending (List.mem_map_of_mem listed) with rfl | rfl
  · exact Complaint.idle_nil
  · exact notSet

/-- An error says a text that stands behind a plain opening in the same way. -/
theorem message_of_carrier_behind (listed : (carrier, label, ending) ∈ carriers)
    {opening : List Char} (plain : Plain opening) :
    ∃ before behind, Plain before ∧ Idle behind ∧ ∀ text : List Char,
      (carrier (String.ofList (opening ++ text))).message.toList = before ++ (text ++ behind) := by
  refine ⟨label.toList ++ ' ' :: opening, ending.toList,
    (plain_label listed).append_cons plain, idle_ending listed, fun text => ?_⟩
  rw [message_of_carrier listed]
  simp

end EngineError

/-! ## What an error about a duplicate becomes -/

/-- What an error about a duplicate becomes depends on the value that it quotes. Values on one line
that list no columns of SQLite all become the same violation of the key. A value that lists such
columns becomes a violation of their constraint, and one with a line feed keeps the violation from
being recognised. -/
theorem Failure.ofEngine_duplicate {carrier : String → EngineError} {label ending : String}
    (listed : (carrier, label, ending) ∈ EngineError.carriers) {opening : List Char}
    (plain : Plain opening) {table : Option (List Char)} {key : List Char}
    (qualifier : ∀ name ∈ table, IsName name) (named : IsName key) :
    let error (value : List Char) :=
      carrier (String.ofList (opening ++ (Complaint.duplicate value table key).text))
    (∀ value, '\n' ∉ value →
      ofEngine (error value) = .uniqueViolation ((claimed? value).getD (String.ofList key))) ∧
    (∀ value, '\n' ∈ value → Mute value → ofEngine (error value) = .engine (error value)) ∧
    (∀ first second, '\n' ∉ first → '\n' ∉ second → claimed? first = none →
      claimed? second = none →
        ofEngine (error first) = ofEngine (error second) ∧ (ofEngine (error first)).code = 10) := by
  intro error
  obtain ⟨before, behind, plainBefore, idle, message⟩ :=
    EngineError.message_of_carrier_behind listed plain
  have onLine : ∀ value, '\n' ∉ value →
      ofEngine (error value) = .uniqueViolation ((claimed? value).getD (String.ofList key)) := by
    intro value line
    rw [ofEngine, message,
      Complaint.violation?_duplicate_line plainBefore line qualifier named idle]
    rfl
  refine ⟨onLine, ?_, ?_⟩
  · intro value broken mute
    rw [ofEngine, message,
      Complaint.violation?_duplicate_broken plainBefore broken mute qualifier named idle]
    rfl
  · intro first second firstLine secondLine firstQuiet secondQuiet
    rw [onLine first firstLine, onLine second secondLine, firstQuiet, secondQuiet]
    exact ⟨rfl, rfl⟩

/-- Two values of a user that break the same key, and one that broke it with a line feed. -/
theorem Failure.ofEngine_duplicate_values :
    let error (value : String) := EngineError.execution (String.ofList ([] ++
      (Complaint.duplicate value.toList (some "user".toList) "uniq_code".toList).text))
    ofEngine (error "abc") = ofEngine (error "it's") ∧
      ofEngine (error "abc") = .uniqueViolation "uniq_code" ∧
      ofEngine (error "a\nb") = .engine (error "a\nb") := by
  intro error
  have qualifier : ∀ name ∈ some "user".toList, IsName name := by
    simp only [String.reduceToList, Option.mem_some_iff, forall_eq']
    decide +kernel
  have named : IsName "uniq_code".toList := by
    simp only [String.reduceToList]
    decide +kernel
  have mute : Mute "a\nb".toList := by
    constructor
    · intro phrase
      cases phrase <;> simp only [Recognise.Phrase.text, Recognise.Phrase.words,
        String.reduceToList] <;> decide +kernel
    · unfold Recognise.foreignKeyPhrase
      simp only [String.reduceToList]
      decide +kernel
    · unfold Recognise.duplicateKeyOpening
      simp only [String.reduceToList]
      decide +kernel
  have line : '\n' ∉ "abc".toList ∧ '\n' ∉ "it's".toList ∧ '\n' ∈ "a\nb".toList := by
    simp only [String.reduceToList]
    decide
  have quiet : claimed? "abc".toList = none ∧ claimed? "it's".toList = none := by
    simp only [String.reduceToList]
    decide +kernel
  have listed : (EngineError.execution, "Execution Error:", "") ∈ EngineError.carriers := by
    simp [EngineError.carriers]
  have plain : Plain [] := by decide
  obtain ⟨onLine, broken, same⟩ := ofEngine_duplicate listed plain qualifier named
  refine ⟨(same _ _ line.1 line.2.1 quiet.1 quiet.2).1, ?_, broken _ line.2.2 mute⟩
  rw [onLine _ line.1, quiet.1, Option.getD_none, String.ofList_toList]

/-- Three values that break the same key become three different failures. -/
theorem Failure.ofEngine_duplicate_told_apart :
    let error (value : String) := EngineError.execution (String.ofList
      (Complaint.duplicate value.toList (some "user".toList) "uniq_code".toList).text)
    ofEngine (error "ab") = .uniqueViolation "uniq_code" ∧
      ofEngine (error "a\nb") = .engine (error "a\nb") ∧
      ofEngine (error "UNIQUE constraint failed: memo.title") = .uniqueViolation "memo.title" ∧
      (ofEngine (error "ab")).code ≠ (ofEngine (error "a\nb")).code := by
  intro error
  have line : ofEngine (error "ab") = .uniqueViolation "uniq_code" := by decide +kernel
  have broken : ofEngine (error "a\nb") = .engine (error "a\nb") := by decide +kernel
  have claiming : ofEngine (error "UNIQUE constraint failed: memo.title") =
      .uniqueViolation "memo.title" := by decide +kernel
  refine ⟨line, broken, claiming, ?_⟩
  rw [line, broken]
  simp [Failure.code]

end MemoStore
