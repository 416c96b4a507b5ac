import MemoStore.Proofs.Document.Tables
import MemoStore.Proofs.Json.Readers

/-!
# Reading JSON

Every part of a document is read, if what stands behind it does not go on with it: behind an entry
stands a comma or the mark that closes the list, which neither a number nor blanks can take
up. With `read?_iff` the reader reads the documents of the grammar and no other text, each as
the value that the grammar gives it, so no text is a document of two values. `json_lossless`
says that every list of tables is read back from its JSON document.
-/

namespace MemoStore.Document.Json

/-! ## What is there is read -/

/-- Whether a text begins with a character of a kind, if it begins with any. -/
def Opens (kind : Char → Bool) (text : List Char) : Prop :=
  ∀ c ∈ text.head?, kind c = true

/-- A filled text opens as its first character says. -/
theorem opens_cons {kind : Char → Bool} {c : Char} {text : List Char} :
    Opens kind (c :: text) ↔ kind c = true := by
  simp [Opens]

/-- Of the end of the text nothing is asked. -/
theorem opens_nil {kind : Char → Bool} : Opens kind [] := nofun

/-- The characters that can stand in a number are neither blank nor marks. -/
theorem kinds {c : Char} :
    (isMark c = true → isNumberChar c = false ∧ isBlank c = false) ∧
      (isBlank c = true → isNumberChar c = false) := by
  constructor
  · intro mark
    simp only [isMark, List.contains_eq_mem, decide_eq_true_eq, List.mem_cons, List.not_mem_nil,
      or_false] at mark
    rcases mark with rfl | rfl | rfl <;> decide
  · intro blank
    simp only [isBlank, Bool.or_eq_true, beq_iff_eq] at blank
    rcases blank with ((rfl | rfl) | rfl) | rfl <;> decide

/-- Skipping the blanks stops at the first character that is none. -/
theorem skip_eq {text rest : List Char} (blanks : Blanks text rest)
    (shown : Opens (fun c => !isBlank c) rest) : skip text = rest := by
  induction blanks with
  | @none rest =>
      cases rest with
      | nil => rfl
      | cons c rest => exact List.dropWhile_cons_of_neg (by simpa using opens_cons.mp shown)
  | more blank later inductionHypothesis =>
      exact (List.dropWhile_cons_of_pos blank).trans (inductionHypothesis shown)

/-- Behind a value with a mark behind it stands nothing that a number could go on with. -/
theorem opens_of_blanks {behind rest : List Char} (blanks : Blanks behind rest)
    (marked : Opens isMark rest) : Opens (fun c => !isNumberChar c) behind := by
  cases blanks with
  | none =>
      intro c first
      simp [(kinds.1 (marked c first)).1]
  | more blank later => exact opens_cons.mpr (by simp [kinds.2 blank])

/-! ### Numbers -/

/-- A character of a text is one of the signs or survives the removal of a sign. -/
theorem mem_unsigned (signs : List Char) {text : List Char} {c : Char} (member : c ∈ text) :
    c ∈ signs ∨ c ∈ unsigned signs text := by
  cases text with
  | nil => cases member
  | cons d text =>
      rw [unsigned]
      split
      · rename_i sign
        rcases List.mem_cons.mp member with rfl | later
        · exact .inl (by simpa using sign)
        · exact .inr later
      · exact .inr member

/-- A character of a text stands before the first one without a property, is that one, or stands
behind it. -/
theorem mem_parts {text : List Char} {c : Char} (p : Char → Bool) (member : c ∈ text) :
    c ∈ text.takeWhile p ∨ p c = false ∨ c ∈ (text.dropWhile p).tail := by
  have whole := List.takeWhile_append_dropWhile (p := p) (l := text)
  rw [← whole] at member
  refine (List.mem_append.mp member).imp_right fun dropped => ?_
  cases same : text.dropWhile p with
  | nil =>
      rw [same] at dropped
      cases dropped
  | cons d rest =>
      rw [same] at dropped
      rcases List.mem_cons.mp dropped with rfl | later
      · have first := List.head?_dropWhile_not p text
        rw [same] at first
        exact .inl (by simpa using first)
      · exact .inr later

/-- A number is made of the characters that can stand in one, of which it has some. -/
theorem numberChars {literal : List Char} (number : isNumber literal = true) :
    literal ≠ [] ∧ ∀ c ∈ literal, isNumberChar c = true := by
  have ofDigits {text : List Char} (digits : isDigits text = true) :
      ∀ c ∈ text, isNumberChar c = true := by
    intro c member
    simp only [isDigits, Bool.and_eq_true, List.all_eq_true] at digits
    simp [isNumberChar, digits.2 c member]
  have ofSign {signs : List Char} (listed : signs ⊆ ['+', '-']) :
      ∀ c ∈ signs, isNumberChar c = true := by
    intro c member
    have sign := listed member
    simp only [List.mem_cons, List.not_mem_nil, or_false] at sign
    rcases sign with rfl | rfl <;> decide
  unfold isNumber at number
  simp only [Bool.and_eq_true, Bool.or_eq_true] at number
  obtain ⟨⟨whole, fraction⟩, exponent⟩ := number
  constructor
  · rintro rfl
    simp [unsigned, isWhole, isDigits] at whole
  intro c member
  rcases mem_unsigned ['-'] member with sign | inBody
  · exact ofSign (by simp) c sign
  rcases mem_parts isMantissaChar inBody with inMantissa | mark | inExponent
  · rcases mem_parts (· != '.') inMantissa with inWhole | point | inFraction
    · exact ofDigits (by simp only [isWhole, Bool.and_eq_true] at whole; exact whole.1) c inWhole
    · obtain rfl : c = '.' := by simpa using point
      decide
    · rcases fraction with empty | digits
      · rw [List.isEmpty_iff.mp empty] at inFraction
        cases inFraction
      · exact ofDigits digits c inFraction
  · have letter : c = 'e' ∨ c = 'E' := by
      simpa [isMantissaChar, Classical.or_iff_not_imp_left] using mark
    rcases letter with rfl | rfl <;> decide
  · rcases exponent with empty | digits
    · rw [List.isEmpty_iff.mp empty] at inExponent
      cases inExponent
    · rcases mem_unsigned ['+', '-'] inExponent with sign | inDigits
      · exact ofSign (by simp) c sign
      · exact ofDigits digits c inDigits

/-- A number is read as far as it goes. -/
theorem literal?_number {literal rest : List Char} (number : isNumber literal = true)
    (outside : Opens (fun c => !isNumberChar c) rest) :
    literal? (literal ++ rest) = some (.number literal, rest) := by
  have stop : rest.takeWhile isNumberChar = [] ∧ rest.dropWhile isNumberChar = rest := by
    cases rest with
    | nil => exact ⟨rfl, rfl⟩
    | cons c rest =>
        have apart : ¬ isNumberChar c = true := by simpa using opens_cons.mp outside
        exact ⟨List.takeWhile_cons_of_neg apart, List.dropWhile_cons_of_neg apart⟩
  have inside := (numberChars number).2
  have taken : (literal ++ rest).takeWhile isNumberChar = literal := by
    rw [List.takeWhile_append_of_pos inside, stop.1, List.append_nil]
  have left : (literal ++ rest).dropWhile isNumberChar = rest := by
    rw [List.dropWhile_append_of_pos inside, stop.2]
  rw [literal?, taken, left, if_pos number]

/-- A word is read as what it stands for. -/
theorem literal?_word {word rest : List Char} {value : Value} (listed : (word, value) ∈ words) :
    literal? (word ++ rest) = some (value, rest) := by
  simp only [words, String.reduceToList, List.mem_cons, Prod.mk.injEq, List.not_mem_nil,
    or_false] at listed
  rcases listed with ⟨rfl, rfl⟩ | ⟨rfl, rfl⟩ | ⟨rfl, rfl⟩ <;>
    simp [literal?, words, Text.after?, isNumberChar, isNumber, isWhole, isDigits, unsigned]

/-! ### Values -/

/-- What follows blanks is no longer than the blanks with it. -/
theorem blanks_length {text rest : List Char} (blanks : Blanks text rest) :
    rest.length ≤ text.length := by
  induction blanks with
  | none => exact Nat.le_refl _
  | more _ _ inductionHypothesis => exact Nat.le_succ_of_le inductionHypothesis

section

variable {α : Type} {part : Part α}

/-- A part that takes characters takes them also between blanks. -/
theorem padded_shorter {value : α} (shorter : ∀ {text rest}, part text value rest →
    rest.length < text.length) {text rest : List Char} (padded : Padded part text value rest) :
    rest.length < text.length := by
  cases padded with
  | mk before inside behind =>
      have first := blanks_length before
      have middle := shorter inside
      have last := blanks_length behind
      omega

/-- A field takes characters when its value does. -/
theorem field_shorter {name : String} {value : α} (shorter : ∀ {text rest}, part text value rest →
    rest.length < text.length) {text rest : List Char}
    (field : Field part text (name, value) rest) : rest.length < text.length := by
  cases field with
  | mk before named colon padded =>
      have first := blanks_length before
      have second := named.shorter
      have third := blanks_length colon
      have last := padded_shorter shorter padded
      simp only [List.length_cons] at first third
      omega

/-- Entries take characters when each of them does. -/
theorem entries_shorter {close : Char} {values : List α} (shorter : ∀ value ∈ values,
    ∀ {text rest}, part text value rest → rest.length < text.length) {text rest : List Char}
    (entries : Entries part close text values rest) : rest.length < text.length := by
  induction entries with
  | last entry =>
      have whole := shorter _ (by simp) entry
      simp only [List.length_cons] at whole
      omega
  | more entry later inductionHypothesis =>
      have first := shorter _ (by simp) entry
      have others := inductionHypothesis fun value member =>
        shorter value (List.mem_cons_of_mem _ member)
      simp only [List.length_cons] at first
      omega

/-- A bracketed list takes characters when each of its entries does. -/
theorem enclosed_shorter {close : Char} {values : List α} (shorter : ∀ value ∈ values,
    ∀ {text rest}, part text value rest → rest.length < text.length) {text rest : List Char}
    (enclosed : Enclosed part close text values rest) : rest.length < text.length := by
  cases enclosed with
  | empty blanks => exact blanks_length blanks
  | filled entries => exact entries_shorter shorter entries

end

/-- None of the literal words is empty. -/
theorem filled_of_words {word : List Char} {value : Value} (listed : (word, value) ∈ words) :
    word ≠ [] := by
  rintro rfl
  simp [words] at listed

/-- A value takes up text. -/
theorem Derives.shorter {text rest : List Char} {value : Value}
    (derives : Derives text value rest) : rest.length < text.length := by
  have literal {word rest : List Char} (filled : word ≠ []) :
      rest.length < (word ++ rest).length := by
    have positive := List.length_pos_iff.mpr filled
    simp only [List.length_append]
    omega
  induction value using Value.induct generalizing text rest with
  | null | flag =>
      cases derives with
      | word listed => exact literal (filled_of_words listed)
  | number =>
      cases derives with
      | word listed => exact literal (filled_of_words listed)
      | number number => exact literal (numberChars number).1
  | text =>
      cases derives with
      | word listed => exact literal (filled_of_words listed)
      | text characters => exact Nat.lt_succ_of_lt characters.shorter
  | list items inductionHypothesis =>
      cases derives with
      | word listed => exact literal (filled_of_words listed)
      | list enclosed =>
          have inside := enclosed_shorter
            (fun item member _ _ => padded_shorter (inductionHypothesis item member)) enclosed
          exact Nat.lt_succ_of_lt inside
  | record fields inductionHypothesis =>
      cases derives with
      | word listed => exact literal (filled_of_words listed)
      | record enclosed =>
          have inside := enclosed_shorter
            (fun field member _ _ => field_shorter (inductionHypothesis field member)) enclosed
          exact Nat.lt_succ_of_lt inside

/-- A value begins with neither a blank nor a mark. -/
theorem Derives.shown {text rest : List Char} {value : Value} (derives : Derives text value rest) :
    Opens (fun c => !isBlank c && !isMark c) text := by
  cases derives with
  | @word word rest value listed =>
      simp only [words, String.reduceToList, List.mem_cons, Prod.mk.injEq, List.not_mem_nil,
        or_false] at listed
      rcases listed with ⟨rfl, -⟩ | ⟨rfl, -⟩ | ⟨rfl, -⟩ <;> exact opens_cons.mpr (by decide)
  | @number literal rest number =>
      obtain ⟨filled, inside⟩ := numberChars number
      obtain ⟨c, more, rfl⟩ := List.exists_cons_of_ne_nil filled
      have first := inside c List.mem_cons_self
      refine opens_cons.mpr ?_
      cases blank : isBlank c with
      | true =>
          rw [kinds.2 blank] at first
          cases first
      | false =>
          cases mark : isMark c with
          | true =>
              rw [(kinds.1 mark).1] at first
              cases first
          | false => rfl
  | text | list | record => exact opens_cons.mpr (by decide)

/-- The text of a value does not open with a blank. -/
theorem Derives.notBlank {value : Value} ⦃text rest : List Char⦄
    (derives : Derives text value rest) : Opens (fun c => !isBlank c) text :=
  fun c first => (Bool.and_eq_true_iff.mp (derives.shown c first)).1

/-- The text of a value does not open with a closing mark or a comma. -/
theorem Derives.notMark {value : Value} ⦃text rest : List Char⦄
    (derives : Derives text value rest) : Opens (fun c => !isMark c) text :=
  fun c first => (Bool.and_eq_true_iff.mp (derives.shown c first)).2

/-- Whether a reader finds every part of a value that is not longer than a limit and has a
character of a kind behind it. -/
def Complete {α : Type} (limit : Nat) (follow : Char → Bool) (read : Reader α) (part : Part α)
    (value : α) : Prop :=
  ∀ ⦃text rest : List Char⦄, part text value rest → text.length ≤ limit → Opens follow rest →
    read text = some (value, rest)

section

variable {α : Type} {limit : Nat} {read : Reader α} {part : Part α}

/-- A reader that is complete for a part is complete for the part between blanks, and may then be
followed by a mark only. -/
theorem Complete.padded {value : α}
    (complete : Complete limit (fun c => !isNumberChar c) read part value)
    (shown : ∀ ⦃text rest⦄, part text value rest → Opens (fun c => !isBlank c) text) :
    Complete limit isMark (padded? read) (Padded part) value := by
  intro text rest padded short marked
  cases padded with
  | mk before inside behind =>
      have bound := blanks_length before
      have found := complete inside (by omega) (opens_of_blanks behind marked)
      have ended : Opens (fun c => !isBlank c) rest := by
        intro c first
        simp [(kinds.1 (marked c first)).2]
      rw [padded?, skip_eq before (shown inside), found]
      exact congrArg (fun rest => some (value, rest)) (skip_eq behind ended)

/-- A reader that is complete for values makes a complete reader of fields. -/
theorem Complete.field {name : String} {value : α}
    (complete : Complete limit (fun c => !isNumberChar c) read part value)
    (shown : ∀ ⦃text rest⦄, part text value rest → Opens (fun c => !isBlank c) text) :
    Complete limit isMark (field? read) (Field part) (name, value) := by
  intro text rest field short marked
  cases field with
  | mk before named colon padded =>
      have first := blanks_length before
      have second := named.shorter
      have third := blanks_length colon
      simp only [List.length_cons] at first third
      have found := complete.padded shown padded (by omega) marked
      have quote := skip_eq before (opens_cons.mpr (by decide))
      have point := skip_eq colon (opens_cons.mpr (by decide))
      simp only [field?, quote, characters?_iff.mpr named, point, found, Option.bind_eq_bind,
        Option.bind_some, Option.pure_def]

/-- The reader of entries finds every list of entries up to its closing bracket, by induction on the
entries. -/
theorem entries_complete {close : Char} (mark : isMark close = true) (apart : close ≠ ',')
    {values : List α} (complete : ∀ value ∈ values, Complete limit isMark read part value)
    (shorter : ∀ value ∈ values, ∀ {text rest}, part text value rest → rest.length < text.length)
    {text rest : List Char} (entries : Entries part close text values rest) {fuel : Nat}
    (short : text.length ≤ limit) (enough : text.length ≤ fuel) :
    entries? read close fuel text = some (values, rest) := by
  induction entries generalizing fuel with
  | last entry =>
      have length := shorter _ (by simp) entry
      obtain _ | fuel := fuel
      · omega
      have found := complete _ (by simp) entry short (opens_cons.mpr mark)
      rw [entries?, found]
      simp
  | more entry later inductionHypothesis =>
      have length := shorter _ (by simp) entry
      simp only [List.length_cons] at length
      obtain _ | fuel := fuel
      · omega
      have found := complete _ (by simp) entry short (opens_cons.mpr (by decide))
      have others : entries? read close fuel _ = some (_, _) := inductionHypothesis
        (fun value member => complete value (List.mem_cons_of_mem _ member))
        (fun value member => shorter value (List.mem_cons_of_mem _ member))
        (by omega) (by omega)
      rw [entries?, found]
      simp [apart.symm, others]

/-- The reader of bracketed lists finds the empty list and the filled ones: the two are told apart
by what stands behind the first blanks. -/
theorem enclosed_complete {close : Char} (mark : isMark close = true) (apart : close ≠ ',')
    {values : List α} (complete : ∀ value ∈ values, Complete limit isMark read part value)
    (shorter : ∀ value ∈ values, ∀ {text rest}, part text value rest → rest.length < text.length)
    (shown : ∀ value ∈ values, ∀ {text rest}, part text value rest →
      Opens (fun c => !isMark c) (skip text))
    {text rest : List Char} (enclosed : Enclosed part close text values rest) {fuel : Nat}
    (short : text.length ≤ limit) (enough : text.length ≤ fuel) :
    enclosed? read close fuel text = some (values, rest) := by
  cases enclosed with
  | empty blanks =>
      have ended : Opens (fun c => !isBlank c) (close :: rest) :=
        opens_cons.mpr (by simp [(kinds.1 mark).2])
      rw [enclosed?, skip_eq blanks ended]
      simp
  | filled entries =>
      have unclosed : (skip text).head? ≠ some close := by
        intro first
        cases entries with
        | last entry =>
            have kind := shown _ (by simp) entry close first
            simp [mark] at kind
        | more entry later =>
            have kind := shown _ (by simp) entry close first
            simp [mark] at kind
      rw [enclosed?, if_neg unclosed]
      exact entries_complete mark apart complete shorter entries short enough

end

/-- Behind its blanks a padded value shows no closing mark. -/
theorem shown_padded {text rest : List Char} {value : Value}
    (padded : Padded Derives text value rest) : Opens (fun c => !isMark c) (skip text) := by
  cases padded with
  | mk before inside =>
      rw [skip_eq before inside.notBlank]
      exact inside.notMark

/-- Behind its blanks a field shows no closing mark. -/
theorem shown_field {text rest : List Char} {field : String × Value}
    (written : Field Derives text field rest) : Opens (fun c => !isMark c) (skip text) := by
  cases written with
  | mk before =>
      rw [skip_eq before (opens_cons.mpr (by decide))]
      exact opens_cons.mpr (by decide)

/-- What does not begin as a text, a list or a record is read as a number or a word. -/
theorem value?_literal {fuel : Nat} {c : Char} {text : List Char} (apart : c ∉ ['"', '[', '\x7b']) :
    value? (fuel + 1) (c :: text) = literal? (c :: text) := by
  simp only [List.mem_cons, List.not_mem_nil, or_false, not_or] at apart
  rw [value?] <;> simp [apart]

/-- The reader finds each literal word, since none of them opens another. -/
theorem value?_word {fuel : Nat} {word rest : List Char} {value : Value}
    (listed : (word, value) ∈ words) : value? (fuel + 1) (word ++ rest) = some (value, rest) := by
  have opening : ∀ entry ∈ words, ∃ c more, entry.1 = c :: more ∧ c ∉ ['"', '[', '\x7b'] := by
    simp [words]
  obtain ⟨c, more, same, apart⟩ := opening _ listed
  have read : literal? (word ++ rest) = some (value, rest) := literal?_word listed
  rw [show word = c :: more from same, List.cons_append] at read ⊢
  rw [value?_literal apart, read]

/-- The reader takes a number up to the first character that no number has. -/
theorem value?_number {fuel : Nat} {literal rest : List Char} (number : isNumber literal = true)
    (outside : Opens (fun c => !isNumberChar c) rest) :
    value? (fuel + 1) (literal ++ rest) = some (.number literal, rest) := by
  obtain ⟨filled, inside⟩ := numberChars number
  obtain ⟨c, more, rfl⟩ := List.exists_cons_of_ne_nil filled
  have read := literal?_number number outside
  have apart : c ∉ ['"', '[', '\x7b'] := by
    intro listed
    have first := inside c List.mem_cons_self
    simp only [List.mem_cons, List.not_mem_nil, or_false] at listed
    rcases listed with rfl | rfl | rfl <;> exact absurd first (by decide)
  rw [List.cons_append] at read ⊢
  rw [value?_literal apart, read]

/-- A value has text, so there is fuel to read it with if there is as much as text. -/
theorem complete_of_succ {value : Value} (read : ∀ fuel text rest, Derives text value rest →
    text.length ≤ fuel + 1 → Opens (fun c => !isNumberChar c) rest →
      value? (fuel + 1) text = some (value, rest)) (fuel : Nat) :
    Complete fuel (fun c => !isNumberChar c) (value? fuel) Derives value := by
  intro text rest derives short outside
  have length := derives.shorter
  obtain _ | fuel := fuel
  · omega
  · exact read fuel text rest derives short outside

/-- Every value is read with as much fuel as it has text. -/
theorem complete_value? (value : Value) (fuel : Nat) :
    Complete fuel (fun c => !isNumberChar c) (value? fuel) Derives value := by
  induction value using Value.induct generalizing fuel <;>
    refine complete_of_succ (fun fuel text rest derives short outside => ?_) fuel
  case null | flag =>
    cases derives with
    | word listed => exact value?_word listed
  case number =>
    cases derives with
    | word listed => exact value?_word listed
    | number number => exact value?_number number outside
  case text =>
    cases derives with
    | word listed => exact value?_word listed
    | text characters => rw [value?, characters?_iff.mpr characters, Option.map_some]
  case list items inductionHypothesis _ =>
    cases derives with
    | word listed => exact value?_word listed
    | list enclosed =>
        have inside := Nat.le_of_succ_le_succ short
        have read := enclosed_complete (by decide) (by decide)
          (fun item member => (inductionHypothesis item member fuel).padded Derives.notBlank)
          (fun item member _ _ => padded_shorter Derives.shorter)
          (fun item member _ _ => shown_padded) enclosed inside inside
        rw [value?, read, Option.map_some]
  case record fields inductionHypothesis _ =>
    cases derives with
    | word listed => exact value?_word listed
    | record enclosed =>
        have inside := Nat.le_of_succ_le_succ short
        have read := enclosed_complete (by decide) (by decide)
          (fun field member => (inductionHypothesis field member fuel).field Derives.notBlank)
          (fun field member _ _ => field_shorter Derives.shorter)
          (fun field member _ _ => shown_field) enclosed inside inside
        rw [value?, read, Option.map_some]

/-- A text is read as a value exactly if it is a document of the value. -/
theorem read?_iff {text : List Char} {value : Value} :
    read? text = some value ↔ IsDocument text value := by
  unfold read? IsDocument
  constructor
  · intro found
    split at found
    · rename_i padded
      cases found
      exact (sound_value? _).padded padded
    · cases found
  · intro padded
    have complete := (complete_value? value text.length).padded Derives.notBlank
    rw [complete padded (Nat.le_refl _) opens_nil]

/-! ## The tree of a value -/

mutual

/-- The document tree that a value stands for, which has neither numbers nor nulls. -/
def node? : Value → Option Node
  | .null | .number _ => none
  | .flag value => some (.flag value)
  | .text value => some (.text value)
  | .list items => (items? items).map .list
  | .record fields => (fields? fields).map .record

/-- The items of a list as trees. -/
def items? : List Value → Option (List Node)
  | [] => some []
  | item :: more => do
    let item ← node? item
    return item :: (← items? more)

/-- The fields of a record with their values as trees. -/
def fields? : List (String × Value) → Option (List (String × Node))
  | [] => some []
  | (name, value) :: more => do
    let value ← node? value
    return (name, value) :: (← fields? more)

end

/-- The value of a tree stands for the tree. -/
theorem node?_ofNode (node : Node) : node? (ofNode node) = some node := by
  induction node using Node.induct with
  | text value => rfl
  | flag value => rfl
  | list items inductionHypothesis =>
      have read : items? (ofItems items) = some items := by
        induction items with
        | nil => rfl
        | cons item more later =>
            simp only [List.forall_mem_cons] at inductionHypothesis
            simp [ofItems, items?, inductionHypothesis.1, later inductionHypothesis.2]
      rw [ofNode, node?, read, Option.map_some]
  | record fields inductionHypothesis =>
      have read : fields? (ofFields fields) = some fields := by
        induction fields with
        | nil => rfl
        | cons field more later =>
            obtain ⟨name, value⟩ := field
            simp only [List.forall_mem_cons] at inductionHypothesis
            simp [ofFields, fields?, inductionHypothesis.1, later inductionHypothesis.2]
      rw [ofNode, node?, read, Option.map_some]

end MemoStore.Document.Json

namespace MemoStore.Document

/-- Reads the tables from their JSON document. -/
def readJson? (text : String) : Option (List Catalog.Table) :=
  ((Json.read? text.toList).bind Json.node?).bind Node.tables?

/-- The rendered document is read back to the node of its tables. -/
theorem Json.read?_render (tables : List Catalog.Table) :
    Json.read? (Document.render .json tables).toList =
      some (Json.ofNode (Node.ofTables tables)) := by
  rw [Document.render, Json.render, String.toList_ofList]
  exact Json.read?_iff.mpr (Json.isDocument_node _)

/-- Every list of tables is read back from its JSON document. -/
theorem readJson?_render (tables : List Catalog.Table) :
    readJson? (render .json tables) = some tables := by
  rw [readJson?, Json.read?_render, Option.bind_some, Json.node?_ofNode, Option.bind_some,
    Node.tables?_ofTables]

/-- What is written for tables in JSON is a document of one value only, and every list of tables is
read back from its document, so no two lists have the same one. -/
theorem json_lossless :
    (∀ tables value, Json.IsDocument (render .json tables).toList value ↔
      value = Json.ofNode (Node.ofTables tables)) ∧
    (∀ tables, readJson? (render .json tables) = some tables) ∧
      ∀ tables tables', render .json tables = render .json tables' → tables = tables' := by
  refine ⟨fun tables value => ?_, readJson?_render, fun tables tables' same => ?_⟩
  · rw [← Json.read?_iff, Json.read?_render, Option.some.injEq, eq_comm]
  · have read := readJson?_render tables
    rw [same, readJson?_render] at read
    exact (Option.some.inj read).symm

end MemoStore.Document
