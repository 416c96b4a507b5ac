import Mathlib.Data.List.Basic
import MemoStore.Proofs.Json.Grammar
import MemoStore.Proofs.Text.Search

/-!
# Readers of JSON

One reader for each part of the grammar. A reader takes blanks, digits and entries as long as they
go on, and leaves the text behind its part. `sound_value?` says that what the readers
find is there by the grammar.
-/

namespace MemoStore.Document.Json

open Text (after?)

/-! ## The readers -/

/-- A reader of a part, which leaves the text behind it. -/
abbrev Reader (α : Type) :=
  List Char → Option (α × List Char)

/-- Leaves the blanks off the front. -/
def skip (text : List Char) : List Char :=
  text.dropWhile isBlank

/-- Whether a character can stand in a number. -/
def isNumberChar (c : Char) : Bool :=
  c.isDigit || ['+', '-', '.', 'e', 'E'].contains c

/-- Whether a character goes on behind an entry. -/
def isMark (c : Char) : Bool :=
  [',', ']', '\x7d'].contains c

/-- Reads a character inside quotes. -/
def character? : Reader Char
  | '\\' :: 'u' :: text => do
    let (code, rest) ← code? text
    if isLow code then none
    else if isHigh code then
      match rest with
      | '\\' :: 'u' :: middle => do
        let (low, rest) ← code? middle
        if isLow low then some (paired code low, rest) else none
      | _ => none
    else some (Char.ofNat code, rest)
  | '\\' :: name :: rest => (letters.lookup name).map (·, rest)
  | c :: rest => if c ≠ '"' ∧ c ≠ '\\' ∧ 0x20 ≤ c.toNat then some (c, rest) else none
  | [] => none

/-- What is read as a character is one by the grammar. -/
theorem character?_sound {text rest : List Char} {c : Char}
    (found : character? text = some (c, rest)) : Character text c rest := by
  unfold character? at found
  split at found
  · obtain ⟨⟨code, left⟩, read, found⟩ := Option.bind_eq_some_iff.mp found
    simp only at found
    split at found
    · cases found
    rename_i low
    split at found
    · rename_i high
      -- The first half of a pair needs the second one behind it.
      split at found
      · obtain ⟨⟨second, last⟩, readSecond, found⟩ := Option.bind_eq_some_iff.mp found
        simp only at found
        split at found
        · rename_i low
          simp only [Option.some.injEq, Prod.mk.injEq] at found
          obtain ⟨rfl, rfl⟩ := found
          exact .pair read high readSecond low
        · cases found
      · cases found
    · rename_i high
      simp only [Option.some.injEq, Prod.mk.injEq] at found
      obtain ⟨rfl, rfl⟩ := found
      exact .code read (by simpa using high) (by simpa using low)
  · obtain ⟨c, named, same⟩ := Option.map_eq_some_iff.mp found
    cases same
    exact .letter named
  · split at found
    · rename_i shown
      cases found
      exact .plain shown.1 shown.2.1 shown.2.2
    · cases found
  · cases found

/-- No code is both the first and the second half of a pair. -/
theorem isLow_eq_false_of_isHigh {code : Nat} (high : isHigh code = true) : isLow code = false := by
  simp only [isHigh, isLow, Bool.and_eq_true, decide_eq_true_eq, Bool.and_eq_false_iff,
    decide_eq_false_iff_not] at high ⊢
  omega

/-- Every character of the grammar is read, one case for each way to write it. -/
theorem Character.read {text rest : List Char} {c : Char} (character : Character text c rest) :
    character? text = some (c, rest) := by
  cases character with
  | plain quote backslash shown =>
      unfold character?
      split
      · rename_i same
        simp_all
      · simp_all
      · rename_i same
        cases same
        rw [if_pos ⟨quote, backslash, shown⟩]
      · simp_all
  | @letter name c rest named =>
      have other : name ≠ 'u' := by
        rintro rfl
        cases named
      rw [character?, named]
      · rfl
      · exact other
  | code read high low =>
      simp [character?, read, high, low]
  | pair read high readLow low =>
      simp [character?, read, high, isLow_eq_false_of_isHigh high, readLow, low]

/-- A character is read as the grammar says. -/
theorem character?_iff {text rest : List Char} {c : Char} :
    character? text = some (c, rest) ↔ Character text c rest :=
  ⟨character?_sound, Character.read⟩

/-- A character takes up text. -/
theorem Character.shorter {text rest : List Char} {c : Char} (character : Character text c rest) :
    rest.length < text.length := by
  have fourth {text rest : List Char} {code : Nat} (read : code? text = some (code, rest)) :
      rest.length ≤ text.length := by
    unfold code? at read
    split at read
    · obtain ⟨digits, -, same⟩ := Option.bind_eq_some_iff.mp read
      cases same
      simp only [List.length_cons]
      omega
    · cases read
  cases character with
  | plain | letter => simp only [List.length_cons]; omega
  | code read =>
      have bound := fourth read
      simp only [List.length_cons]
      omega
  | pair read _ readLow =>
      have bound := fourth read
      have boundLow := fourth readLow
      simp only [List.length_cons] at bound ⊢
      omega

/-- Reads the characters of a text up to its closing quote. -/
def characters? (text : List Char) : Option (List Char × List Char) :=
  match text with
  | '"' :: rest => some ([], rest)
  | text =>
    match _read : character? text with
    | some (c, rest) => (characters? rest).map fun (value, left) => (c :: value, left)
    | none => none
  termination_by text.length
  decreasing_by exact (character?_iff.mp _read).shorter

/-- A text is read as the grammar says. -/
theorem characters?_iff {text rest value : List Char} :
    characters? text = some (value, rest) ↔ Characters text value rest := by
  constructor
  · intro found
    fun_induction characters? text generalizing value with
    | case1 rest =>
        cases found
        exact .done
    | case2 text other c middle read inductionHypothesis =>
        obtain ⟨⟨value, left⟩, later, same⟩ := Option.map_eq_some_iff.mp found
        cases same
        exact .more (character?_iff.mp read) (inductionHypothesis later)
    | case3 => cases found
  · intro characters
    induction characters with
    | done => simp [characters?]
    | @more text middle rest value c character later inductionHypothesis =>
        have read := character?_iff.mpr character
        have unquoted : ∀ rest, text ≠ '"' :: rest := by
          rintro rest rfl
          cases character with
          | plain quote => exact quote rfl
        rw [characters?]
        · split
          · rename_i found
            rw [read] at found
            cases found
            rw [inductionHypothesis]
            rfl
          · rename_i found
            rw [read] at found
            cases found
        · exact unquoted

/-- The characters of a string take at least the closing quote. -/
theorem Characters.shorter {text value rest : List Char}
    (characters : Characters text value rest) : rest.length < text.length := by
  induction characters with
  | done => simp
  | more character later inductionHypothesis =>
      exact Nat.lt_trans inductionHypothesis character.shorter

/-- Reads a number, as long as it goes on, or one of the words. -/
def literal? : Reader Value := fun text =>
  if isNumber (text.takeWhile isNumberChar) then
    some (.number (text.takeWhile isNumberChar), text.dropWhile isNumberChar)
  else words.findSome? fun (word, value) => (after? word text).map (value, ·)

section

variable {α : Type}

/-- Reads a part with the blanks around it. -/
def padded? (part : Reader α) : Reader α := fun text => do
  let (value, rest) ← part (skip text)
  return (value, skip rest)

/-- Reads a name in quotes and, behind a colon, its value. -/
def field? (part : Reader α) : Reader (String × α) := fun text =>
  match skip text with
  | '"' :: key => do
    let (name, behind) ← characters? key
    match skip behind with
    | ':' :: start => do
      let (value, rest) ← padded? part start
      return ((String.ofList name, value), rest)
    | _ => none
  | _ => none

/-- Reads entries with commas between them up to a closing mark. -/
def entries? (entry : Reader α) (close : Char) : Nat → Reader (List α)
  | 0, _ => none
  | fuel + 1, text =>
    match entry text with
    | some (value, c :: rest) =>
      if c = close then some ([value], rest)
      else if c = ',' then
        (entries? entry close fuel rest).map fun (values, left) => (value :: values, left)
      else none
    | _ => none

/-- Reads any number of entries with the mark that closes them. -/
def enclosed? (entry : Reader α) (close : Char) (fuel : Nat) : Reader (List α) := fun text =>
  if (skip text).head? = some close then some ([], (skip text).tail)
  else entries? entry close fuel text

end

/-- Reads a value, of at most as many levels as there is fuel. -/
def value? : Nat → Reader Value
  | 0, _ => none
  | _ + 1, '"' :: text =>
    (characters? text).map fun (value, rest) => (.text (String.ofList value), rest)
  | fuel + 1, '[' :: text =>
    (enclosed? (padded? (value? fuel)) ']' fuel text).map fun (items, rest) => (.list items, rest)
  | fuel + 1, '\x7b' :: text =>
    (enclosed? (field? (value? fuel)) '\x7d' fuel text).map fun (fields, rest) =>
      (.record fields, rest)
  | _ + 1, text => literal? text

/-- Reads a document. -/
def read? (text : List Char) : Option Value :=
  match padded? (value? text.length) text with
  | some (value, []) => some value
  | _ => none

/-! ## What is read is there -/

/-- What is skipped are blanks. -/
theorem blanks_skip (text : List Char) : Blanks text (skip text) := by
  induction text with
  | nil => exact .none
  | cons c text inductionHypothesis =>
      unfold skip at inductionHypothesis ⊢
      cases blank : isBlank c with
      | false =>
          rw [List.dropWhile_cons_of_neg (by simp [blank])]
          exact .none
      | true =>
          rw [List.dropWhile_cons_of_pos blank]
          exact .more blank inductionHypothesis

/-- Whether everything that a reader reads is there. -/
def Sound {α : Type} (read : Reader α) (part : Part α) : Prop :=
  ∀ ⦃text rest : List Char⦄ ⦃value : α⦄, read text = some (value, rest) → part text value rest

section

variable {α : Type} {read : Reader α} {part : Part α}

/-- A sound reader stays sound between blanks. -/
theorem Sound.padded (sound : Sound read part) : Sound (padded? read) (Padded part) := by
  intro text rest value found
  obtain ⟨⟨value, behind⟩, inside, same⟩ := Option.bind_eq_some_iff.mp found
  cases same
  exact .mk (blanks_skip _) (sound inside) (blanks_skip _)

/-- A sound reader of values makes a sound reader of fields. -/
theorem Sound.field (sound : Sound read part) : Sound (field? read) (Field part) := by
  intro text rest value found
  unfold field? at found
  split at found
  · rename_i key quoted
    obtain ⟨⟨name, behind⟩, named, found⟩ := Option.bind_eq_some_iff.mp found
    simp only at found
    split at found
    · rename_i start colon
      obtain ⟨⟨value, rest⟩, padded, same⟩ := Option.bind_eq_some_iff.mp found
      cases same
      refine .mk (quoted ▸ blanks_skip text) (characters?_iff.mp named) ?_ (sound.padded padded)
      exact colon ▸ blanks_skip behind
    · cases found
  · cases found

/-- A sound reader of entries makes a sound reader of entries with commas, by induction on the fuel.
-/
theorem Sound.entries (sound : Sound read part) (close : Char) (fuel : Nat) :
    Sound (entries? read close fuel) (Entries part close) := by
  induction fuel with
  | zero => nofun
  | succ fuel inductionHypothesis =>
      intro text rest values found
      unfold entries? at found
      split at found
      · rename_i value c behind first
        split at found
        · subst c
          cases found
          exact .last (sound first)
        · split at found
          · subst c
            obtain ⟨⟨values, left⟩, later, same⟩ := Option.map_eq_some_iff.mp found
            cases same
            exact .more (sound first) (inductionHypothesis later)
          · cases found
      · cases found

/-- A sound reader of entries makes a sound reader of bracketed lists. -/
theorem Sound.enclosed (sound : Sound read part) (close : Char) (fuel : Nat) :
    Sound (enclosed? read close fuel) (Enclosed part close) := by
  intro text rest values found
  unfold enclosed? at found
  split at found
  · rename_i first
    cases found
    have closed : skip text = close :: (skip text).tail := List.eq_cons_of_mem_head? first
    have blanks := blanks_skip text
    rw [closed] at blanks
    exact .empty blanks
  · exact .filled (sound.entries close fuel found)

end

/-- A literal that is read is a number or one of the words. -/
theorem sound_literal? : Sound literal? Derives := by
  intro text rest value found
  unfold literal? at found
  split at found
  · rename_i number
    cases found
    have whole := List.takeWhile_append_dropWhile (p := isNumberChar) (l := text)
    have read : Derives (text.takeWhile isNumberChar ++ text.dropWhile isNumberChar)
        (.number (text.takeWhile isNumberChar)) (text.dropWhile isNumberChar) := .number number
    rwa [whole] at read
  · obtain ⟨⟨word, meant⟩, listed, found⟩ := List.exists_of_findSome?_eq_some found
    obtain ⟨behind, after, same⟩ := Option.map_eq_some_iff.mp found
    cases same
    rw [Text.prefix_of_after? after]
    exact .word listed

/-- Every value that is read is there, however much fuel there is. -/
theorem sound_value? (fuel : Nat) : Sound (value? fuel) Derives := by
  induction fuel with
  | zero => nofun
  | succ fuel inductionHypothesis =>
      intro text rest value found
      unfold value? at found
      split at found
      · rename_i same
        cases same
      · obtain ⟨⟨value, left⟩, inside, same⟩ := Option.map_eq_some_iff.mp found
        cases same
        exact .text (characters?_iff.mp inside)
      · rename_i more same
        cases same
        obtain ⟨⟨items, left⟩, inside, same⟩ := Option.map_eq_some_iff.mp found
        cases same
        exact .list (inductionHypothesis.padded.enclosed _ _ inside)
      · rename_i more same
        cases same
        obtain ⟨⟨fields, left⟩, inside, same⟩ := Option.map_eq_some_iff.mp found
        cases same
        exact .record (inductionHypothesis.field.enclosed _ _ inside)
      · exact sound_literal? found

end MemoStore.Document.Json
