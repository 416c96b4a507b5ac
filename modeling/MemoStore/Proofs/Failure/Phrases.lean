import Mathlib.Data.List.Infix
import MemoStore.Proofs.Failure.Readers

/-!
# Phrases of messages

Each reader of messages needs one phrase. No phrase begins in an opening that has neither
of the two keywords, so a search goes past such an opening, and past a phrase with
another one behind it.
-/

namespace MemoStore.Recognise

open MemoStore.Text

/-- The phrases that the readers need. -/
inductive Phrase where
  | unique
  | duplicate
  | check
  | quotedCheck
  | dangling
  | foreignKey
  deriving DecidableEq

namespace Phrase

/-- The words of a phrase, up to its first quote. -/
def words : Phrase → String
  | .unique => "UNIQUE constraint failed: "
  | .duplicate => "Duplicate entry "
  | .check => "CHECK constraint failed: "
  | .quotedCheck => "Check constraint "
  | .dangling => "FOREIGN KEY constraint failed"
  | .foreignKey => "foreign key constraint fails ("

/-- The text of a phrase. -/
def text (phrase : Phrase) : List Char :=
  phrase.words.toList

/-- The word that tells that a text may hold a phrase. -/
def keyword : Phrase → String
  | .duplicate => "Duplicate"
  | _ => "constraint"

/-- No phrase can begin before another and end in it, unless its keyword stands before. -/
theorem clashes (phrase other : Phrase) : Clashes phrase.keyword.toList phrase.text other.text := by
  cases phrase <;> cases other <;> simp only [keyword, text, words, String.reduceToList] <;>
    decide +kernel

/-- No phrase is part of another. -/
theorem not_infix_phrase {phrase other : Phrase} (different : phrase ≠ other) :
    ¬ phrase.text <:+: other.text := by
  cases phrase <;> cases other <;> first
    | exact absurd rfl different
    | (simp only [text, words, String.reduceToList]; decide +kernel)

/-- No phrase has a quote or a point in it. -/
theorem free (phrase : Phrase) : ∀ c ∈ ['\'', '`', '.'], c ∉ phrase.text := by
  simp only [List.forall_mem_cons, List.not_mem_nil, false_imp_iff, implies_true, and_true]
  cases phrase <;> simp only [text, words, String.reduceToList] <;> decide

/-- Every phrase has a space in it, and so is no part of a name. -/
theorem space_mem (phrase : Phrase) : ' ' ∈ phrase.text := by
  cases phrase <;> simp only [text, words, String.reduceToList] <;> decide

/-- These two phrases end in a space. -/
theorem getLast?_text (phrase : Phrase) (spaced : phrase ∈ [Phrase.unique, .duplicate]) :
    phrase.text.getLast? = some ' ' := by
  cases phrase <;> first
    | (simp only [text, words, String.reduceToList]; rfl)
    | simp at spaced

/-- No phrase occurs in a name, since a name has no space. -/
theorem not_infix_name (phrase : Phrase) {name : List Char} (named : IsName name) :
    ¬ phrase.text <:+: name :=
  named.not_infix_of_mem (by decide) phrase.space_mem

/-- No phrase occurs in the empty text. -/
theorem not_infix_nil (phrase : Phrase) : ¬ phrase.text <:+: [] := by
  intro occurring
  exact absurd (occurring.subset phrase.space_mem) List.not_mem_nil

/-- The columns of a violated uniqueness are found only behind their phrase. -/
theorem unique_opens {tail : List Char} (found : uniqueColumns? tail ≠ none) :
    unique.text <+: tail :=
  uniqueColumns?_opens found

/-- The key of a duplicate entry is found only behind its phrase. -/
theorem duplicate_opens {tail : List Char} (found : duplicateKey? tail ≠ none) :
    duplicate.text <+: tail := by
  have inside : duplicate.text <+: duplicateOpening := by
    unfold duplicateOpening
    simp only [text, words, String.reduceToList]
    decide
  exact inside.trans (duplicateKey?_opens found)

/-- A violated check of SQLite is found only behind its phrase. -/
theorem check_opens {tail : List Char} (found : sqliteCheck? tail ≠ none) :
    check.text <+: tail :=
  sqliteCheck?_opens found

/-- A violated check of MySQL is found only behind its phrase. -/
theorem quotedCheck_opens {tail : List Char} (found : mysqlCheck? tail ≠ none) :
    quotedCheck.text <+: tail := by
  have inside : quotedCheck.text <+: quotedCheckOpening := by
    unfold quotedCheckOpening
    simp only [text, words, String.reduceToList]
    decide
  exact inside.trans (mysqlCheck?_opens found)

/-- The phrase of a violated foreign key ends in a space and an opening bracket. -/
theorem foreignKey_text : foreignKey.text = foreignKeyPhrase ++ " (".toList := by
  unfold foreignKeyPhrase
  simp only [text, words, String.reduceToList]
  rfl

/-- A violated foreign key of MySQL is found only behind its phrase. -/
theorem foreignKey_opens {tail : List Char} (found : foreignKey? tail ≠ none) :
    foreignKey.text <+: tail := by
  rw [foreignKey_text]
  exact foreignKey?_opens found

end Phrase

/-- An opening that no phrase can begin in: it has neither of the two keywords. -/
structure Plain (opening : List Char) : Prop where
  constraint : ¬ "constraint".toList <:+: opening
  duplicate : ¬ "Duplicate".toList <:+: opening

instance (opening : List Char) : Decidable (Plain opening) :=
  decidable_of_iff
    (¬ "constraint".toList <:+: opening ∧ ¬ "Duplicate".toList <:+: opening)
    ⟨fun ⟨constraint, duplicate⟩ => ⟨constraint, duplicate⟩,
      fun plain => ⟨plain.constraint, plain.duplicate⟩⟩

namespace Plain

variable {opening : List Char}

/-- A plain text has the keyword of no phrase. -/
theorem keyword (plain : Plain opening) (phrase : Phrase) :
    ¬ phrase.keyword.toList <:+: opening := by
  cases phrase with
  | duplicate => exact plain.duplicate
  | _ => exact plain.constraint

/-- A part of a plain opening is plain. -/
theorem of_infix {part : List Char} (plain : Plain opening) (within : part <:+: opening) :
    Plain part :=
  ⟨fun occurring => plain.constraint (occurring.trans within),
    fun occurring => plain.duplicate (occurring.trans within)⟩

/-- Two plain texts with a space between them are a plain opening. -/
theorem append_cons (plain : Plain opening) {rest : List Char} (behind : Plain rest) :
    Plain (opening ++ ' ' :: rest) := by
  have spaceless : ' ' ∉ "constraint".toList ∧ ' ' ∉ "Duplicate".toList := by
    simp only [String.reduceToList]
    decide
  constructor
  · intro occurring
    rcases infix_append_cons spaceless.1 occurring with before | after
    · exact plain.constraint before
    · exact behind.constraint after
  · intro occurring
    rcases infix_append_cons spaceless.2 occurring with before | after
    · exact plain.duplicate before
    · exact behind.duplicate after

/-- No phrase occurs in an opening with another phrase behind it. -/
theorem absent (plain : Plain opening) {phrase other : Phrase} (different : phrase ≠ other) :
    ¬ phrase.text <:+: opening ++ other.text := by
  have later : ¬ phrase.text <:+: other.text ++ [] := by
    rw [List.append_nil]
    exact Phrase.not_infix_phrase different
  have behind := (Phrase.clashes phrase other).not_infix_append (plain.keyword phrase) later
  rwa [List.append_nil] at behind

/-- The phrases that end in a space do not reach into a name. -/
theorem absent_name (plain : Plain opening) {phrase other : Phrase} (different : phrase ≠ other)
    (spaced : phrase ∈ [Phrase.unique, .duplicate]) {name : List Char} (named : IsName name) :
    ¬ phrase.text <:+: opening ++ (other.text ++ name) := by
  obtain ⟨stem, ending⟩ := List.getLast?_eq_some_iff.mp (phrase.getLast?_text spaced)
  intro occurring
  rw [ending, ← List.append_assoc] at occurring
  have before := infix_of_infix_append (by decide) named.words occurring
  rw [← ending] at before
  exact plain.absent different before

/-- A search for a phrase finds nothing in an opening with another phrase behind it. -/
theorem first?_eq_none {α : Type} {read : List Char → Option α} (plain : Plain opening)
    {phrase other : Phrase} (different : phrase ≠ other)
    (opens : ∀ tail, read tail ≠ none → phrase.text <+: tail) :
    first? read (opening ++ other.text) = none :=
  Text.first?_eq_none opens (plain.absent different)

/-- A search for a phrase goes past an opening, another phrase and the quote behind it. -/
theorem first?_past {α : Type} {read : List Char → Option α} (plain : Plain opening)
    {phrase other : Phrase} (different : phrase ≠ other)
    (opens : ∀ tail, read tail ≠ none → phrase.text <+: tail) {quote : Char}
    (quoting : quote ∈ ['\'', '`', '.']) (rest : List Char) :
    first? read (opening ++ (other.text ++ quote :: rest)) = first? read rest := by
  rw [← List.append_assoc]
  exact Text.first?_past opens (phrase.free quote quoting) (plain.absent different)

/-- A search for a phrase goes past an opening before it. -/
theorem first?_append {α : Type} {read : List Char → Option α} (plain : Plain opening)
    (phrase : Phrase) (opens : ∀ tail, read tail ≠ none → phrase.text <+: tail)
    (rest : List Char) :
    first? read (opening ++ (phrase.text ++ rest)) = first? read (phrase.text ++ rest) := by
  refine Text.first?_append fun tail filled suffix => ?_
  cases result : read (tail ++ (phrase.text ++ rest)) with
  | none => rfl
  | some value =>
      have starts := opens (tail ++ (phrase.text ++ rest)) (by simp [result])
      exact absurd starts
        ((Phrase.clashes phrase phrase).not_prefix_append (plain.keyword phrase) filled suffix)

/-- An article after an opening brings no keyword. -/
theorem article (plain : Plain opening) : Plain (opening ++ "a ".toList) := by
  have cut : ∀ keyword ∈ ["constraint".toList, "Duplicate".toList],
      Clashes keyword keyword "a ".toList ∧ ¬ keyword <:+: "a ".toList := by
    simp only [String.reduceToList]
    decide +kernel
  have lacks : ∀ keyword ∈ ["constraint".toList, "Duplicate".toList],
      ¬ keyword <:+: opening → ¬ keyword <:+: opening ++ "a ".toList := by
    intro keyword listed missing
    obtain ⟨clash, apart⟩ := cut keyword listed
    have later : ¬ keyword <:+: "a ".toList ++ [] := by rwa [List.append_nil]
    have behind := clash.not_infix_append missing later
    rwa [List.append_nil] at behind
  exact ⟨lacks _ (by simp) plain.constraint, lacks _ (by simp) plain.duplicate⟩

end Plain

end MemoStore.Recognise
