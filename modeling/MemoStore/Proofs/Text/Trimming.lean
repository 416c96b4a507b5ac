import Mathlib.Data.List.DropRight
import MemoStore.Text.Blank

/-!
# Trimming

What trimming leaves of a text: all of it if it neither begins nor ends with a blank character,
and the same of a text with more blank characters at its end. `exists_dropTail` says what is taken
off, and what is left begins and ends with characters that are kept. `trim_eq_iff` says of which
texts a given part is left.
-/

namespace MemoStore.Text

variable {p : Char → Bool} {text part tail : List Char}

/-! ## The end of a text -/

/-- Dropping a tail is dropping from the right while a condition holds. -/
theorem dropTail_eq_rdropWhile (p : Char → Bool) (text : List Char) :
    dropTail p text = text.rdropWhile p := rfl

/-- A text that ends in a character that is kept is kept whole. -/
theorem dropTail_eq_self (kept : ∀ c ∈ text.getLast?, p c = false) : dropTail p text = text := by
  rw [dropTail_eq_rdropWhile, List.rdropWhile_eq_self_iff]
  intro filled
  rw [kept _ (List.getLast?_eq_some_getLast filled)]
  exact Bool.false_ne_true

/-- Characters that are dropped can be added at the end of a text. -/
theorem dropTail_append (dropped : ∀ c ∈ tail, p c = true) :
    dropTail p (text ++ tail) = dropTail p text := by
  unfold dropTail
  rw [List.reverse_append, List.dropWhile_append_of_pos]
  simpa using dropped

/-- A text that ends in a character that is kept is kept before whatever follows it. -/
theorem dropTail_append_of_kept (kept : ∀ c ∈ text.getLast?, p c = false) :
    dropTail p (text ++ tail) = text ++ dropTail p tail := by
  have whole : text.reverse.dropWhile p = text.reverse := by
    have same := dropTail_eq_self kept
    rwa [dropTail, List.reverse_eq_iff] at same
  unfold dropTail
  rw [List.reverse_append, List.dropWhile_append]
  split
  · rename_i nothing
    rw [whole, List.isEmpty_iff.mp nothing, List.reverse_reverse, List.reverse_nil, List.append_nil]
  · rw [List.reverse_append, List.reverse_reverse]

/-- What is left at the end of a text ends in a character that is kept. -/
theorem kept_of_dropTail {c : Char} (last : c ∈ (dropTail p text).getLast?) : p c = false := by
  obtain ⟨filled, rfl⟩ := List.mem_getLast?_eq_getLast last
  exact Bool.eq_false_iff.mpr (List.rdropWhile_last_not p text filled)

/-- What is taken off the end of a text is dropped. -/
theorem exists_dropTail (p : Char → Bool) (text : List Char) :
    ∃ tail, text = dropTail p text ++ tail ∧ ∀ c ∈ tail, p c = true :=
  ⟨text.rtakeWhile p, List.rdropWhile_append_rtakeWhile.symm,
    fun _ => List.mem_rtakeWhile_imp⟩

/-- A text without its tail is the beginning of the text. -/
theorem dropTail_prefix_self (p : Char → Bool) (text : List Char) : dropTail p text <+: text :=
  List.rdropWhile_prefix p text

/-- What is left at the end of a text ends in what is left of a part there. -/
theorem dropTail_suffix (ends : part <:+ text) : dropTail p part <:+ dropTail p text := by
  obtain ⟨before, rfl⟩ := ends
  unfold dropTail
  rw [List.reverse_append, List.dropWhile_append]
  split
  · rename_i nothing
    rw [List.isEmpty_iff.mp nothing]
    exact List.nil_suffix
  · rw [List.reverse_append, List.reverse_reverse]
    exact List.suffix_append _ _

/-! ## Both ends -/

/-- Nothing is dropped where the first character is kept. -/
theorem dropWhile_eq_self (kept : ∀ c ∈ text.head?, p c = false) : text.dropWhile p = text := by
  cases text with
  | nil => rfl
  | cons c rest => exact List.dropWhile_cons_of_neg (by simp [kept c rfl])

/-- What is dropped at the front of a text ends before a character that is kept. -/
theorem dropWhile_append_cons {c : Char} (kept : p c = false) (text tail : List Char) :
    (text ++ c :: tail).dropWhile p = text.dropWhile p ++ c :: tail := by
  rw [List.dropWhile_append]
  split
  · rename_i nothing
    rw [List.isEmpty_iff.mp nothing, List.dropWhile_cons_of_neg (by simp [kept]), List.nil_append]
  · rfl

/-- A text that does not end in a blank character is trimmed at its front only. -/
theorem trim_eq_dropWhile (closing : ∀ c ∈ text.getLast?, isBlank c = false) :
    trim text = text.dropWhile isBlank := by
  refine dropTail_eq_self fun c last => closing c ?_
  rw [← List.takeWhile_append_dropWhile (p := isBlank) (l := text), List.getLast?_append,
    Option.mem_def.mp last, Option.some_or]
  rfl

/-- A text without blank characters at its ends is kept whole. -/
theorem trim_eq_self (opening : ∀ c ∈ text.head?, isBlank c = false)
    (closing : ∀ c ∈ text.getLast?, isBlank c = false) : trim text = text := by
  rw [trim_eq_dropWhile closing, dropWhile_eq_self opening]

/-- Blank characters can be added at the end of a text. -/
theorem trim_append (blank : ∀ c ∈ tail, isBlank c = true) : trim (text ++ tail) = trim text := by
  unfold trim
  rw [List.dropWhile_append]
  split
  · rename_i nothing
    rw [List.isEmpty_iff.mp nothing, List.dropWhile_eq_nil_iff.mpr blank]
  · exact dropTail_append blank

/-- What is left of a text ends in a visible character. -/
theorem visible_of_trim {c : Char} (last : c ∈ (trim text).getLast?) : isBlank c = false :=
  kept_of_dropTail last

/-- A part at the front of a trimmed text begins with a visible character. -/
theorem visible_of_prefix_trim {c : Char} (starts : part <+: trim text) (first : c ∈ part.head?) :
    isBlank c = false := by
  obtain ⟨rest, rfl⟩ := List.head?_eq_some_iff.mp first
  obtain ⟨more, same⟩ := starts.trans (dropTail_prefix_self isBlank (text.dropWhile isBlank))
  have opens := List.head?_dropWhile_not isBlank text
  rwa [← same] at opens

/-- Blank characters at the front of a text do not change what is left of it. -/
theorem trim_dropWhile (text : List Char) : trim (text.dropWhile isBlank) = trim text := by
  rw [trim, List.dropWhile_idempotent, trim]

/-- A part of a text that ends in a visible character is trimmed like the text, up to its end. -/
theorem trim_prefix (starts : part <+: text) (filled : part ≠ [])
    (closing : ∀ c ∈ part.getLast?, isBlank c = false) :
    trim part ≠ [] ∧ trim part <+: trim text := by
  obtain ⟨tail, rfl⟩ := starts
  have split : part.takeWhile isBlank ++ part.dropWhile isBlank = part :=
    List.takeWhile_append_dropWhile
  have left : part.dropWhile isBlank ≠ [] := by
    intro nothing
    have blank := List.dropWhile_eq_nil_iff.mp nothing _ (List.getLast_mem filled)
    rw [closing _ (List.getLast?_eq_some_getLast filled)] at blank
    cases blank
  have visible : ∀ c ∈ (part.dropWhile isBlank).getLast?, isBlank c = false := by
    rw [← List.getLast?_append_of_ne_nil (part.takeWhile isBlank) left, split]
    exact closing
  rw [trim_eq_dropWhile closing, trim, List.dropWhile_append, if_neg (by simpa using left),
    dropTail_append_of_kept visible]
  exact ⟨left, List.prefix_append _ _⟩

/-! ## Padding -/

/-- Of ASCII, only the space and control characters are blank. -/
theorem toNat_of_isBlank {c : Char} (blank : isBlank c = true) :
    c.toNat ≤ 0x20 ∨ 0x85 ≤ c.toNat := by
  simp only [isBlank, Bool.or_eq_true, Bool.and_eq_true, decide_eq_true_eq, beq_iff_eq] at blank
  omega

/-- A text that is a part of it with blank characters on both sides. -/
def IsPadded (part text : List Char) : Prop :=
  ∃ front back, text = front ++ part ++ back ∧ (∀ c ∈ front, isBlank c = true) ∧
    ∀ c ∈ back, isBlank c = true

/-- Only blank characters are taken off a text. -/
theorem trim_isPadded (text : List Char) : IsPadded (trim text) text := by
  obtain ⟨back, same, blank⟩ := exists_dropTail isBlank (text.dropWhile isBlank)
  refine ⟨text.takeWhile isBlank, back, ?_, fun c member => List.mem_takeWhile_imp member, blank⟩
  rw [List.append_assoc, trim, ← same, List.takeWhile_append_dropWhile]

/-- Without blank characters in a part, it is what is left of a text exactly if the text is padded
with them. -/
theorem trim_eq_iff (visible : ∀ c ∈ part, isBlank c = false) :
    trim text = part ↔ IsPadded part text := by
  constructor
  · rintro rfl
    exact trim_isPadded text
  · rintro ⟨front, back, rfl, frontBlank, backBlank⟩
    calc trim (front ++ part ++ back)
        = trim (front ++ part) := trim_append backBlank
      _ = trim ((front ++ part).dropWhile isBlank) := (trim_dropWhile _).symm
      _ = trim (part.dropWhile isBlank) := by rw [List.dropWhile_append_of_pos frontBlank]
      _ = trim part := trim_dropWhile part
      _ = part := trim_eq_self (fun c first => visible c (List.mem_of_mem_head? first))
          fun c last => visible c (List.mem_of_mem_getLast? last)

end MemoStore.Text
