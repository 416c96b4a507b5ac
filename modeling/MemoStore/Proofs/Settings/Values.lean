import MemoStore.Proofs.Text.Casing
import MemoStore.Settings

/-!
# Values of variables

The texts that are understood as the value of a variable. A yes or a no and the name of a format are
words, a number of connections is a decimal numeral that stands for a number of 32 bits other than
zero. Each reader gets a theorem that says exactly which texts it accepts, and as what
(`readFlag_iff`, `read_iff`, `readConnections_iff`).
-/

namespace MemoStore.Text

variable {digits text : List Char} {n : Nat}

/-! ## Decimal numerals -/

/-- The number that one or more decimal digits stand for, the last digit being the units. -/
inductive IsDecimal : List Char → Nat → Prop where
  | digit {d : Nat} (small : d < 10) : IsDecimal [d.digitChar] d
  | units {digits : List Char} {n d : Nat} (before : IsDecimal digits n) (small : d < 10) :
      IsDecimal (digits ++ [d.digitChar]) (10 * n + d)

/-- A decimal numeral, with a plus sign before it or without. -/
def IsNumeral (text : List Char) (n : Nat) : Prop :=
  ∃ digits, (text = digits ∨ text = '+' :: digits) ∧ IsDecimal digits n

/-- One more digit at the end counts the units. -/
theorem decimalValue_concat (digits : List Char) (c : Char) :
    decimalValue (digits ++ [c]) = decimalValue digits * 10 + (c.toNat - 48) := by
  rw [decimalValue, List.foldl_append]
  rfl

/-- Every digit is that of a number below ten. -/
theorem exists_digitChar {c : Char} (digit : c.isDigit = true) :
    ∃ d < 10, c = d.digitChar ∧ c.toNat - 48 = d := by
  obtain ⟨above, below⟩ : 48 ≤ c.toNat ∧ c.toNat ≤ 57 := Char.isDigit_iff_toNat.mp digit
  have small : c.toNat - 48 < 10 := by omega
  refine ⟨c.toNat - 48, small, Char.toNat_inj.mp ?_, rfl⟩
  rw [Nat.toNat_digitChar_of_lt_ten small]
  omega

/-- Digits stand for one number, and it is the value that is computed of them. -/
theorem isDecimal_iff :
    IsDecimal digits n ↔
      digits ≠ [] ∧ (∀ c ∈ digits, c.isDigit = true) ∧ decimalValue digits = n := by
  constructor
  · intro decimal
    induction decimal with
    | @digit d small =>
        refine ⟨List.cons_ne_nil _ _, ?_, ?_⟩
        · simp [Nat.isDigit_digitChar, small]
        · simp [decimalValue, Nat.toNat_digitChar_of_lt_ten small]
    | @units digits n d before small inductionHypothesis =>
        obtain ⟨-, areDigits, value⟩ := inductionHypothesis
        refine ⟨by simp, ?_, ?_⟩
        · refine List.forall_mem_append.mpr ⟨areDigits, ?_⟩
          simp [Nat.isDigit_digitChar, small]
        · rw [decimalValue_concat, value, Nat.toNat_digitChar_of_lt_ten small]
          omega
  · rintro ⟨filled, areDigits, rfl⟩
    induction digits using List.reverseRecOn with
    | nil => exact absurd rfl filled
    | append_singleton digits c inductionHypothesis =>
        obtain ⟨before, last⟩ := List.forall_mem_append.mp areDigits
        obtain ⟨d, small, rfl, value⟩ := exists_digitChar (last c (List.mem_singleton_self c))
        rw [decimalValue_concat, value]
        by_cases single : digits = []
        · subst single
          simpa [decimalValue] using IsDecimal.digit small
        · rw [Nat.mul_comm]
          exact .units (inductionHypothesis single before) small

/-- A digit is no blank, and no plus sign. -/
theorem visible_of_isDigit {c : Char} (digit : c.isDigit = true) : isBlank c = false ∧ c ≠ '+' := by
  obtain ⟨above, below⟩ : 48 ≤ c.toNat ∧ c.toNat ≤ 57 := Char.isDigit_iff_toNat.mp digit
  constructor
  · refine Bool.eq_false_iff.mpr fun blank => ?_
    have blankCodes := toNat_of_isBlank blank
    omega
  · rintro rfl
    exact absurd above (by decide)

/-- A numeral has no blanks in it. -/
theorem IsNumeral.visible (numeral : IsNumeral text n) : ∀ c ∈ text, isBlank c = false := by
  obtain ⟨digits, written, decimal⟩ := numeral
  obtain ⟨-, areDigits, -⟩ := isDecimal_iff.mp decimal
  have visible : ∀ c ∈ digits, isBlank c = false :=
    fun c member => (visible_of_isDigit (areDigits c member)).1
  rcases written with rfl | rfl
  · exact visible
  · exact List.forall_mem_cons.mpr ⟨by decide, visible⟩

end MemoStore.Text

namespace MemoStore.Settings

open MemoStore.Document (Format)
open MemoStore.Text

variable {text : String} {n : Nat}

/-! ## Words -/

/-- The words for a yes and for a no. -/
def flagWords : Bool → List String
  | true => ["true", "1", "yes", "on"]
  | false => ["false", "0", "no", "off"]

/-- The names of a format. -/
def formatWords : Format → List String
  | .yaml => ["yaml", "yml"]
  | .json => ["json"]

/-- The words for a flag are made of plain characters. -/
theorem isPlain_flagWords (flag : Bool) :
    ∀ word ∈ flagWords flag, ∀ c ∈ word.toList, isPlain c = true := by
  cases flag <;> simp [flagWords, isPlain]

/-- The words for a format are made of plain characters. -/
theorem isPlain_formatWords (format : Format) :
    ∀ word ∈ formatWords format, ∀ c ∈ word.toList, isPlain c = true := by
  cases format <;> simp [formatWords, isPlain]

/-- A yes or a no is read of the texts that spell one, and of no other. -/
theorem readFlag_iff (flag : Bool) :
    readFlag text = some flag ↔ Spells (flagWords flag) text.toList := by
  rw [← spells_iff (isPlain_flagWords flag)]
  unfold readFlag
  generalize String.ofList (lower (trim text.toList)) = word
  -- no word is one for both answers, so the order of the two tests does not matter
  cases flag with
  | true => grind [flagWords]
  | false => grind [flagWords]

/-- A format is read of the texts that spell its name, and of no other. -/
theorem read_iff (format : Format) :
    Format.read text = .ok format ↔ Spells (formatWords format) text.toList := by
  rw [← spells_iff (isPlain_formatWords format)]
  unfold Format.read
  generalize String.ofList (lower (trim text.toList)) = word
  cases format with
  | yaml => grind [formatWords]
  | json => grind [formatWords]

/-! ## Numbers of connections -/

/-- A decimal numeral for a positive number of 32 bits, with blank characters around it or
without. -/
def IsCount (text : List Char) (n : Nat) : Prop :=
  1 ≤ n ∧ n ≤ 4294967295 ∧ ∃ numeral, IsPadded numeral text ∧ IsNumeral numeral n

/-- What is read behind the sign: one or more digits, if their value fits. -/
theorem digits_eq_some_iff {digits : List Char} :
    (if !digits.isEmpty && digits.all Char.isDigit && decimalValue digits < Nat.pow 2 32 then
      some (decimalValue digits) else none) = some n ↔ IsDecimal digits n ∧ n < Nat.pow 2 32 := by
  rw [isDecimal_iff]
  simp only [Option.ite_none_right_eq_some, Option.some.injEq, Bool.and_eq_true,
    Bool.not_eq_true', List.isEmpty_eq_false_iff, List.all_eq_true, decide_eq_true_eq]
  constructor
  · rintro ⟨⟨⟨filled, areDigits⟩, fits⟩, rfl⟩
    exact ⟨⟨filled, areDigits, rfl⟩, fits⟩
  · rintro ⟨⟨filled, areDigits, rfl⟩, fits⟩
    exact ⟨⟨⟨filled, areDigits⟩, fits⟩, rfl⟩

/-- A number is read of the numerals for numbers of 32 bits, and of no other text. -/
theorem readNumber_iff {text : List Char} :
    readNumber text = some n ↔ IsNumeral text n ∧ n < Nat.pow 2 32 := by
  unfold readNumber
  simp only
  split
  · rename_i digits
    rw [digits_eq_some_iff]
    refine and_congr_left fun _ => ⟨fun decimal => ⟨digits, .inr rfl, decimal⟩, ?_⟩
    rintro ⟨written, same | same, decimal⟩
    · -- the sign itself is no digit
      subst same
      obtain ⟨-, areDigits, -⟩ := isDecimal_iff.mp decimal
      exact absurd rfl (visible_of_isDigit (areDigits '+' List.mem_cons_self)).2
    · exact (List.cons.inj same).2 ▸ decimal
  · rename_i unsigned
    rw [digits_eq_some_iff]
    refine and_congr_left fun _ => ⟨fun decimal => ⟨text, .inl rfl, decimal⟩, ?_⟩
    rintro ⟨digits, same | same, decimal⟩
    · exact same ▸ decimal
    · exact absurd same (unsigned digits)

/-- A number of connections is read of the texts that are numerals for one, blanks aside. -/
theorem readConnections_iff : readConnections text = some n ↔ IsCount text.toList n := by
  rw [readConnections, Option.filter_eq_some_iff, readNumber_iff, bne_iff_ne]
  constructor
  · rintro ⟨⟨numeral, fits⟩, positive⟩
    exact ⟨Nat.pos_of_ne_zero positive, Nat.le_of_lt_succ fits, _, trim_isPadded _, numeral⟩
  · rintro ⟨positive, fits, part, padded, numeral⟩
    rw [(trim_eq_iff numeral.visible).mpr padded]
    exact ⟨⟨numeral, Nat.lt_succ_of_le fits⟩, Nat.ne_of_gt positive⟩

/-- Zeros in front do not count as digits of a number that is too long. -/
example : readConnections "\t+00004294967295 " = some 4294967295 ∧
    readConnections "4294967296" = none := by
  decide +kernel

end MemoStore.Settings
