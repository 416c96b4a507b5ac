import Mathlib
import MemoStore.Proofs.Text.Trimming
import MemoStore.Text.Lowercase

/-!
# Words in lower case

Lower-casing knows every capital of Unicode, but what it makes of a character beyond ASCII is beyond
ASCII too, with two exceptions: the Kelvin sign becomes a `k`, and a capital `I` with a dot becomes
an `i` with a dot of its own behind it. So a text is lowered to a word of ASCII characters without a
`k` only if it is that word up to the case of ASCII letters (`lower_eq_iff`). Words are looked up
without the blanks around them and in lower case, and `spells_iff` says which texts are found.
-/

namespace MemoStore.Text

variable {c : Char} {before text word : List Char}

/-! ## One character -/

/-- A run of capitals whose lower-case forms are characters beyond ASCII. -/
def StaysWide : Nat × Nat × Nat × Int → Prop
  | (first, last, _, offset) =>
    128 ≤ first + offset ∧
      (last + offset < 0xD800 ∨ 0xDFFF < first + offset ∧ last + offset < 0x110000)

instance : DecidablePred StaysWide := fun (first, last, _, offset) =>
  inferInstanceAs (Decidable (128 ≤ first + offset ∧
    (last + offset < 0xD800 ∨ 0xDFFF < first + offset ∧ last + offset < 0x110000)))

/-- All runs of capitals but the Kelvin sign stay beyond ASCII. -/
theorem staysWide_of_mem {run : Nat × Nat × Nat × Int} (member : run ∈ lowerRuns) :
    run = (0x212A, 0x212A, 1, -8383) ∨ StaysWide run := by
  revert run
  decide +kernel

/-- The lower-case form of a capital in such a run is a character beyond ASCII. -/
theorem StaysWide.le_toNat {first last step : Nat} {offset : Int}
    (wide : StaysWide (first, last, step, offset)) {code : Nat} (above : first ≤ code)
    (below : code ≤ last) : 128 ≤ (Char.ofNat (code + offset).toNat).toNat := by
  obtain ⟨beyond, valid⟩ := wide
  have isChar : (code + offset).toNat.isValidChar := by
    rcases valid with low | ⟨high, within⟩
    · exact .inl (by omega)
    · exact .inr ⟨by omega, by omega⟩
  rw [Char.toNat_ofNat, if_pos isChar]
  omega

/-- A character of which lower-casing makes only ASCII, and no `k`, is one of ASCII. -/
theorem ascii_of_lowerChar (plain : ∀ d ∈ lowerChar c, d.toNat < 128 ∧ d ≠ 'k') :
    c.toNat < 128 := by
  unfold lowerChar at plain
  split at plain
  · assumption
  · split at plain
    · exact absurd (plain (Char.ofNat 0x307) (by simp)).1 (by decide)
    · split at plain
      · rename_i first last step offset found
        obtain ⟨small, noKelvin⟩ := plain _ (List.mem_singleton_self _)
        have inside := List.find?_some found
        simp only [Bool.and_eq_true, decide_eq_true_eq] at inside
        obtain ⟨⟨above, below⟩, -⟩ := inside
        rcases staysWide_of_mem (List.mem_of_find?_eq_some found) with kelvin | wide
        · simp only [Prod.mk.injEq] at kelvin
          obtain ⟨rfl, rfl, rfl, rfl⟩ := kelvin
          have same : c.toNat = 0x212A := Nat.le_antisymm below above
          rw [same] at noKelvin
          exact absurd rfl noKelvin
        · exact absurd small (Nat.not_lt.mpr (wide.le_toNat above below))
      · exact (plain c (List.mem_singleton_self c)).1

/-- Lower-casing in ASCII changes capital letters only. -/
theorem toLower_eq_self (noCapital : c.toNat < 65 ∨ 90 < c.toNat) : c.toLower = c := by
  refine Char.toLower_eq_of_not_isUpper fun upper => ?_
  obtain ⟨above, below⟩ : 65 ≤ c.toNat ∧ c.toNat ≤ 90 := of_decide_eq_true upper
  omega

/-- A character of which lower-casing in ASCII makes one of ASCII is one itself. -/
theorem ascii_of_toLower (ascii : c.toLower.toNat < 128) : c.toNat < 128 := by
  by_cases capital : c.toNat ≤ 90
  · omega
  · rwa [toLower_eq_self (.inr (by omega))] at ascii

/-! ## Texts -/

/-- Lower-casing changes ASCII letters one by one. -/
theorem lowerAfter_of_ascii (ascii : ∀ c ∈ text, c.toNat < 128) :
    lowerAfter before text = text.map Char.toLower := by
  induction text generalizing before with
  | nil => rfl
  | cons c rest inductionHypothesis =>
      obtain ⟨small, restAscii⟩ := List.forall_mem_cons.mp ascii
      have noSigma : c ≠ 'Σ' := by
        rintro rfl
        exact absurd small (by decide)
      rw [lowerAfter, if_neg noSigma, lowerChar, if_pos small, inductionHypothesis restAscii]
      rfl

/-- A text of which lower-casing makes only ASCII, and no `k`, is one of ASCII. -/
theorem ascii_of_lowerAfter (plain : ∀ d ∈ lowerAfter before text, d.toNat < 128 ∧ d ≠ 'k') :
    ∀ c ∈ text, c.toNat < 128 := by
  induction text generalizing before with
  | nil => exact fun _ member => absurd member List.not_mem_nil
  | cons c rest inductionHypothesis =>
      rw [lowerAfter, List.forall_mem_append] at plain
      obtain ⟨first, later⟩ := plain
      refine List.forall_mem_cons.mpr ⟨?_, inductionHypothesis later⟩
      split at first
      · -- both forms of a small sigma are beyond ASCII
        split at first
        · exact absurd (first 'ς' (by simp)).1 (by decide)
        · exact absurd (first 'σ' (by simp)).1 (by decide)
      · exact ascii_of_lowerChar first

/-- What is lowered to a word of ASCII characters without a `k` is that word up to the case of ASCII
letters. -/
theorem lower_eq_iff (plain : ∀ d ∈ word, d.toNat < 128 ∧ d ≠ 'k') :
    lower text = word ↔ text.map Char.toLower = word := by
  constructor
  · rintro rfl
    exact (lowerAfter_of_ascii (ascii_of_lowerAfter plain)).symm
  · rintro rfl
    refine lowerAfter_of_ascii fun c member => ascii_of_toLower ?_
    exact (plain _ (List.mem_map_of_mem member)).1

/-- The Kelvin sign is the reason for the condition. -/
example : lower ['\u212A'] = ['k'] ∧ ['\u212A'].map Char.toLower ≠ ['k'] := by decide

/-! ## Words -/

/-- Texts that differ at most in the case of ASCII letters. -/
def SameLetters (text word : List Char) : Prop :=
  text.map Char.toLower = word.map Char.toLower

/-- Whether a text is one of some words, apart from the case of ASCII letters and from blank
characters around it. -/
def Spells (words : List String) (text : List Char) : Prop :=
  ∃ word ∈ words, ∃ part, IsPadded part text ∧ SameLetters part word.toList

/-- The small letters and digits of ASCII, without the letter that the Kelvin sign becomes. -/
def isPlain (c : Char) : Bool :=
  (c.isLower || c.isDigit) && c != 'k'

/-- The codes of plain characters are those of small letters and digits. -/
theorem toNat_of_isPlain (plain : isPlain c = true) :
    97 ≤ c.toNat ∧ c.toNat ≤ 122 ∨ 48 ≤ c.toNat ∧ c.toNat ≤ 57 := by
  simp only [isPlain, Char.isLower, Char.isDigit, Bool.and_eq_true, Bool.or_eq_true,
    decide_eq_true_eq] at plain
  exact plain.1

/-- Plain characters are in ASCII, and none of them is the letter that the Kelvin sign becomes. -/
theorem ascii_of_isPlain (plain : isPlain c = true) : c.toNat < 128 ∧ c ≠ 'k' := by
  have codes := toNat_of_isPlain plain
  exact ⟨by omega, bne_iff_ne.mp (Bool.and_eq_true_iff.mp plain).2⟩

/-- Plain characters are their own small letters. -/
theorem toLower_of_isPlain (plain : isPlain c = true) : c.toLower = c := by
  have codes := toNat_of_isPlain plain
  exact toLower_eq_self (by omega)

/-- A character is visible if its small letter is plain. -/
theorem visible_of_isPlain (plain : isPlain c.toLower = true) : isBlank c = false := by
  refine Bool.eq_false_iff.mpr fun blank => ?_
  have blankCodes := toNat_of_isBlank blank
  rw [toLower_eq_self (by omega)] at plain
  have codes := toNat_of_isPlain plain
  omega

/-- Among plain words, the lower-case form of what is left of a text is found exactly if the text
spells one of them. -/
theorem spells_iff {words : List String}
    (plain : ∀ word ∈ words, ∀ c ∈ word.toList, isPlain c = true) :
    String.ofList (lower (trim text)) ∈ words ↔ Spells words text := by
  constructor
  · intro member
    have letters : ∀ c ∈ lower (trim text), isPlain c = true := by
      simpa using plain _ member
    have same : (trim text).map Char.toLower = lower (trim text) :=
      (lower_eq_iff fun c inside => ascii_of_isPlain (letters c inside)).mp rfl
    refine ⟨_, member, trim text, trim_isPadded text, ?_⟩
    rw [SameLetters, String.toList_ofList, ← same, List.map_map]
    exact List.map_congr_left fun c _ => (Char.toLower_toLower_eq_toLower c).symm
  · rintro ⟨word, member, part, padded, same⟩
    have lowered : word.toList.map Char.toLower = word.toList :=
      (List.map_congr_left fun c inside => toLower_of_isPlain (plain word member c inside)).trans
        (List.map_id word.toList)
    rw [SameLetters, lowered] at same
    have visible : ∀ c ∈ part, isBlank c = false := by
      intro c inside
      refine visible_of_isPlain (plain word member c.toLower ?_)
      exact same ▸ List.mem_map_of_mem inside
    have found : lower part = word.toList :=
      (lower_eq_iff fun c inside => ascii_of_isPlain (plain word member c inside)).mpr same
    rwa [(trim_eq_iff visible).mpr padded, found, String.ofList_toList]

end MemoStore.Text
