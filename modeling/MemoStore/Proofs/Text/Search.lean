import Mathlib.Data.List.Induction
import MemoStore.Text.Search

/-!
# What a search finds

A reader that needs a literal text at its front fails wherever that text is missing, so
a search goes past every stretch of text that the literal does not occur in.
`first?_past` and `Clashes.not_infix_append` are the two ways to see that it is missing: a
character that the literal does not have, and a keyword that the text before lacks.
-/

namespace MemoStore.Text

variable {α : Type}

/-- Behind a literal stands what was put there. -/
theorem after?_append (literal rest : List Char) :
    after? literal (literal ++ rest) = some rest := by
  simp [after?]

/-- A text with something behind a literal begins with the literal. -/
theorem prefix_of_after? {literal text rest : List Char}
    (found : after? literal text = some rest) : text = literal ++ rest := by
  unfold after? at found
  split at found
  · rename_i starts
    obtain ⟨left, rfl⟩ := List.isPrefixOf_iff_prefix.mp starts
    simp only [List.drop_left, Option.some.injEq] at found
    rw [found]
  · cases found

/-- A text that does not begin with a literal has nothing behind it. -/
theorem after?_eq_none {literal text : List Char} (missing : ¬ literal <+: text) :
    after? literal text = none := by
  unfold after?
  rw [if_neg]
  rwa [List.isPrefixOf_iff_prefix]

/-- A literal occurs in a text exactly if it is a contiguous part of it. -/
theorem occurs_iff (literal text : List Char) :
    occurs literal text = true ↔ literal <:+: text := by
  induction text with
  | nil => simp [occurs]
  | cons c rest inductionHypothesis =>
      rw [occurs, Bool.or_eq_true, inductionHypothesis, List.isPrefixOf_iff_prefix,
        List.infix_cons_iff]

/-- A search finds nothing exactly if the reader fails at every place. -/
theorem first?_eq_none_iff {read : List Char → Option α} {text : List Char} :
    first? read text = none ↔ ∀ tail, tail <:+ text → read tail = none := by
  induction text with
  | nil => simp [first?]
  | cons c rest inductionHypothesis =>
      rw [first?, Option.or_eq_none_iff, inductionHypothesis]
      constructor
      · rintro ⟨here, later⟩ tail suffix
        rcases List.suffix_cons_iff.mp suffix with rfl | suffix
        · exact here
        · exact later tail suffix
      · intro fails
        refine ⟨fails _ List.suffix_rfl, fun tail suffix => ?_⟩
        exact fails tail (suffix.trans (List.suffix_cons c rest))

/-- A search for the last place finds nothing exactly if the reader fails everywhere. -/
theorem last?_eq_none_iff {read : List Char → Option α} {text : List Char} :
    last? read text = none ↔ ∀ tail, tail <:+ text → read tail = none := by
  induction text with
  | nil => simp [last?]
  | cons c rest inductionHypothesis =>
      rw [last?, Option.or_eq_none_iff, inductionHypothesis]
      constructor
      · rintro ⟨later, here⟩ tail suffix
        rcases List.suffix_cons_iff.mp suffix with rfl | suffix
        · exact here
        · exact later tail suffix
      · intro fails
        refine ⟨fun tail suffix => ?_, fails _ List.suffix_rfl⟩
        exact fails tail (suffix.trans (List.suffix_cons c rest))

/-- What the reader finds at the front is what the search finds. -/
theorem first?_of_read {read : List Char → Option α} {text : List Char} {value : α}
    (found : read text = some value) : first? read text = some value := by
  cases text with
  | nil => exact found
  | cons c rest => rw [first?, found, Option.some_or]

/-- A search goes past a stretch in which the reader fails. -/
theorem first?_append {read : List Char → Option α} {opening rest : List Char}
    (fails : ∀ tail, tail ≠ [] → tail <:+ opening → read (tail ++ rest) = none) :
    first? read (opening ++ rest) = first? read rest := by
  induction opening with
  | nil => rfl
  | cons c opening inductionHypothesis =>
      have here : read (c :: opening ++ rest) = none :=
        fails _ (List.cons_ne_nil c opening) List.suffix_rfl
      rw [List.cons_append, first?, ← List.cons_append, here, Option.none_or]
      exact inductionHypothesis fun tail filled suffix =>
        fails tail filled (suffix.trans (List.suffix_cons c opening))

/-- A literal that begins nowhere in an opening occurs behind it or not at all. -/
theorem infix_append_iff_of_fails {literal opening rest : List Char}
    (fails : ∀ tail, tail ≠ [] → tail <:+ opening → ¬ literal <+: tail ++ rest) :
    literal <:+: opening ++ rest ↔ literal <:+: rest := by
  induction opening with
  | nil => exact Iff.rfl
  | cons c opening inductionHypothesis =>
      have first : ¬ literal <+: c :: (opening ++ rest) :=
        fails (c :: opening) (List.cons_ne_nil c opening) List.suffix_rfl
      have later : literal <:+: opening ++ rest ↔ literal <:+: rest :=
        inductionHypothesis fun tail filled suffix =>
          fails tail filled (suffix.trans (List.suffix_cons c opening))
      rw [List.cons_append, List.infix_cons_iff, later, or_iff_right first]

/-- The last place is at `rest` if the reader succeeds there and at no later place. -/
theorem last?_append {read : List Char → Option α} {opening rest : List Char} {c : Char}
    {value : α} (found : read (c :: rest) = some value)
    (fails : ∀ tail, tail <:+ rest → read tail = none) :
    last? read (opening ++ c :: rest) = some value := by
  induction opening with
  | nil =>
      rw [List.nil_append, last?, last?_eq_none_iff.mpr fails, Option.none_or]
      exact found
  | cons _ opening inductionHypothesis =>
      rw [List.cons_append, last?, inductionHypothesis, Option.some_or]

/-- What begins two texts begins the first of them, or goes on in the second. -/
theorem prefix_append_cases {literal text rest : List Char} (starts : literal <+: text ++ rest) :
    literal <+: text ∨ ∃ c beyond, literal = text ++ c :: beyond ∧ c :: beyond <+: rest := by
  rcases List.prefix_or_prefix_of_prefix starts (List.prefix_append text rest) with
    inside | ⟨beyond, rfl⟩
  · exact .inl inside
  · cases beyond with
    | nil => exact .inl (by simp)
    | cons c beyond => exact .inr ⟨c, beyond, rfl, (List.prefix_append_right_inj text).mp starts⟩

/-- A literal without the character `c` does not reach beyond one. -/
theorem prefix_of_prefix_append_cons {literal text rest : List Char} {c : Char}
    (free : c ∉ literal) (starts : literal <+: text ++ c :: rest) : literal <+: text := by
  rcases prefix_append_cases starts with inside | ⟨d, beyond, rfl, later⟩
  · exact inside
  · obtain ⟨rfl, -⟩ := List.cons_prefix_cons.mp later
    exact absurd (by simp) free

/-- A literal without the character `c` occurs on one side of it or on the other. -/
theorem infix_append_cons {literal text rest : List Char} {c : Char} (free : c ∉ literal)
    (occurring : literal <:+: text ++ c :: rest) : literal <:+: text ∨ literal <:+: rest := by
  induction text with
  | nil =>
      rcases List.infix_cons_iff.mp occurring with starts | later
      · have inside : literal <+: [] := prefix_of_prefix_append_cons free starts
        exact .inl inside.isInfix
      · exact .inr later
  | cons d text inductionHypothesis =>
      rcases List.infix_cons_iff.mp occurring with starts | later
      · have inside : literal <+: d :: text := prefix_of_prefix_append_cons free starts
        exact .inl inside.isInfix
      · exact (inductionHypothesis later).imp_left List.infix_cons

/-- A literal that ends in a character without a property does not reach into a text whose
characters all have it. -/
theorem infix_of_infix_append {stem text word : List Char} {c : Char} {p : Char → Bool}
    (apart : p c = false) (all : ∀ d ∈ word, p d = true)
    (occurring : stem ++ [c] <:+: text ++ word) : stem ++ [c] <:+: text := by
  induction word using List.reverseRecOn with
  | nil => rwa [List.append_nil] at occurring
  | append_singleton word d inductionHypothesis =>
      rw [← List.append_assoc] at occurring
      rcases List.infix_concat_iff.mp occurring with suffix | earlier
      · obtain ⟨before, same⟩ := suffix
        rw [← List.append_assoc] at same
        obtain ⟨-, rfl⟩ := List.append_inj' same rfl |>.imp_right List.singleton_inj.mp
        rw [all c (by simp)] at apart
        cases apart
      · exact inductionHypothesis (fun e member => all e (List.mem_append_left [d] member)) earlier

/-- What follows a literal goes on behind a character that the literal does not have. -/
theorem after?_append_cons {literal text rest : List Char} {c : Char} (free : c ∉ literal) :
    after? literal (text ++ c :: rest) = (after? literal text).map (· ++ c :: rest) := by
  by_cases starts : literal <+: text ++ c :: rest
  · obtain ⟨left, rfl⟩ := prefix_of_prefix_append_cons free starts
    rw [List.append_assoc, after?_append, after?_append, Option.map_some]
  · have before : ¬ literal <+: text := fun inside => starts (inside.trans (List.prefix_append _ _))
    rw [after?_eq_none starts, after?_eq_none before, Option.map_none]

/-- A reader that never reads beyond a character finds the same before it, and what it finds
behind it only if there is nothing before. -/
theorem first?_append_cons {read : List Char → Option α} {text rest : List Char} {c : Char}
    (within : ∀ tail, tail <:+ text → read (tail ++ c :: rest) = read tail) :
    first? read (text ++ c :: rest) = (first? read text).or (first? read rest) := by
  induction text with
  | nil =>
      have here := within [] List.suffix_rfl
      rw [List.nil_append] at here ⊢
      simp only [first?, here]
  | cons d text inductionHypothesis =>
      have here := within (d :: text) List.suffix_rfl
      rw [List.cons_append] at here ⊢
      rw [first?, here, inductionHypothesis, first?, Option.or_assoc]
      exact fun tail suffix => within tail (suffix.trans (List.suffix_cons d text))

/-- A search goes past a character that the reader cannot read up to. -/
theorem first?_past_of_fails {read : List Char → Option α} {text rest : List Char} {c : Char}
    (fails : ∀ tail, tail <:+ text → read (tail ++ c :: rest) = none) :
    first? read (text ++ c :: rest) = first? read rest := by
  rw [show text ++ c :: rest = (text ++ [c]) ++ rest by simp]
  refine first?_append fun tail filled suffix => ?_
  rcases List.suffix_concat_iff.mp suffix with rfl | ⟨before, rfl, inside⟩
  · exact absurd rfl filled
  · simpa using fails before inside

/-- A search goes past a character that the reader's literal does not have, if the
literal does not occur before it. -/
theorem first?_past {read : List Char → Option α} {literal text rest : List Char} {c : Char}
    (opens : ∀ tail, read tail ≠ none → literal <+: tail) (free : c ∉ literal)
    (absent : ¬ literal <:+: text) : first? read (text ++ c :: rest) = first? read rest := by
  refine first?_past_of_fails fun tail suffix => ?_
  cases result : read (tail ++ c :: rest) with
  | none => rfl
  | some value =>
      have starts := opens (tail ++ c :: rest) (by simp [result])
      have inside := prefix_of_prefix_append_cons free starts
      exact absurd (inside.isInfix.trans suffix.isInfix) absent

/-- A search finds nothing in a text that the reader's literal does not occur in. -/
theorem first?_eq_none {read : List Char → Option α} {literal text : List Char}
    (opens : ∀ tail, read tail ≠ none → literal <+: tail) (absent : ¬ literal <:+: text) :
    first? read text = none := by
  refine first?_eq_none_iff.mpr fun tail suffix => ?_
  cases result : read tail with
  | none => rfl
  | some value =>
      have starts := opens tail (by simp [result])
      exact absurd (starts.isInfix.trans suffix.isInfix) absent

/-- Two texts agree as far as both reach. -/
def Agree (left right : List Char) : Prop :=
  left <+: right ∨ right <+: left

instance (left right : List Char) : Decidable (Agree left right) :=
  inferInstanceAs (Decidable (_ ∨ _))

/-- Whether no occurrence of `literal` can begin before a text that starts with `known`
and end in it, if what stands before has no `keyword`. -/
def Clashes (keyword literal known : List Char) : Prop :=
  keyword <:+: literal ∧
    ∀ k < literal.length, 0 < k →
      keyword <:+: literal.take k ∨ ¬ Agree (literal.drop k) known

instance (keyword literal known : List Char) : Decidable (Clashes keyword literal known) :=
  inferInstanceAs (Decidable (_ ∧ _))

/-- No occurrence of the literal begins in an opening without the keyword. -/
theorem Clashes.not_prefix_append {keyword literal known opening tail rest : List Char}
    (clash : Clashes keyword literal known) (absent : ¬ keyword <:+: opening)
    (filled : tail ≠ []) (suffix : tail <:+ opening) :
    ¬ literal <+: tail ++ (known ++ rest) := by
  intro starts
  obtain ⟨within, cut⟩ := clash
  rcases prefix_append_cases starts with inside | ⟨c, beyond, rfl, later⟩
  · exact absent (within.trans (inside.isInfix.trans suffix.isInfix))
  · have short : tail.length < (tail ++ c :: beyond).length := by simp
    rcases cut tail.length short (List.length_pos_iff.mpr filled) with early | differs
    · rw [List.take_left] at early
      exact absent (early.trans suffix.isInfix)
    · rw [List.drop_left] at differs
      exact differs (List.prefix_or_prefix_of_prefix later (List.prefix_append known rest))

/-- A literal does not occur behind an opening without the keyword if it does not occur
in what follows. -/
theorem Clashes.not_infix_append {keyword literal known opening rest : List Char}
    (clash : Clashes keyword literal known) (absent : ¬ keyword <:+: opening)
    (later : ¬ literal <:+: known ++ rest) : ¬ literal <:+: opening ++ (known ++ rest) := by
  rwa [infix_append_iff_of_fails fun _ => clash.not_prefix_append absent]

end MemoStore.Text
