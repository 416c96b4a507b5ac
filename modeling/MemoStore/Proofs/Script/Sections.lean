import MemoStore.Proofs.Script.Tidying

/-!
# What becomes of the text of a script

The breakpoint lines of a script divide it into sections, and of a section the lines count that are
neither blank nor comments. `sections` says this of all lines at once, with the splitting of lists;
the groups that a script is read into line by line are the same (`groups_eq_sections`).

`split_accounted` follows the text of every section to where it goes: into one statement, apart from
blanks at its front and from blanks and terminators at its end, or nowhere, if there was nothing
else in it. So no text is lost, none is said twice, and no statement mixes two sections.
-/

namespace MemoStore.Script

open MemoStore.Text

variable {line text statement : List Char}

/-! ## Sections -/

/-- A line that begins with the marker, blanks aside. -/
def IsBreakpoint (line : List Char) : Prop :=
  marker.toList <+: trim line

/-- A line that looks like a comment and is no breakpoint. -/
def IsComment (line : List Char) : Prop :=
  "--".toList <+: trim line ∧ ¬ IsBreakpoint line

/-- A line that is neither a breakpoint nor blank nor a comment. -/
def IsText (line : List Char) : Prop :=
  ¬ IsBreakpoint line ∧ trim line ≠ [] ∧ ¬ IsComment line

instance : DecidablePred IsBreakpoint := fun line =>
  inferInstanceAs (Decidable (marker.toList <+: trim line))

instance : DecidablePred IsComment := fun line =>
  inferInstanceAs (Decidable ("--".toList <+: trim line ∧ ¬ IsBreakpoint line))

instance : DecidablePred IsText := fun line =>
  inferInstanceAs (Decidable (¬ IsBreakpoint line ∧ trim line ≠ [] ∧ ¬ IsComment line))

/-- The text lines between breakpoints, of every stretch of a script. -/
def sections (script : List Char) : List (List (List Char)) :=
  ((lines script).splitOnP fun line => IsBreakpoint line).map fun stretch =>
    stretch.filter fun line => IsText line

/-- The lines of a section with line feeds between them. -/
def sectionText (stretch : List (List Char)) : List Char :=
  ['\n'].intercalate stretch

/-- A line is kept in a statement exactly when it is text. -/
theorem role_eq_body_iff_isText : LineRole.of line = .body ↔ IsText line := by
  rw [role_eq_body_iff]
  constructor
  · rintro ⟨filled, ordinary⟩
    exact ⟨fun marked => ordinary (comment_prefix_marker.trans marked), filled,
      fun comment => ordinary comment.1⟩
  · rintro ⟨unmarked, filled, told⟩
    exact ⟨filled, fun looks => told ⟨looks, unmarked⟩⟩

/-- What is read into groups line by line are the sections of the script. -/
theorem groups_eq_sections (script : List Char) : groups (lines script) = sections script := by
  unfold sections
  induction lines script with
  | nil => rfl
  | cons line rest inductionHypothesis =>
      have separates : LineRole.of line = .breakpoint ↔ IsBreakpoint line := role_eq_breakpoint_iff
      have counts : LineRole.of line = .body ↔ IsText line := role_eq_body_iff_isText
      rw [groups, inductionHypothesis, List.splitOnP_cons_eq_if_modifyHead]
      cases role : LineRole.of line with
      | breakpoint =>
          have marked : IsBreakpoint line := separates.mp role
          simp [marked]
      | skipped =>
          have unmarked : ¬ IsBreakpoint line := fun marked => by
            simp [separates.mpr marked] at role
          have noText : ¬ IsText line := fun isText => by
            simp [counts.mpr isText] at role
          cases stretches : rest.splitOnP fun line => IsBreakpoint line with
          | nil => simp [unmarked]
          | cons stretch later => simp [unmarked, noText]
      | body =>
          have isText : IsText line := counts.mp role
          cases stretches : rest.splitOnP fun line => IsBreakpoint line with
          | nil => exact absurd stretches (List.splitOnP_ne_nil _ rest)
          | cons stretch later => simp [isText.1, isText]

/-! ## What is cut off -/

/-- A text of blanks and terminators. -/
def IsWaste (text : List Char) : Prop :=
  ∀ c ∈ text, isBlank c = true ∨ c = ';'

/-- What is left of a text when blanks are cut off its front, and waste off its end. -/
def IsPiece (statement text : List Char) : Prop :=
  ∃ front back, text = front ++ statement ++ back ∧ (∀ c ∈ front, isBlank c = true) ∧ IsWaste back

/-- Cleaning leaves a piece of a text. -/
theorem clean_isPiece (text : List Char) : IsPiece (clean text) text := by
  obtain ⟨front, blanks, padded, frontBlank, blank⟩ := trim_isPadded text
  obtain ⟨terminators, stripped, terminal⟩ := exists_dropTail (· == ';') (trim text)
  obtain ⟨inner, cleaned, innerBlank⟩ :=
    exists_dropTail isBlank (dropTail (· == ';') (trim text))
  rw [← clean] at cleaned
  refine ⟨front, inner ++ terminators ++ blanks, ?_, frontBlank, ?_⟩
  · calc text
        = front ++ trim text ++ blanks := padded
      _ = front ++ (clean text ++ inner ++ terminators) ++ blanks := by rw [← cleaned, ← stripped]
      _ = front ++ clean text ++ (inner ++ terminators ++ blanks) := by simp
  · intro c member
    simp only [List.mem_append] at member
    rcases member with (member | member) | member
    · exact .inl (innerBlank c member)
    · exact .inr (by simpa using terminal c member)
    · exact .inl (blank c member)

/-- The text of a group is that of its lines with a line feed behind it. -/
theorem joined_eq_sectionText {stretch : List (List Char)} (filled : stretch ≠ []) :
    joined stretch = sectionText stretch ++ ['\n'] := by
  induction stretch with
  | nil => exact absurd rfl filled
  | cons line rest inductionHypothesis =>
      cases rest with
      | nil => simp [joined, sectionText]
      | cons next rest =>
          have later := inductionHypothesis (List.cons_ne_nil next rest)
          simp only [joined, sectionText] at later ⊢
          rw [List.flatMap_cons, later, List.intercalate_cons_cons]
          simp

/-- Only the last line feed is missing from the lines of a section between line feeds. -/
theorem sectionText_prefix_joined (stretch : List (List Char)) :
    sectionText stretch <+: joined stretch := by
  by_cases filled : stretch = []
  · subst filled
    exact List.prefix_rfl
  · rw [joined_eq_sectionText filled]
    exact List.prefix_append _ _

/-- The statement of a group is a piece of the text of its lines, without the last line feed. -/
theorem isPiece_of_statement? {stretch : List (List Char)}
    (stated : statement? stretch = some statement) : IsPiece statement (sectionText stretch) := by
  obtain ⟨cleaned, filled⟩ := statement?_eq_some_iff.mp stated
  have lined : stretch ≠ [] := by
    rintro rfl
    exact filled cleaned.symm
  have closing : ∀ c ∈ statement.getLast?, isBlank c = false := by
    rw [← cleaned]
    exact fun _ => kept_of_dropTail
  obtain ⟨front, back, whole, blank, waste⟩ := clean_isPiece (joined stretch)
  rw [cleaned, joined_eq_sectionText lined] at whole
  -- the statement ends visibly, so the last line feed is cut off behind it
  cases back using List.reverseRecOn with
  | nil =>
      have feeds : statement.getLast? = some '\n' := by
        rw [← List.getLast?_append_of_ne_nil front filled, ← List.append_nil (front ++ statement),
          ← whole, List.getLast?_concat]
      exact absurd (closing _ feeds) (by decide)
  | append_singleton back last =>
      rw [← List.append_assoc] at whole
      obtain ⟨same, -⟩ := List.append_inj' whole rfl
      exact ⟨front, back, same, blank, fun c member => waste c (List.mem_append_left [last] member)⟩

/-- A group without a statement is waste. -/
theorem isWaste_of_statement? {stretch : List (List Char)} (unstated : statement? stretch = none) :
    IsWaste (sectionText stretch) := by
  have nothing : clean (joined stretch) = [] := by simpa [statement?] using unstated
  obtain ⟨front, back, whole, blank, waste⟩ := clean_isPiece (joined stretch)
  rw [nothing, List.append_nil] at whole
  intro c member
  have within := (sectionText_prefix_joined stretch).subset member
  rw [whole, List.mem_append] at within
  rcases within with inFront | inBack
  · exact .inl (blank c inFront)
  · exact waste c inBack

/-! ## Where the text of a script goes -/

/-- Texts and statements in one order: every text is left out, as waste, or is the source of the
next statement. -/
inductive Accounted : List (List Char) → List (List Char) → Prop where
  | done : Accounted [] []
  | leftOut {text texts statements} (waste : IsWaste text) (rest : Accounted texts statements) :
      Accounted (text :: texts) statements
  | stated {text texts statement statements} (piece : IsPiece statement text)
      (filled : statement ≠ []) (rest : Accounted texts statements) :
      Accounted (text :: texts) (statement :: statements)

/-- The statements of groups account for the text of each. -/
theorem accounted_statements (stretches : List (List (List Char))) :
    Accounted (stretches.map sectionText) (stretches.filterMap statement?) := by
  induction stretches with
  | nil => exact .done
  | cons stretch rest inductionHypothesis =>
      cases result : statement? stretch with
      | none =>
          rw [List.map_cons, List.filterMap_cons_none result]
          exact .leftOut (isWaste_of_statement? result) inductionHypothesis
      | some statement =>
          rw [List.map_cons, List.filterMap_cons_some result]
          exact .stated (isPiece_of_statement? result) (statement?_eq_some_iff.mp result).2
            inductionHypothesis

/-- The statements of a script are, in order, pieces of the texts of its sections, one of each but
of those that are waste: no text is lost, repeated or moved, and none of two sections is mixed. -/
theorem split_accounted (script : String) :
    Accounted ((sections script.toList).map sectionText) ((split script).map String.toList) := by
  have texts : (split script).map String.toList = statements script.toList := by
    simp [split]
  rw [texts, statements, groups_eq_sections]
  exact accounted_statements (sections script.toList)

end MemoStore.Script
