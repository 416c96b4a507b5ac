import MemoStore.Proofs.Script.Sections

/-!
# The layout of a script

Two things about the layout of a script do not matter for its statements: how its lines end, and
how many blank lines and comments stand between them (`split_layout`). The reason is that a script
is read line by line, that a carriage return goes with its line feed, and that a line which is
skipped leaves no trace in the groups, wherever it stands.
-/

namespace MemoStore.Script

open MemoStore.Text

variable {line : List Char} {before skipped after : List (List Char)}

/-- A line that is blank or a comment. -/
def IsFiller (line : List Char) : Prop :=
  trim line = [] ∨ IsComment line

instance : DecidablePred IsFiller := fun line =>
  inferInstanceAs (Decidable (trim line = [] ∨ IsComment line))

/-- The marker is not blank. -/
theorem not_isBreakpoint_of_blank (blank : trim line = []) : ¬ IsBreakpoint line := by
  rw [IsBreakpoint, blank, List.prefix_nil]
  exact marker_filled

/-- A line is skipped exactly if it is a filler. -/
theorem role_eq_skipped_iff : LineRole.of line = .skipped ↔ IsFiller line := by
  have separates : LineRole.of line = .breakpoint ↔ IsBreakpoint line := role_eq_breakpoint_iff
  have counts : LineRole.of line = .body ↔ trim line ≠ [] ∧ ¬ "--".toList <+: trim line :=
    role_eq_body_iff
  constructor
  · intro role
    have unmarked : ¬ IsBreakpoint line := fun marked => by
      simp [separates.mpr marked] at role
    by_cases blank : trim line = []
    · exact .inl blank
    · refine .inr ⟨?_, unmarked⟩
      by_contra ordinary
      simp [counts.mpr ⟨blank, ordinary⟩] at role
  · intro filler
    have unmarked : ¬ IsBreakpoint line := by
      rcases filler with blank | ⟨-, unmarked⟩
      · exact not_isBreakpoint_of_blank blank
      · exact unmarked
    cases role : LineRole.of line with
    | breakpoint => exact absurd (separates.mp role) unmarked
    | skipped => rfl
    | body =>
        obtain ⟨filled, ordinary⟩ := counts.mp role
        rcases filler with blank | ⟨comment, -⟩
        · exact absurd blank filled
        · exact absurd comment ordinary

/-- Lines that are skipped change no group, wherever they stand. -/
theorem groups_fillers (fillers : ∀ line ∈ skipped, IsFiller line) :
    groups (before ++ (skipped ++ after)) = groups (before ++ after) := by
  induction skipped with
  | nil => rw [List.nil_append]
  | cons line rest inductionHypothesis =>
      obtain ⟨first, others⟩ := List.forall_mem_cons.mp fillers
      rw [List.cons_append, groups_skipped (role_eq_skipped_iff.mpr first),
        inductionHypothesis others]

/-- A script with a carriage return before each line feed. -/
def withReturns (script : String) : String :=
  String.ofList (addReturns script.toList)

/-- The statements of a script depend neither on how its lines end nor on the fillers between
them: a script without carriage returns may get one before each line feed, and fillers may stand
before any line of a script or behind its last one, the last filler without a line end if nothing
follows. -/
theorem split_layout :
    (∀ script : String, '\r' ∉ script.toList → split (withReturns script) = split script) ∧
      ∀ before fillers after : String, Ended before.toList →
        (∀ line ∈ lines fillers.toList, IsFiller line) →
        (Ended fillers.toList ∨ after = "") →
          split (before ++ fillers ++ after) = split (before ++ after) := by
  constructor
  · intro script plain
    simp only [split, statements, withReturns, String.toList_ofList, lines_addReturns plain]
  · intro before fillers after ended skipped closed
    have rest : lines (fillers.toList ++ after.toList) =
        lines fillers.toList ++ lines after.toList := by
      rcases closed with ended | rfl
      · exact lines_append_of_ended ended after.toList
      · simp [lines]
    have whole : lines (before ++ fillers ++ after).toList =
        lines before.toList ++ (lines fillers.toList ++ lines after.toList) := by
      rw [String.toList_append, String.toList_append, List.append_assoc,
        lines_append_of_ended ended, rest]
    have without : lines (before ++ after).toList = lines before.toList ++ lines after.toList := by
      rw [String.toList_append, lines_append_of_ended ended]
    simp only [split, statements, whole, without, groups_fillers skipped]

/-- A trigger with carriage returns at its line ends, and with a comment and blank lines in its
body. -/
theorem split_layout_trigger :
    let head := "CREATE TRIGGER t\nBEGIN\n"
    let fillers := "\n  -- why;\n\t\r\n"
    let tail := "  UPDATE a;\nEND;\n--> statement-breakpoint\nCREATE TABLE b;"
    '\r' ∉ (head ++ tail).toList ∧ split (withReturns (head ++ tail)) = split (head ++ tail) ∧
      Ended head.toList ∧ (∀ line ∈ lines fillers.toList, IsFiller line) ∧ Ended fillers.toList ∧
      split (head ++ fillers ++ tail) = split (head ++ tail) := by
  intro head fillers tail
  have plain : '\r' ∉ (head ++ tail).toList := by decide +kernel
  have ended : Ended head.toList := by decide +kernel
  have skipped : ∀ line ∈ lines fillers.toList, IsFiller line := by decide +kernel
  have closed : Ended fillers.toList := by decide +kernel
  exact ⟨plain, split_layout.1 _ plain, ended, skipped, closed,
    split_layout.2 head fillers tail ended skipped (.inl closed)⟩

end MemoStore.Script
