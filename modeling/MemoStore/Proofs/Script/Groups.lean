import MemoStore.Proofs.Text.Lines
import MemoStore.Proofs.Text.Trimming
import MemoStore.Script

/-!
# Lines in groups

How the groups of body lines follow from those of two parts of a script: the group that is open
at the end of the first part goes on in the second. A breakpoint between the two keeps their
groups apart.
-/

namespace MemoStore.Script

open MemoStore.Text

variable {line : List Char} {before after : List (List Char)}

/-! ## The role of a line -/

/-- The marker looks like a comment. -/
theorem comment_prefix_marker : "--".toList <+: marker.toList := by
  simp only [marker, String.reduceToList]
  decide

/-- The marker is not empty. -/
theorem marker_filled : marker.toList ≠ [] := by
  simp only [marker, String.reduceToList]
  exact List.cons_ne_nil _ _

/-- A line separates two statements exactly if it begins with the marker, blanks aside. -/
theorem role_eq_breakpoint_iff :
    LineRole.of line = .breakpoint ↔ marker.toList <+: trim line := by
  unfold LineRole.of
  simp only [Bool.or_eq_true, List.isPrefixOf_iff_prefix, List.isEmpty_iff]
  constructor
  · intro separates
    split at separates
    · assumption
    · split at separates <;> cases separates
  · intro marked
    rw [if_pos marked]

/-- A line belongs to a statement unless it is blank or looks like a comment. -/
theorem role_eq_body_iff :
    LineRole.of line = .body ↔ trim line ≠ [] ∧ ¬ "--".toList <+: trim line := by
  unfold LineRole.of
  simp only [Bool.or_eq_true, List.isPrefixOf_iff_prefix, List.isEmpty_iff]
  constructor
  · intro body
    split at body
    · cases body
    · split at body
      · cases body
      · rename_i visible
        exact ⟨fun blank => visible (.inr blank), fun comment => visible (.inl comment)⟩
  · rintro ⟨filled, ordinary⟩
    rw [if_neg fun marked => ordinary (comment_prefix_marker.trans marked), if_neg]
    exact not_or.mpr ⟨ordinary, filled⟩

/-- Blank characters at the end of a line do not change its role. -/
theorem role_append {tail : List Char} (blank : ∀ c ∈ tail, isBlank c = true) :
    LineRole.of (line ++ tail) = LineRole.of line := by
  unfold LineRole.of
  rw [trim_append blank]

/-- A carriage return at the end of a line does not change its role. -/
theorem role_dropReturn (line : List Char) : LineRole.of (dropReturn line) = LineRole.of line := by
  have blank : ∀ c ∈ ['\r'], isBlank c = true := List.forall_mem_singleton.mpr rfl
  rcases eq_dropReturn_or line with same | returned
  · rw [← same]
  · conv => rhs; rw [returned, role_append blank]

/-- A line of only the marker is a breakpoint. -/
theorem role_marker : LineRole.of marker.toList = .breakpoint := by
  simp only [LineRole.of, marker, String.reduceToList]
  decide

/-- What is in a group are body lines of the script. -/
theorem mem_of_mem_groups {all group : List (List Char)} (listed : group ∈ groups all)
    (member : line ∈ group) : line ∈ all ∧ LineRole.of line = .body := by
  induction all generalizing group with
  | nil =>
      rw [List.mem_singleton.mp listed] at member
      cases member
  | cons first rest inductionHypothesis =>
      have later {group : List (List Char)} (listed : group ∈ groups rest)
          (member : line ∈ group) : line ∈ first :: rest ∧ LineRole.of line = .body :=
        (inductionHypothesis listed member).imp_left (List.mem_cons_of_mem first)
      unfold groups at listed
      split at listed
      · rcases List.mem_cons.mp listed with rfl | listed
        · cases member
        · exact later listed member
      · exact later listed member
      · rename_i role
        split at listed
        · rw [List.mem_singleton.mp listed, List.mem_singleton] at member
          exact ⟨member ▸ List.mem_cons_self, member ▸ role⟩
        · rename_i group others same
          rcases List.mem_cons.mp listed with rfl | listed
          · rcases List.mem_cons.mp member with rfl | member
            · exact ⟨List.mem_cons_self, role⟩
            · exact later (same ▸ List.mem_cons_self) member
          · exact later (same ▸ List.mem_cons_of_mem group listed) member

/-! ## Groups of two parts -/

/-- The last group of a part goes on with the first group of what follows. -/
theorem groups_append (before : List (List Char)) :
    ∃ earlier last, groups before = earlier ++ [last] ∧
      ∀ after first later, groups after = first :: later →
        groups (before ++ after) = earlier ++ (last ++ first) :: later := by
  induction before with
  | nil => exact ⟨[], [], rfl, fun _ _ _ right => right⟩
  | cons line rest inductionHypothesis =>
      obtain ⟨earlier, last, left, joined⟩ := inductionHypothesis
      cases role : LineRole.of line with
      | breakpoint =>
          refine ⟨[] :: earlier, last, by simp [groups, role, left], ?_⟩
          intro after first later right
          simp [groups, role, joined after first later right]
      | skipped =>
          refine ⟨earlier, last, by simp [groups, role, left], ?_⟩
          intro after first later right
          simp [groups, role, joined after first later right]
      | body =>
          cases earlier with
          | nil =>
              refine ⟨[], line :: last, by simp [groups, role, left], ?_⟩
              intro after first later right
              simp [groups, role, joined after first later right]
          | cons group others =>
              refine ⟨(line :: group) :: others, last, by simp [groups, role, left], ?_⟩
              intro after first later right
              simp [groups, role, joined after first later right]

/-- A breakpoint keeps the groups of two parts apart. -/
theorem groups_breakpoint (separates : LineRole.of line = .breakpoint) :
    groups (before ++ line :: after) = groups before ++ groups after := by
  obtain ⟨earlier, last, left, joined⟩ := groups_append before
  have right : groups (line :: after) = [] :: groups after := by rw [groups, separates]
  rw [joined _ _ _ right, left, List.append_nil, List.append_assoc]
  rfl

/-- A skipped line belongs to no group. -/
theorem groups_skipped (skipped : LineRole.of line = .skipped) :
    groups (before ++ line :: after) = groups (before ++ after) := by
  induction before with
  | nil => rw [List.nil_append, groups, skipped, List.nil_append]
  | cons first rest inductionHypothesis =>
      rw [List.cons_append, groups, inductionHypothesis, List.cons_append, groups]

/-- Lines that all belong to statements are one group. -/
theorem groups_body {lines : List (List Char)} (body : ∀ line ∈ lines, LineRole.of line = .body) :
    groups lines = [lines] := by
  induction lines with
  | nil => rfl
  | cons line rest inductionHypothesis =>
      obtain ⟨first, others⟩ := List.forall_mem_cons.mp body
      rw [groups, first, inductionHypothesis others]

end MemoStore.Script
