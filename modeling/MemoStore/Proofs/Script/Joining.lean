import MemoStore.Proofs.Script.Groups
import MemoStore.Proofs.Text.Search

/-!
# Joining statements

A breakpoint line between two scripts keeps their statements apart, whatever the scripts are, so
statements that are written with breakpoint lines between them are read back: `split_joined`.
The only thing a script can lose at its end is a carriage return, and that is blank.
-/

namespace MemoStore.Script

open MemoStore.Text

variable {text : List Char}

/-! ## Statements of lines -/

/-- The text of a group reads the same with more blank characters behind its last line. -/
theorem statement?_append_blank {group : List (List Char)} {line tail : List Char}
    (blank : ∀ c ∈ tail, isBlank c = true) :
    statement? (group ++ [line ++ tail]) = statement? (group ++ [line]) := by
  have feed : ∀ c ∈ ['\n'], isBlank c = true := List.forall_mem_singleton.mpr rfl
  have same : trim (joined (group ++ [line ++ tail])) = trim (joined (group ++ [line])) := by
    have tailed : ∀ c ∈ tail ++ ['\n'], isBlank c = true :=
      List.forall_mem_append.mpr ⟨blank, feed⟩
    calc trim (joined (group ++ [line ++ tail]))
        = trim (joined group ++ line ++ (tail ++ ['\n'])) := by simp [joined]
      _ = trim (joined group ++ line ++ ['\n']) := by rw [trim_append tailed, trim_append feed]
      _ = trim (joined (group ++ [line])) := by simp [joined]
  unfold statement? clean
  rw [same]

/-- The statements of lines are the same with more blank characters behind the last line. -/
theorem statements_append_blank {before : List (List Char)} {line tail : List Char}
    (blank : ∀ c ∈ tail, isBlank c = true) :
    (groups (before ++ [line ++ tail])).filterMap statement? =
      (groups (before ++ [line])).filterMap statement? := by
  obtain ⟨earlier, last, -, joins⟩ := groups_append before
  cases role : LineRole.of line with
  | breakpoint =>
      rw [groups_breakpoint role, groups_breakpoint ((role_append blank).trans role)]
  | skipped =>
      rw [groups_skipped role, groups_skipped ((role_append blank).trans role)]
  | body =>
      have alone : groups [line] = [[line]] := groups_body (by simpa using role)
      have longer : groups [line ++ tail] = [[line ++ tail]] :=
        groups_body (by simpa using (role_append blank).trans role)
      rw [joins _ _ _ alone, joins _ _ _ longer, List.filterMap_append, List.filterMap_append,
        List.filterMap_cons, List.filterMap_cons, statement?_append_blank blank]

/-- A line feed behind a script changes none of its statements. -/
theorem statements_feed (text : List Char) : statements (text ++ ['\n']) = statements text := by
  obtain ⟨before, last, fed, unfed⟩ := lines_feed text
  unfold statements
  rw [fed]
  rcases unfed with ⟨same, rfl⟩ | same | same
  · have empty : LineRole.of [] = .skipped := by decide
    rw [groups_skipped empty, same, List.append_nil]
  · rw [same]
  · rw [same, statements_append_blank (List.forall_mem_singleton.mpr rfl)]

/-- Two scripts with a line between them that begins with the marker have the statements of
both. -/
theorem statements_breakpoint_line {line : List Char} (single : '\n' ∉ line)
    (separates : LineRole.of line = .breakpoint) (before after : List Char) :
    statements (before ++ '\n' :: (line ++ '\n' :: after)) =
      statements before ++ statements after := by
  have role : LineRole.of (dropReturn line) = .breakpoint := (role_dropReturn line).trans separates
  calc statements (before ++ '\n' :: (line ++ '\n' :: after))
      = (groups (lines (before ++ ['\n']) ++ dropReturn line :: lines after)).filterMap
          statement? := by
        rw [statements, lines_append_feed, lines_ended single]
    _ = statements (before ++ ['\n']) ++ statements after := by
        rw [groups_breakpoint role, List.filterMap_append, statements, statements]
    _ = statements before ++ statements after := by rw [statements_feed]

/-- The marker is a line. -/
theorem feed_not_mem_marker : '\n' ∉ marker.toList := by
  simp only [marker, String.reduceToList]
  decide

/-- Two scripts with a breakpoint line between them have the statements of both. -/
theorem statements_breakpoint (before after : List Char) :
    statements (before ++ '\n' :: (marker.toList ++ '\n' :: after)) =
      statements before ++ statements after :=
  statements_breakpoint_line feed_not_mem_marker role_marker before after

/-! ## A statement by itself -/

/-- A text that reads back as the one statement that it is. -/
structure IsStatement (text : List Char) : Prop where
  filled : text ≠ []
  opening : ∀ c ∈ text.head?, isBlank c = false
  closing : ∀ c ∈ text.getLast?, isBlank c = false
  /-- its end is not taken for a terminator -/
  unterminated : text.getLast? ≠ some ';'
  /-- no line end holds more than a line feed -/
  plainEnds : ¬ ['\r', '\n'] <:+: text
  /-- no line is blank or looks like a comment -/
  body : ∀ line ∈ lines text, trim line ≠ [] ∧ ¬ "--".toList <+: trim line

/-- The ends of a text are looked at one by one. -/
theorem IsStatement.of_ends {text : List Char} (first last : Char) (opens : text.head? = some first)
    (closes : text.getLast? = some last)
    (visible : isBlank first = false ∧ isBlank last = false ∧ last ≠ ';')
    (plainEnds : ¬ ['\r', '\n'] <:+: text)
    (body : ∀ line ∈ lines text, trim line ≠ [] ∧ ¬ "--".toList <+: trim line) :
    IsStatement text where
  filled := by
    rintro rfl
    cases opens
  opening c member := by
    cases opens.symm.trans member
    exact visible.1
  closing c member := by
    cases closes.symm.trans member
    exact visible.2.1
  unterminated same := visible.2.2 (Option.some.inj (closes.symm.trans same))
  plainEnds := plainEnds
  body := body

/-- A text whose line ends are plain is made of its lines. -/
theorem joined_lines (filled : text ≠ []) (closing : text.getLast? ≠ some '\n')
    (plainEnds : ¬ ['\r', '\n'] <:+: text) : joined (lines text) = text ++ ['\n'] := by
  induction text using lineInduction with
  | last line single => rw [lines_eq_singleton single filled]; simp [joined]
  | ended line rest single inductionHypothesis =>
      obtain ⟨restFilled, restClosing⟩ := unended closing
      have restEnds : ¬ ['\r', '\n'] <:+: rest := fun within =>
        plainEnds (within.trans ((List.suffix_cons _ _).isInfix.trans
          (List.suffix_append _ _).isInfix))
      have kept : dropReturn line = line := by
        rcases eq_dropReturn_or line with same | returned
        · exact same.symm
        · refine absurd ⟨dropReturn line, rest, ?_⟩ plainEnds
          conv => rhs; rw [returned]
          simp
      have later := inductionHypothesis restFilled restClosing restEnds
      rw [lines_ended single, kept]
      simpa [joined] using later

/-- Terminators are not blank. -/
theorem closing_terminated (closing : ∀ c ∈ text.getLast?, isBlank c = false) (count : Nat) :
    ∀ c ∈ (text ++ List.replicate count ';').getLast?, isBlank c = false := by
  cases count with
  | zero => simpa using closing
  | succ count =>
      rw [List.replicate_succ', ← List.append_assoc, List.getLast?_concat]
      rintro c ⟨⟩
      decide

/-- A visible line stays visible with terminators behind it. -/
theorem role_terminated {line : List Char} (count : Nat)
    (body : trim line ≠ [] ∧ ¬ "--".toList <+: trim line)
    (closing : ∀ c ∈ line.getLast?, isBlank c = false) :
    LineRole.of (line ++ List.replicate count ';') = .body := by
  rw [role_eq_body_iff, trim_eq_dropWhile (closing_terminated closing count), List.dropWhile_append]
  rw [trim_eq_dropWhile closing] at body
  obtain ⟨filled, ordinary⟩ := body
  rw [if_neg (by simpa using filled)]
  refine ⟨by simp [filled], fun comment => ordinary ?_⟩
  cases count with
  | zero => simpa using comment
  | succ count => exact prefix_of_prefix_append_cons (by decide) comment

namespace IsStatement

variable (statement : IsStatement text) (count : Nat)

include statement

/-- A statement does not end in a line feed. -/
theorem feedless : text.getLast? ≠ some '\n' := by
  intro feeds
  have visible := statement.closing _ feeds
  exact absurd visible (by decide)

/-- The lines of a statement with terminators are all part of it. -/
theorem body_terminated :
    ∀ line ∈ lines (text ++ List.replicate count ';'), LineRole.of line = .body := by
  have single : '\n' ∉ List.replicate count ';' := by simp [List.mem_replicate]
  obtain ⟨before, last, lone, longer⟩ := lines_append statement.filled statement.feedless single
  have lastBody := statement.body last (by simp [lone])
  have lastFilled : last ≠ [] := by
    rintro rfl
    exact lastBody.1 rfl
  have split : text = joined before ++ last := by
    have whole := joined_lines statement.filled statement.feedless statement.plainEnds
    rw [lone] at whole
    simpa [joined, ← List.append_assoc] using whole.symm
  have lastClosing : ∀ c ∈ last.getLast?, isBlank c = false := by
    intro c ends
    refine statement.closing c ?_
    rw [split, List.getLast?_append, Option.mem_def.mp ends, Option.some_or]
    rfl
  rw [longer]
  intro line member
  rcases List.mem_append.mp member with earlier | isLast
  · exact role_eq_body_iff.mpr (statement.body line (by simp [lone, earlier]))
  · rw [List.mem_singleton.mp isLast]
    exact role_terminated count lastBody lastClosing

/-- Nothing is taken off a statement but its terminators and the line feed behind them. -/
theorem clean_terminated : clean (text ++ List.replicate count ';' ++ ['\n']) = text := by
  have opening : ∀ c ∈ (text ++ List.replicate count ';').head?, isBlank c = false := by
    intro c first
    rw [List.head?_append_of_ne_nil _ statement.filled] at first
    exact statement.opening c first
  have terminators : ∀ c ∈ List.replicate count ';', (c == ';') = true := by
    simp [List.mem_replicate]
  have unterminated : ∀ c ∈ text.getLast?, (c == ';') = false := by
    intro c last
    rw [beq_eq_false_iff_ne]
    rintro rfl
    exact statement.unterminated last
  rw [clean, trim_append (List.forall_mem_singleton.mpr rfl),
    trim_eq_self opening (closing_terminated statement.closing count),
    dropTail_append terminators, dropTail_eq_self unterminated, dropTail_eq_self statement.closing]

/-- A statement with terminators is the only one of its text. -/
theorem statements_terminated : statements (text ++ List.replicate count ';') = [text] := by
  have filled : text ++ List.replicate count ';' ≠ [] := by simp [statement.filled]
  have feedless : (text ++ List.replicate count ';').getLast? ≠ some '\n' := by
    intro feeds
    exact absurd (closing_terminated statement.closing count _ feeds) (by decide)
  have plainEnds : ¬ ['\r', '\n'] <:+: text ++ List.replicate count ';' := by
    intro within
    have terminators : ∀ c ∈ List.replicate count ';', (c == ';') = true := by
      simp [List.mem_replicate]
    rw [← List.singleton_append] at within
    exact statement.plainEnds (infix_of_infix_append (by decide) terminators within)
  rw [statements, groups_body (statement.body_terminated count), List.filterMap_cons, statement?,
    joined_lines filled feedless plainEnds, statement.clean_terminated]
  simp [statement.filled]

end IsStatement

/-! ## Statements in a script -/

/-- What stands between two statements: a breakpoint on a line of its own. -/
def separator : String :=
  "\n" ++ marker ++ "\n"

/-- Terminators behind a statement. -/
def terminators (count : Nat) : String :=
  String.ofList (List.replicate count ';')

/-- A separator keeps the statements of two scripts apart. -/
theorem split_append_separator (before after : String) :
    split (before ++ separator ++ after) = split before ++ split after := by
  have whole : (before ++ separator ++ after).toList =
      before.toList ++ '\n' :: (marker.toList ++ '\n' :: after.toList) := by
    simp [separator]
  simp only [split, whole, statements_breakpoint, List.map_append]

/-- A statement with terminators is read as that statement. -/
theorem split_terminated {statement : String} (whole : IsStatement statement.toList)
    (count : Nat) : split (statement ++ terminators count) = [statement] := by
  have text : (statement ++ terminators count).toList =
      statement.toList ++ List.replicate count ';' := by
    simp [terminators]
  simp only [split, text, whole.statements_terminated, List.map_cons, List.map_nil,
    String.ofList_toList]

/-- Statements that are joined with breakpoint lines are split into what they were: two scripts
into the statements of both, and a list of statements, each with any number of terminators behind
it, into that list. -/
theorem split_joined :
    (∀ before after, split (before ++ separator ++ after) = split before ++ split after) ∧
      ∀ entries : List (String × Nat), (∀ entry ∈ entries, IsStatement entry.1.toList) →
        split (separator.intercalate
          (entries.map fun (statement, count) => statement ++ terminators count)) =
            entries.map Prod.fst := by
  refine ⟨split_append_separator, fun entries whole => ?_⟩
  induction entries with
  | nil => rfl
  | cons entry rest inductionHypothesis =>
      obtain ⟨first, others⟩ := List.forall_mem_cons.mp whole
      have later := inductionHypothesis others
      cases rest with
      | nil => simpa using split_terminated first entry.2
      | cons next rest =>
          simp only [List.map_cons, String.intercalate_cons_cons] at later ⊢
          rw [split_append_separator, split_terminated first, later, List.singleton_append]

/-- A trigger body keeps its lines and its inner terminators. -/
theorem split_joined_trigger :
    let trigger := "CREATE TRIGGER t\nBEGIN\n  UPDATE a;\nEND"
    IsStatement trigger.toList ∧
      split ("CREATE TABLE a" ++ terminators 0 ++ separator ++ (trigger ++ terminators 2)) =
        ["CREATE TABLE a", trigger] := by
  intro trigger
  have table : IsStatement "CREATE TABLE a".toList :=
    .of_ends 'C' 'a' (by decide +kernel) (by decide +kernel) (by decide) (by decide +kernel)
      (by decide +kernel)
  have whole : IsStatement trigger.toList :=
    .of_ends 'C' 'D' (by decide +kernel) (by decide +kernel) (by decide) (by decide +kernel)
      (by decide +kernel)
  refine ⟨whole, ?_⟩
  have entries : ∀ entry ∈ [("CREATE TABLE a", 0), (trigger, 2)],
      IsStatement entry.1.toList := by
    simp only [List.forall_mem_cons]
    exact ⟨table, whole, by simp⟩
  have joined := split_joined.2 _ entries
  simp only [List.map_cons, List.map_nil, String.intercalate_cons_cons,
    String.intercalate_singleton] at joined
  exact joined

end MemoStore.Script
