import MemoStore.Proofs.Script.Joining

/-!
# Tidy statements

What a script is split into: texts without blanks around them and without a line that is blank, a
comment or a breakpoint. The body lines of a group keep their role when the text of the group loses
blanks at its front and characters at its end, so `Tidy` holds of every statement.

`split_tidy` also says when the statements are read back. Two things can outlast the cleaning: a
terminator that blanks part from the terminators at the end of the text, and a carriage return at
the end of a line. A line feed takes one return before it away, so a line that ends in two keeps the
first; when the statement is split again, that one is taken for a part of the line end.
-/

namespace MemoStore.Script

open MemoStore.Text

variable {text part : List Char}

/-- A text that begins and ends visibly, all of whose lines belong to a statement. -/
structure Tidy (text : List Char) : Prop where
  filled : text ≠ []
  opening : ∀ c ∈ text.head?, isBlank c = false
  closing : ∀ c ∈ text.getLast?, isBlank c = false
  /-- no line is blank or looks like a comment -/
  body : ∀ line ∈ lines text, trim line ≠ [] ∧ ¬ "--".toList <+: trim line
  /-- no line separates two statements -/
  unmarked : ∀ line ∈ lines text, ¬ marker.toList <+: trim line

/-- A tidy text reads back if its end and its line ends are not taken for something else. -/
theorem Tidy.isStatement (tidy : Tidy text) (unterminated : text.getLast? ≠ some ';')
    (plainEnds : ¬ ['\r', '\n'] <:+: text) : IsStatement text where
  filled := tidy.filled
  opening := tidy.opening
  closing := tidy.closing
  unterminated := unterminated
  plainEnds := plainEnds
  body := tidy.body

/-! ## Lines that stay in a statement -/

/-- The text of a group has the lines of the group, each without the return before its feed. -/
theorem lines_joined {group : List (List Char)} (single : ∀ line ∈ group, '\n' ∉ line) :
    lines (joined group) = group.map dropReturn := by
  induction group with
  | nil => rfl
  | cons line rest inductionHypothesis =>
      obtain ⟨first, others⟩ := List.forall_mem_cons.mp single
      have split : joined (line :: rest) = line ++ '\n' :: joined rest := by simp [joined]
      rw [split, lines_ended first, inductionHypothesis others, List.map_cons]

/-- Blank characters at the front of a line do not change its role. -/
theorem role_dropWhile (line : List Char) :
    LineRole.of (line.dropWhile isBlank) = LineRole.of line := by
  unfold LineRole.of
  rw [trim_dropWhile]

/-- A part of a body line that ends in a visible character is a body line. -/
theorem role_prefix {line : List Char} (body : LineRole.of line = .body) (starts : part <+: line)
    (filled : part ≠ []) (closing : ∀ c ∈ part.getLast?, isBlank c = false) :
    LineRole.of part = .body := by
  obtain ⟨-, ordinary⟩ := role_eq_body_iff.mp body
  obtain ⟨left, begins⟩ := trim_prefix starts filled closing
  exact role_eq_body_iff.mpr ⟨left, fun comment => ordinary (comment.trans begins)⟩

/-- A text of body lines without the blanks at its front is a text of body lines. -/
theorem body_dropWhile (body : ∀ line ∈ lines text, LineRole.of line = .body) :
    ∀ line ∈ lines (text.dropWhile isBlank), LineRole.of line = .body := by
  induction text using lineInduction with
  | last whole single =>
      intro line member
      have one : '\n' ∉ whole.dropWhile isBlank := fun feed =>
        single (List.dropWhile_subset isBlank feed)
      obtain ⟨rfl, left⟩ := eq_of_mem_lines one member
      have filled : whole ≠ [] := by
        rintro rfl
        exact left rfl
      rw [role_dropWhile, body whole (mem_lines_self single filled)]
  | ended first rest single _ =>
      rw [lines_ended single, List.forall_mem_cons, role_dropReturn] at body
      obtain ⟨firstBody, others⟩ := body
      -- the first line is not blank, so the blanks before it are all that is dropped
      have visible : first.dropWhile isBlank ≠ [] := by
        intro nothing
        have blank := (role_eq_body_iff.mp firstBody).1
        rw [← trim_dropWhile, nothing] at blank
        exact blank rfl
      have one : '\n' ∉ first.dropWhile isBlank := fun feed =>
        single (List.dropWhile_subset isBlank feed)
      rw [List.dropWhile_append, if_neg (by simpa using visible), lines_ended one,
        List.forall_mem_cons, role_dropReturn, role_dropWhile]
      exact ⟨firstBody, others⟩

/-- A part of a body line is a body line too if it ends in a visible character. -/
theorem body_prefix_line {line : List Char} (single : '\n' ∉ line)
    (body : line ≠ [] → LineRole.of line = .body) (starts : part <+: line)
    (closing : ∀ c ∈ part.getLast?, isBlank c = false) :
    ∀ line ∈ lines part, LineRole.of line = .body := by
  intro other member
  obtain ⟨rfl, filled⟩ := eq_of_mem_lines (fun feed => single (starts.subset feed)) member
  have lineFilled : line ≠ [] := by
    rintro rfl
    exact filled (List.prefix_nil.mp starts)
  exact role_prefix (body lineFilled) starts filled closing

/-- A part at the front of a text of body lines is a text of body lines if it ends in a visible
character. -/
theorem body_prefix (body : ∀ line ∈ lines text, LineRole.of line = .body) (starts : part <+: text)
    (closing : ∀ c ∈ part.getLast?, isBlank c = false) :
    ∀ line ∈ lines part, LineRole.of line = .body := by
  induction text using lineInduction generalizing part with
  | last whole single =>
      exact body_prefix_line single (fun filled => body whole (mem_lines_self single filled)) starts
        closing
  | ended first rest single inductionHypothesis =>
      rw [lines_ended single, List.forall_mem_cons, role_dropReturn] at body
      obtain ⟨firstBody, others⟩ := body
      rcases prefix_append_cases starts with inside | ⟨c, later, rfl, beyond⟩
      · exact body_prefix_line single (fun _ => firstBody) inside closing
      · obtain ⟨rfl, laterStarts⟩ := List.cons_prefix_cons.mp beyond
        rw [lines_ended single, List.forall_mem_cons, role_dropReturn]
        refine ⟨firstBody, inductionHypothesis others laterStarts fun c last => closing c ?_⟩
        rw [List.getLast?_append, List.getLast?_cons, Option.mem_def.mp last]
        rfl

/-! ## What the cleaning leaves -/

/-- Cleaning takes characters off the end of a trimmed text. -/
theorem clean_prefix_trim (text : List Char) : clean text <+: trim text :=
  (dropTail_prefix_self _ _).trans (dropTail_prefix_self _ _)

/-- A group gives the statement that its lines joined and cleaned make, unless it is empty. -/
theorem statement?_eq_some_iff {group : List (List Char)} :
    statement? group = some text ↔ clean (joined group) = text ∧ text ≠ [] := by
  simp only [statement?, List.isEmpty_iff, Option.ite_none_left_eq_some, Option.some.injEq]
  constructor
  · rintro ⟨filled, rfl⟩
    exact ⟨rfl, filled⟩
  · rintro ⟨rfl, filled⟩
    exact ⟨filled, rfl⟩

/-- The statement of a group of body lines is tidy. -/
theorem tidy_of_statement? {group : List (List Char)} (single : ∀ line ∈ group, '\n' ∉ line)
    (body : ∀ line ∈ group, LineRole.of line = .body) (stated : statement? group = some text) :
    Tidy text := by
  obtain ⟨rfl, filled⟩ := statement?_eq_some_iff.mp stated
  have closing : ∀ c ∈ (clean (joined group)).getLast?, isBlank c = false :=
    fun _ => kept_of_dropTail
  have ofGroup : ∀ line ∈ lines (joined group), LineRole.of line = .body := by
    rw [lines_joined single, List.forall_mem_map]
    exact fun line member => (role_dropReturn line).trans (body line member)
  have left : ∀ line ∈ lines (clean (joined group)), LineRole.of line = .body :=
    body_prefix (body_dropWhile ofGroup)
      ((clean_prefix_trim (joined group)).trans (dropTail_prefix_self isBlank _)) closing
  exact {
    filled := filled
    opening := fun _ => visible_of_prefix_trim (clean_prefix_trim (joined group))
    closing := closing
    body := fun line member => role_eq_body_iff.mp (left line member)
    unmarked := fun line member marked =>
      (role_eq_body_iff.mp (left line member)).2 (comment_prefix_marker.trans marked) }

/-- A text at whose end blanks stand between terminators. -/
def Parted (text : List Char) : Prop :=
  ∃ before blanks terminators, trim text = before ++ ';' :: blanks ++ terminators ∧
    (blanks ≠ [] ∧ ∀ c ∈ blanks, isBlank c = true) ∧ terminators ≠ [] ∧ ∀ c ∈ terminators, c = ';'

/-- A terminator is left at the end of a text only if blanks part it from those that are dropped. -/
theorem clean_unterminated (whole : ¬ Parted text) : (clean text).getLast? ≠ some ';' := by
  intro ends
  obtain ⟨terminators, trimmed, dropped⟩ := exists_dropTail (· == ';') (trim text)
  obtain ⟨blanks, stripped, blank⟩ := exists_dropTail isBlank (dropTail (· == ';') (trim text))
  rw [← clean] at stripped
  have blanksFilled : blanks ≠ [] := by
    rintro rfl
    rw [List.append_nil] at stripped
    rw [← stripped] at ends
    exact absurd (kept_of_dropTail ends) (by decide)
  have terminatorsFilled : terminators ≠ [] := by
    rintro rfl
    have last : blanks.getLast blanksFilled ∈ (trim text).getLast? := by
      rw [trimmed, List.append_nil, stripped, List.getLast?_append,
        List.getLast?_eq_some_getLast blanksFilled]
      rfl
    have blankLast := blank _ (List.getLast_mem blanksFilled)
    rw [visible_of_trim last] at blankLast
    cases blankLast
  obtain ⟨before, left⟩ := List.getLast?_eq_some_iff.mp ends
  refine whole ⟨before, blanks, terminators, ?_, ⟨blanksFilled, blank⟩, terminatorsFilled,
    fun c member => by simpa using dropped c member⟩
  rw [trimmed, stripped, left]
  simp

/-! ## Reading tidy texts back -/

/-- A return directly before a feed belongs to the first line's feed or comes after it. -/
theorem return_feed_infix {line rest : List Char} (single : '\n' ∉ line)
    (within : ['\r', '\n'] <:+: line ++ '\n' :: rest) :
    line.getLast? = some '\r' ∨ ['\r', '\n'] <:+: rest := by
  obtain ⟨before, after, same⟩ := within
  rw [List.append_assoc] at same
  rcases List.append_eq_append_iff.mp same with ⟨more, rfl, right⟩ | ⟨more, rfl, right⟩
  · -- the return stands in the line
    cases more with
    | nil => cases right
    | cons c more =>
        cases more with
        | nil =>
            cases right
            exact .inl List.getLast?_concat
        | cons d more =>
            cases right
            simp at single
  · -- the return stands behind the feed
    cases more with
    | nil => cases right
    | cons c more =>
        cases right
        exact .inr ⟨more, after, by simp⟩

/-- The lines of a text are as long as the text with a line feed behind it, and shorter if a return
is lost. -/
theorem length_joined_lines (text : List Char) :
    (joined (lines text)).length ≤ text.length + 1 ∧
      (['\r', '\n'] <:+: text → (joined (lines text)).length ≤ text.length) := by
  induction text using lineInduction with
  | last line single =>
      refine ⟨?_, fun within => absurd (within.subset (by simp)) single⟩
      by_cases filled : line = []
      · subst filled
        simp [lines, joined]
      · simp [lines_eq_singleton single filled, joined]
  | ended line rest single inductionHypothesis =>
      obtain ⟨whole, shorter⟩ := inductionHypothesis
      have lineShorter : (dropReturn line).length ≤ line.length :=
        (dropReturn_prefix_self line).length_le
      have split : (joined (lines (line ++ '\n' :: rest))).length =
          (dropReturn line).length + 1 + (joined (lines rest)).length := by
        simp only [lines_ended single, joined, List.flatMap_cons, List.length_append,
          List.length_singleton]
      rw [split, List.length_append, List.length_cons]
      refine ⟨by omega, fun within => ?_⟩
      rcases return_feed_infix single within with returned | later
      · have lost : (dropReturn line).length = line.length - 1 := by
          rw [dropReturn, if_pos returned, List.length_dropLast]
        have filled : 0 < line.length := by
          cases line with
          | nil => cases returned
          | cons c line => exact Nat.succ_pos _
        omega
      · have := shorter later
        omega

/-- At least the line feed at its end is taken off a text. -/
theorem length_clean_feed (text : List Char) : (clean (text ++ ['\n'])).length ≤ text.length := by
  have feed : ∀ c ∈ ['\n'], isBlank c = true := List.forall_mem_singleton.mpr rfl
  calc (clean (text ++ ['\n'])).length
      ≤ (trim (text ++ ['\n'])).length := (clean_prefix_trim _).length_le
    _ = (trim text).length := by rw [trim_append feed]
    _ ≤ (text.dropWhile isBlank).length := (dropTail_prefix_self isBlank _).length_le
    _ ≤ text.length := (List.dropWhile_sublist isBlank).length_le

namespace Tidy

variable (tidy : Tidy text)

include tidy

/-- The lines of a tidy text are one group. -/
theorem statements_eq : statements text = [lines text].filterMap statement? := by
  rw [statements, groups_body fun line member => role_eq_body_iff.mpr (tidy.body line member)]

/-- A tidy text that does not end in a terminator is read back exactly if none of its line ends
holds a return. -/
theorem statements_eq_self_iff (unterminated : text.getLast? ≠ some ';') :
    statements text = [text] ↔ ¬ ['\r', '\n'] <:+: text := by
  constructor
  · intro same within
    have stated : statement? (lines text) = some text := by
      rw [tidy.statements_eq, List.filterMap_cons] at same
      split at same
      · cases same
      · cases same
        assumption
    obtain ⟨cleaned, filled⟩ := statement?_eq_some_iff.mp stated
    have shorter := (length_joined_lines text).2 within
    cases group : lines text using List.reverseRecOn with
    | nil =>
        rw [group] at cleaned
        exact filled cleaned.symm
    | append_singleton before line =>
        have feeds : joined (before ++ [line]) = (joined before ++ line) ++ ['\n'] := by
          simp [joined]
        have cut := length_clean_feed (joined before ++ line)
        rw [group, feeds] at cleaned shorter
        rw [cleaned] at cut
        rw [List.length_append, List.length_singleton] at shorter
        omega
  · intro plainEnds
    simpa using (tidy.isStatement unterminated plainEnds).statements_terminated 0

end Tidy

/-! ## Splitting again -/

variable {α : Type} {replace : α → List α} {all : List α}

/-- A list does not grow if each member is replaced with at most one. -/
theorem length_flatMap_le (single : ∀ a ∈ all, (replace a).length ≤ 1) :
    (all.flatMap replace).length ≤ all.length := by
  induction all with
  | nil => exact Nat.le_refl 0
  | cons first rest inductionHypothesis =>
      obtain ⟨one, few⟩ := List.forall_mem_cons.mp single
      have later := inductionHypothesis few
      rw [List.flatMap_cons, List.length_append, List.length_cons]
      omega

/-- A list whose members are replaced with at most one each stays the same exactly if each is
replaced with itself. -/
theorem flatMap_eq_self_iff (single : ∀ a ∈ all, (replace a).length ≤ 1) :
    all.flatMap replace = all ↔ ∀ a ∈ all, replace a = [a] := by
  induction all with
  | nil => simp
  | cons first rest inductionHypothesis =>
      obtain ⟨one, few⟩ := List.forall_mem_cons.mp single
      rw [List.forall_mem_cons, List.flatMap_cons]
      constructor
      · intro same
        cases replaced : replace first with
        | nil =>
            -- what follows would have to make up for the member that is gone
            have short := length_flatMap_le few
            rw [replaced, List.nil_append] at same
            rw [same, List.length_cons] at short
            omega
        | cons left more =>
            rw [replaced] at same one
            obtain rfl : more = [] := by simpa using one
            obtain ⟨rfl, later⟩ := List.cons_eq_cons.mp same
            exact ⟨rfl, (inductionHypothesis few).mp later⟩
      · rintro ⟨same, later⟩
        rw [same, (inductionHypothesis few).mpr later, List.singleton_append]

/-- Scripts that are joined with breakpoint lines are split into the statements of each. -/
theorem split_intercalate (scripts : List String) :
    split (separator.intercalate scripts) = scripts.flatMap split := by
  induction scripts with
  | nil => rfl
  | cons script rest inductionHypothesis =>
      cases rest with
      | nil => simp
      | cons next rest =>
          rw [String.intercalate_cons_cons, split_append_separator, inductionHypothesis]
          rfl

/-- A statement of a script is what is left of one of its groups. -/
theorem exists_group_of_mem_split {script text : String} (listed : text ∈ split script) :
    ∃ group ∈ groups (lines script.toList), statement? group = some text.toList := by
  obtain ⟨stated, member, rfl⟩ := List.mem_map.mp listed
  obtain ⟨group, named, left⟩ := List.mem_filterMap.mp member
  exact ⟨group, named, by rw [left, String.toList_ofList]⟩

/-- Every statement of a script is tidy. -/
theorem tidy_of_mem_split {script text : String} (listed : text ∈ split script) :
    Tidy text.toList := by
  obtain ⟨group, named, stated⟩ := exists_group_of_mem_split listed
  exact tidy_of_statement? (fun _ member => feed_not_mem (mem_of_mem_groups named member).1)
    (fun _ member => (mem_of_mem_groups named member).2) stated

/-- A tidy text is split into one statement or none. -/
theorem length_split_le_one {text : String} (tidy : Tidy text.toList) :
    (split text).length ≤ 1 := by
  rw [split, List.length_map, tidy.statements_eq]
  exact List.length_filterMap_le _ _

/-- A tidy text without a terminator at its end is split into itself exactly when no carriage return
stands in front of a line feed. -/
theorem split_eq_self_iff {text : String} (tidy : Tidy text.toList)
    (unterminated : text.toList.getLast? ≠ some ';') :
    split text = [text] ↔ ¬ ['\r', '\n'] <:+: text.toList := by
  rw [← tidy.statements_eq_self_iff unterminated, split]
  constructor
  · intro same
    obtain ⟨stated, alone, left⟩ := List.map_eq_singleton_iff.mp same
    rw [alone, ← left, String.toList_ofList]
  · intro same
    rw [same, List.map_singleton, String.ofList_toList]

/-- Every statement of a script is tidy, and it does not end in a terminator if no blanks part the
terminators at the end of its group. Statements that do not end in a terminator are split into
themselves when they are joined with breakpoint lines, exactly if no line end in them holds a
return. -/
theorem split_tidy (script : String) :
    (∀ text ∈ split script, Tidy text.toList ∧
      ∃ group ∈ groups (lines script.toList), statement? group = some text.toList ∧
        (¬ Parted (joined group) → text.toList.getLast? ≠ some ';')) ∧
    ((∀ text ∈ split script, text.toList.getLast? ≠ some ';') →
      (split (separator.intercalate (split script)) = split script ↔
        ∀ text ∈ split script, ¬ ['\r', '\n'] <:+: text.toList)) := by
  refine ⟨fun text listed => ⟨tidy_of_mem_split listed, ?_⟩, fun unterminated => ?_⟩
  · obtain ⟨group, named, stated⟩ := exists_group_of_mem_split listed
    refine ⟨group, named, stated, fun whole => ?_⟩
    rw [← (statement?_eq_some_iff.mp stated).1]
    exact clean_unterminated whole
  · rw [split_intercalate,
      flatMap_eq_self_iff fun text listed => length_split_le_one (tidy_of_mem_split listed)]
    exact forall₂_congr fun text listed =>
      split_eq_self_iff (tidy_of_mem_split listed) (unterminated text listed)

/-- A trigger is tidy, and with a table before it it is split into itself again. -/
theorem split_tidy_trigger :
    let script := "\tCREATE TABLE a;;\n--> statement-breakpoint\nCREATE TRIGGER t\r\n\n" ++
      "-- body\nBEGIN\n  UPDATE a;\nEND;\n"
    let statements := ["CREATE TABLE a", "CREATE TRIGGER t\nBEGIN\n  UPDATE a;\nEND"]
    split script = statements ∧ (∀ text ∈ statements, Tidy text.toList) ∧
      split (separator.intercalate statements) = statements := by
  intro script statements
  have whole : split script = statements := by decide +kernel
  have unterminated : ∀ text ∈ statements, text.toList.getLast? ≠ some ';' := by decide +kernel
  have plainEnds : ∀ text ∈ statements, ¬ ['\r', '\n'] <:+: text.toList := by decide +kernel
  have tidy := split_tidy script
  rw [whole] at tidy
  exact ⟨whole, fun text listed => (tidy.1 text listed).1, (tidy.2 unterminated).mpr plainEnds⟩

/-- A line that ends in two carriage returns keeps the first of them, and its statement loses it
when it is split again. -/
theorem split_tidy_return :
    split "a\r\r\nb" = ["a\r\nb"] ∧
      split (separator.intercalate (split "a\r\r\nb")) ≠ split "a\r\r\nb" := by
  decide +kernel

/-- Blanks keep a terminator from being taken off with those behind them. -/
theorem split_tidy_parted :
    split "a; ;" = ["a;"] ∧ groups (lines "a; ;".toList) = [["a; ;".toList]] ∧
      Parted (joined ["a; ;".toList]) := by
  refine ⟨by decide +kernel, by decide +kernel, ['a'], [' '], [';'], by decide +kernel, ?_⟩
  simp [isBlank]

end MemoStore.Script
