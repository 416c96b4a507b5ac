import MemoStore.Proofs.Script.Sections

/-!
# Where a marker separates

A marker separates two statements where it is the first thing on its line, whatever follows it
there. Behind other text on a line it is text itself: written directly behind the terminator of a
statement, it does not end that statement, which goes on with the first section of what follows.
`split_placed` says both, and that the second happens at every line that is text.
-/

namespace MemoStore.Script

open MemoStore.Text

variable {line front tail part : List Char}

/-- The marker ends visibly, and not in a terminator. -/
theorem marker_closing (front : List Char) :
    ∀ c ∈ (front ++ marker.toList).getLast?, isBlank c = false ∧ c ≠ ';' := by
  have closes : marker.toList.getLast? = some 't' := by
    simp only [marker, String.reduceToList]
    rfl
  intro c ends
  rw [List.getLast?_append, closes] at ends
  obtain rfl : 't' = c := Option.some.inj ends
  decide

/-! ## Markers at the start of a line -/

/-- A line that begins with the marker is a breakpoint, with blanks before the marker and with any
text behind it. -/
theorem isBreakpoint_placed {blanks : List Char} (blank : ∀ c ∈ blanks, isBlank c = true)
    (rest : List Char) : IsBreakpoint (blanks ++ marker.toList ++ rest) := by
  have kept : trim marker.toList = marker.toList := by
    simp only [marker, String.reduceToList]
    decide
  obtain ⟨-, starts⟩ := trim_prefix (List.prefix_append marker.toList rest) marker_filled
    fun c ends => (marker_closing [] c ends).1
  rw [kept] at starts
  rwa [IsBreakpoint, trim, List.append_assoc, List.dropWhile_append_of_pos blank]

/-! ## Markers behind text -/

/-- What cleaning does at the end of a text. -/
def cleanEnd (text : List Char) : List Char :=
  dropTail isBlank (dropTail (· == ';') (dropTail isBlank text))

/-- Cleaning takes the blanks off the front and then cleans the end. -/
theorem clean_eq_cleanEnd (text : List Char) : clean text = cleanEnd (text.dropWhile isBlank) :=
  rfl

/-- Cleaning at the end stops at a text whose last character is kept. -/
theorem cleanEnd_append (closing : ∀ c ∈ front.getLast?, isBlank c = false ∧ c ≠ ';') :
    cleanEnd (front ++ tail) = front ++ cleanEnd tail := by
  have visible : ∀ c ∈ front.getLast?, isBlank c = false := fun c ends => (closing c ends).1
  have unterminated : ∀ c ∈ front.getLast?, (c == ';') = false := fun c ends =>
    beq_false_of_ne (closing c ends).2
  rw [cleanEnd, dropTail_append_of_kept visible, dropTail_append_of_kept unterminated,
    dropTail_append_of_kept visible, cleanEnd]

/-- The cleaned end of a text ends in the cleaned ends of its parts at the end. -/
theorem cleanEnd_suffix (ends : part <:+ tail) : cleanEnd part <:+ cleanEnd tail :=
  dropTail_suffix (dropTail_suffix (dropTail_suffix ends))

/-- The statement of a group in which a line has the marker behind a terminator: it holds both, it
begins with what the group up to there says, and ends with what the group behind says. -/
theorem statement?_marked (ends : line.getLast? = some ';') (before after : List (List Char)) :
    ∃ own rest, statement? (before ++ (line ++ marker.toList) :: after) =
        some (own ++ ';' :: (marker.toList ++ rest)) ∧
      (∀ text, statement? (before ++ [line]) = some text → text <+: own ++ [';']) ∧
      ∀ text, statement? after = some text → text <:+ rest := by
  obtain ⟨words, rfl⟩ := List.getLast?_eq_some_iff.mp ends
  have visible : isBlank ';' = false := by decide
  have cut (tail : List Char) : clean (joined before ++ words ++ ';' :: tail) =
      cleanEnd ((joined before ++ words).dropWhile isBlank ++ ';' :: tail) := by
    rw [clean_eq_cleanEnd, dropWhile_append_cons visible]
  refine ⟨(joined before ++ words).dropWhile isBlank, cleanEnd ('\n' :: joined after), ?_, ?_, ?_⟩
  · have whole : joined (before ++ (words ++ [';'] ++ marker.toList) :: after) =
        joined before ++ words ++ ';' :: (marker.toList ++ '\n' :: joined after) := by
      simp [joined]
    rw [statement?_eq_some_iff, whole, cut]
    refine ⟨?_, by simp⟩
    have kept := marker_closing ((joined before ++ words).dropWhile isBlank ++ [';'])
    have marked : cleanEnd (_ ++ '\n' :: joined after) = _ := cleanEnd_append kept
    simpa using marked
  · intro text stated
    obtain ⟨rfl, -⟩ := statement?_eq_some_iff.mp stated
    have whole : joined (before ++ [words ++ [';']]) = joined before ++ words ++ ';' :: ['\n'] := by
      simp [joined]
    have feed : ∀ c ∈ ['\n'], isBlank c = true := List.forall_mem_singleton.mpr rfl
    rw [whole, cut, cleanEnd, ← List.singleton_append, ← List.append_assoc, dropTail_append feed]
    exact (dropTail_prefix_self _ _).trans
      ((dropTail_prefix_self _ _).trans (dropTail_prefix_self _ _))
  · intro text stated
    obtain ⟨rfl, -⟩ := statement?_eq_some_iff.mp stated
    rw [clean_eq_cleanEnd]
    exact cleanEnd_suffix ((List.dropWhile_suffix isBlank).trans (List.suffix_cons '\n' _))

/-- A text line with the marker behind its terminator is a text line, and a breakpoint is one. -/
theorem role_marked (ends : line.getLast? = some ';') :
    (IsText line → LineRole.of (line ++ marker.toList) = .body) ∧
      (IsBreakpoint line → LineRole.of (line ++ marker.toList) = .breakpoint) := by
  obtain ⟨words, rfl⟩ := List.getLast?_eq_some_iff.mp ends
  have visible : isBlank ';' = false := by decide
  have closing : ∀ c ∈ (words ++ [';']).getLast?, isBlank c = false := by
    rw [List.getLast?_concat]
    rintro c ⟨⟩
    exact visible
  have lone : trim (words ++ [';']) = words.dropWhile isBlank ++ [';'] := by
    rw [trim_eq_dropWhile closing, dropWhile_append_cons visible]
  have marked : trim (words ++ [';'] ++ marker.toList) =
      words.dropWhile isBlank ++ ';' :: marker.toList := by
    rw [trim_eq_dropWhile fun c last => (marker_closing _ c last).1, List.append_assoc,
      List.singleton_append, dropWhile_append_cons visible]
  constructor
  · intro isText
    obtain ⟨-, ordinary⟩ := role_eq_body_iff.mp (role_eq_body_iff_isText.mpr isText)
    rw [role_eq_body_iff, marked]
    refine ⟨by simp, fun comment => ordinary ?_⟩
    rw [lone]
    exact (prefix_of_prefix_append_cons (by decide) comment).trans (List.prefix_append _ _)
  · intro separates
    rw [IsBreakpoint, lone] at separates
    rw [role_eq_breakpoint_iff, marked, ← List.singleton_append, ← List.append_assoc]
    exact separates.trans (List.prefix_append _ _)

/-- There is always a first group, though it may be empty. -/
theorem exists_groups (all : List (List Char)) : ∃ first later, groups all = first :: later := by
  obtain ⟨earlier, last, same, -⟩ := groups_append all
  cases earlier with
  | nil => exact ⟨last, [], same⟩
  | cons first others => exact ⟨first, others ++ [last], same⟩

/-- A line with the marker behind its terminator joins the group that it belongs to with the first
group of what follows. -/
theorem groups_marked (ends : line.getLast? = some ';') (isText : IsText line)
    (before after : List (List Char)) :
    ∃ earlier others first later, groups (before ++ [line]) = earlier ++ [others ++ [line]] ∧
      groups after = first :: later ∧
      groups (before ++ (line ++ marker.toList) :: after) =
        earlier ++ (others ++ (line ++ marker.toList) :: first) :: later := by
  obtain ⟨earlier, others, -, joins⟩ := groups_append before
  obtain ⟨first, later, following⟩ := exists_groups after
  have role : LineRole.of line = .body := role_eq_body_iff_isText.mpr isText
  have alone : groups [line] = [[line]] := groups_body (by simpa using role)
  have marked : groups ((line ++ marker.toList) :: after) =
      ((line ++ marker.toList) :: first) :: later := by
    rw [groups, (role_marked ends).1 isText, following]
  exact ⟨earlier, others, first, later, joins _ _ _ alone, following, joins _ _ _ marked⟩

/-! ## Markers in scripts -/

/-- The lines of a script that goes on with the marker behind a terminator. -/
theorem lines_marked {before : List Char} (ends : before.getLast? = some ';')
    (last : (lines before).getLast? = some line) (after : List Char) :
    line.getLast? = some ';' ∧ ∃ earlier, lines before = earlier ++ [line] ∧
      lines (before ++ (marker.toList ++ '\n' :: after)) =
        earlier ++ (line ++ marker.toList) :: lines after := by
  have filled : before ≠ [] := by
    rintro rfl
    cases ends
  have unfed : before.getLast? ≠ some '\n' := by
    rw [ends]
    decide
  obtain ⟨earlier, line', lone, longer⟩ := lines_append filled unfed feed_not_mem_marker
  obtain rfl : line' = line := by simpa [lone] using last
  obtain ⟨_, last', same, lastFilled, suffix⟩ := exists_last_line filled unfed
  obtain rfl : last' = line' := by simpa [same] using last
  have closed : ∀ c ∈ (before ++ marker.toList).getLast?, c ≠ '\n' ∧ c ≠ '\r' := by
    intro c final
    have visible := (marker_closing before c final).1
    constructor <;> rintro rfl <;> exact absurd visible (by decide)
  refine ⟨?_, earlier, lone, ?_⟩
  · obtain ⟨front, rfl⟩ := suffix
    rwa [List.getLast?_append_of_ne_nil front lastFilled] at ends
  · rw [← List.append_assoc, lines_append_feed, lines_feed_eq_self (by simp [filled]) closed,
      longer]
    simp

/-- Two lists of statements do not make up for a longer one between them. -/
theorem append_ne_of_shorter {statement : List Char} {own next : Option (List Char)}
    (ownShorter : ∀ text, own = some text → text.length < statement.length)
    (nextShorter : ∀ text, next = some text → text.length < statement.length)
    (earlier later : List (List Char)) :
    earlier ++ statement :: later ≠ (earlier ++ own.toList) ++ (next.toList ++ later) := by
  intro same
  rw [List.append_assoc, List.append_cancel_left_eq] at same
  cases own with
  | none =>
      cases next with
      | none => simp at same
      | some text =>
          have shorter := nextShorter text rfl
          obtain rfl : statement = text := by simpa using congrArg List.head? same
          exact absurd shorter (Nat.lt_irrefl _)
  | some text =>
      have shorter := ownShorter text rfl
      obtain rfl : statement = text := by simpa using congrArg List.head? same
      exact absurd shorter (Nat.lt_irrefl _)

/-- A line that ends in a terminator is not blank. -/
theorem isText_of_terminated (ends : line.getLast? = some ';') (told : ¬ IsComment line)
    (unmarked : ¬ IsBreakpoint line) : IsText line := by
  have filled : line ≠ [] := by
    rintro rfl
    cases ends
  have visible : ∀ c ∈ line.getLast?, isBlank c = false := by
    rw [ends]
    rintro c ⟨⟩
    decide
  obtain ⟨shown, -⟩ := trim_prefix List.prefix_rfl filled visible
  exact ⟨unmarked, shown, told⟩

/-- Groups that a marker joins do not have the statements of both parts. -/
theorem filterMap_marked_ne (ends : line.getLast? = some ';') (isText : IsText line)
    (before after : List (List Char)) :
    (groups (before ++ (line ++ marker.toList) :: after)).filterMap statement? ≠
      (groups (before ++ [line])).filterMap statement? ++ (groups after).filterMap statement? := by
  obtain ⟨earlier, others, first, later, own, next, joint⟩ := groups_marked ends isText before after
  obtain ⟨front, rest, stated, begins, finishes⟩ := statement?_marked ends others first
  have markerLong : 0 < marker.toList.length := List.length_pos_iff.mpr marker_filled
  have ownShorter : ∀ text, statement? (others ++ [line]) = some text →
      text.length < (front ++ ';' :: (marker.toList ++ rest)).length := by
    intro text ownStated
    have short := (begins text ownStated).length_le
    simp only [List.length_append, List.length_cons, List.length_nil] at short ⊢
    omega
  have nextShorter : ∀ text, statement? first = some text →
      text.length < (front ++ ';' :: (marker.toList ++ rest)).length := by
    intro text nextStated
    have short := (finishes text nextStated).length_le
    simp only [List.length_append, List.length_cons]
    omega
  have apart := append_ne_of_shorter ownShorter nextShorter (earlier.filterMap statement?)
    (later.filterMap statement?)
  have unfoldFirst (group : List (List Char)) (others : List (List (List Char))) :
      (group :: others).filterMap statement? =
        (statement? group).toList ++ others.filterMap statement? := by
    cases result : statement? group <;> simp [result]
  rw [joint, own, next, List.filterMap_append, List.filterMap_append, unfoldFirst, unfoldFirst,
    unfoldFirst, stated]
  simpa using apart

/-- Behind a terminator, the marker separates on a breakpoint line and never on a text line. -/
theorem statements_marked_iff {before : List Char} (ends : before.getLast? = some ';')
    (last : (lines before).getLast? = some line) (told : ¬ IsComment line) (after : List Char) :
    statements (before ++ (marker.toList ++ '\n' :: after)) = statements before ++ statements after ↔
      IsBreakpoint line := by
  obtain ⟨closing, earlier, lone, longer⟩ := lines_marked ends last after
  unfold statements
  rw [lone, longer]
  constructor
  · intro same
    by_contra unmarked
    exact filterMap_marked_ne closing (isText_of_terminated closing told unmarked) earlier
      (lines after) same
  · intro separates
    have role : LineRole.of line = .breakpoint := role_eq_breakpoint_iff.mpr separates
    have nothing : (groups []).filterMap statement? = [] := by decide
    rw [groups_breakpoint role, groups_breakpoint ((role_marked closing).2 separates),
      List.filterMap_append, List.filterMap_append, nothing, List.append_nil]

/-- Where a marker separates two scripts. As the first thing on its line it does, with blanks before
it and with any text behind it. Behind a terminator that ends a script, on a line that is no
comment, it does exactly if that line is a breakpoint anyway. If that line is text, the marker is a
part of it, and its section goes on with the first one of what follows, in one statement that holds
the terminator and the marker. -/
theorem split_placed :
    (∀ before after blanks rest : String, (∀ c ∈ blanks.toList, isBlank c = true ∧ c ≠ '\n') →
      '\n' ∉ rest.toList →
        split (before ++ "\n" ++ blanks ++ marker ++ rest ++ "\n" ++ after) =
          split before ++ split after) ∧
    ∀ (before after : String) (line : List Char), before.toList.getLast? = some ';' →
      (lines before.toList).getLast? = some line → ¬ IsComment line →
        (split (before ++ marker ++ "\n" ++ after) = split before ++ split after ↔
          IsBreakpoint line) ∧
        (¬ IsBreakpoint line → ∃ earlier others first later own rest,
          sections before.toList = earlier ++ [others ++ [line]] ∧
          sections after.toList = first :: later ∧
          sections (before ++ marker ++ "\n" ++ after).toList =
            earlier ++ (others ++ (line ++ marker.toList) :: first) :: later ∧
          statement? (others ++ (line ++ marker.toList) :: first) =
            some (own ++ ';' :: (marker.toList ++ rest))) := by
  constructor
  · intro before after blanks rest blank single
    have whole : (before ++ "\n" ++ blanks ++ marker ++ rest ++ "\n" ++ after).toList =
        before.toList ++ '\n' ::
          ((blanks.toList ++ marker.toList ++ rest.toList) ++ '\n' :: after.toList) := by
      simp
    have one : '\n' ∉ blanks.toList ++ marker.toList ++ rest.toList := by
      simp only [List.mem_append, not_or]
      exact ⟨⟨fun feed => (blank _ feed).2 rfl, feed_not_mem_marker⟩, single⟩
    have role : LineRole.of (blanks.toList ++ marker.toList ++ rest.toList) = .breakpoint :=
      role_eq_breakpoint_iff.mpr (isBreakpoint_placed (fun c member => (blank c member).1) _)
    rw [split, whole, statements_breakpoint_line one role, List.map_append]
    rfl
  · intro before after line ends last told
    have whole : (before ++ marker ++ "\n" ++ after).toList =
        before.toList ++ (marker.toList ++ '\n' :: after.toList) := by
      simp
    refine ⟨?_, fun unmarked => ?_⟩
    · rw [← statements_marked_iff ends last told after.toList, split, split, split,
        ← List.map_append, whole]
      have injective : Function.Injective String.ofList := fun _ _ => String.ofList_injective
      exact (List.map_injective_iff.mpr injective).eq_iff
    · obtain ⟨closing, earlier, lone, longer⟩ := lines_marked ends last after.toList
      have isText := isText_of_terminated closing told unmarked
      obtain ⟨before', others, first, later, own, next, joint⟩ :=
        groups_marked closing isText earlier (lines after.toList)
      obtain ⟨front, rest, stated, -, -⟩ := statement?_marked closing others first
      refine ⟨before', others, first, later, front, rest, ?_, ?_, ?_, stated⟩
      · rw [← groups_eq_sections, lone, own]
      · rw [← groups_eq_sections, next]
      · rw [← groups_eq_sections, whole, longer, joint]

/-- A marker on a line of its own ends the second of two tables; behind its terminator, it does
not. -/
theorem split_placed_table :
    let before := "CREATE TABLE a;\nCREATE TABLE b;"
    let after := "CREATE TABLE c;\n"
    let line := "CREATE TABLE b;".toList
    split (before ++ "\n" ++ "\t" ++ marker ++ " 2" ++ "\n" ++ after) = split before ++ split after ∧
      before.toList.getLast? = some ';' ∧ (lines before.toList).getLast? = some line ∧
      ¬ IsComment line ∧ ¬ IsBreakpoint line ∧
      split (before ++ marker ++ "\n" ++ after) ≠ split before ++ split after := by
  intro before after line
  have blank : ∀ c ∈ "\t".toList, isBlank c = true ∧ c ≠ '\n' :=
    List.forall_mem_singleton.mpr (by decide)
  have single : '\n' ∉ " 2".toList := by decide +kernel
  have ends : before.toList.getLast? = some ';' := by decide +kernel
  have last : (lines before.toList).getLast? = some line := by decide +kernel
  have told : ¬ IsComment line := by decide +kernel
  have unmarked : ¬ IsBreakpoint line := by decide +kernel
  obtain ⟨separates, -⟩ := split_placed.2 before after line ends last told
  exact ⟨split_placed.1 before after "\t" " 2" blank single, ends, last, told, unmarked,
    separates.not.mpr unmarked⟩

/-- A marker directly behind a terminator is read as text. -/
theorem split_behind_terminator :
    ¬ ∀ before after : String, ∀ line : List Char, before.toList.getLast? = some ';' →
      (lines before.toList).getLast? = some line → ¬ "--".toList <+: trim line →
        split (before ++ marker ++ "\n" ++ after) = split before ++ split after := by
  intro separates
  have whole : split ("a;" ++ marker ++ "\n" ++ "b") = ["a;--> statement-breakpoint\nb"] := by
    decide +kernel
  have parts : split "a;" ++ split "b" = ["a", "b"] := by decide +kernel
  have same := separates "a;" "b" "a;".toList (by decide +kernel) (by decide +kernel)
    (by decide +kernel)
  rw [whole, parts] at same
  exact absurd same (by decide)

end MemoStore.Script
