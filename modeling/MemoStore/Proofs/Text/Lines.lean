import Mathlib.Data.List.Basic
import MemoStore.Text.Lines

/-!
# Lines of a text

The lines of a text one after the other: `lineInduction` takes a text apart at its line feeds,
`lines_ended` and `lines_eq_singleton` say which line each part is. A line feed takes a carriage
return before it away, so a text that goes on behind its last line may lose one there, which is
what `lines_feed` is about.
-/

namespace MemoStore.Text

variable {line text rest : List Char}

/-- A line without the carriage return that belongs to its end. -/
def dropReturn (line : List Char) : List Char :=
  if line.getLast? = some '\r' then line.dropLast else line

/-- A carriage return at the end is all that a line can lose. -/
theorem eq_dropReturn_or (line : List Char) :
    line = dropReturn line ∨ line = dropReturn line ++ ['\r'] := by
  unfold dropReturn
  split
  · rename_i ending
    obtain ⟨before, rfl⟩ := List.getLast?_eq_some_iff.mp ending
    exact .inr (by rw [List.dropLast_concat])
  · exact .inl rfl

/-- What holds of a text in one line, and of a text as soon as it holds of what follows its first
line, holds of every text. -/
theorem lineInduction {motive : List Char → Prop} (last : ∀ line, '\n' ∉ line → motive line)
    (ended : ∀ line rest, '\n' ∉ line → motive rest → motive (line ++ '\n' :: rest))
    (text : List Char) : motive text := by
  by_cases feed : '\n' ∈ text
  · obtain ⟨line, rest, split, single⟩ := List.eq_append_cons_of_mem feed
    have shorter : rest.length < text.length := by
      rw [split, List.length_append, List.length_cons]
      omega
    rw [split]
    exact ended line rest single (lineInduction last ended rest)
  · exact last text feed
termination_by text.length

/-- A character that ends no line stands in the first one. -/
theorem lines_cons {c : Char} (visible : c ≠ '\n')
    (ordinary : ∀ later, c = '\r' → rest ≠ '\n' :: later) :
    lines (c :: rest) =
      match lines rest with
      | [] => [[c]]
      | line :: later => (c :: line) :: later := by
  rw [lines] <;> first | rfl | exact visible | exact ordinary

/-- A text without a line feed is one line, or none if it is empty. -/
theorem lines_eq_singleton (single : '\n' ∉ line) (filled : line ≠ []) : lines line = [line] := by
  induction line with
  | nil => exact absurd rfl filled
  | cons c rest inductionHypothesis =>
      obtain ⟨visible, single⟩ := not_or.mp (List.mem_cons.not.mp single)
      rw [lines_cons (Ne.symm visible)]
      · cases rest with
        | nil => rfl
        | cons d rest => rw [inductionHypothesis single (List.cons_ne_nil d rest)]
      · rintro later - rfl
        exact single List.mem_cons_self

/-- A filled text without a line feed is its own line. -/
theorem mem_lines_self (single : '\n' ∉ line) (filled : line ≠ []) : line ∈ lines line := by
  rw [lines_eq_singleton single filled]
  exact List.mem_singleton_self line

/-- The only line of a text without a line feed is the text. -/
theorem eq_of_mem_lines (single : '\n' ∉ text) (member : line ∈ lines text) :
    line = text ∧ text ≠ [] := by
  by_cases filled : text = []
  · subst filled
    cases member
  · rw [lines_eq_singleton single filled, List.mem_singleton] at member
    exact ⟨member, filled⟩

/-- The first line of a text ends at its first line feed. -/
theorem lines_ended (single : '\n' ∉ line) :
    lines (line ++ '\n' :: rest) = dropReturn line :: lines rest := by
  induction line with
  | nil => rfl
  | cons c line inductionHypothesis =>
      obtain ⟨visible, single⟩ := not_or.mp (List.mem_cons.not.mp single)
      by_cases returned : c = '\r' ∧ line = []
      · obtain ⟨rfl, rfl⟩ := returned
        rfl
      · rw [List.cons_append, lines_cons (Ne.symm visible), inductionHypothesis single]
        · cases line with
          | nil => simp_all [dropReturn]
          | cons d line =>
              simp only [dropReturn, List.getLast?_cons_cons, List.dropLast_cons_cons]
              split <;> rfl
        · rintro later rfl feeds
          cases line with
          | nil => exact returned ⟨rfl, rfl⟩
          | cons d line =>
              cases feeds
              simp at single

/-- A line without its carriage return is the beginning of the line. -/
theorem dropReturn_prefix_self (line : List Char) : dropReturn line <+: line := by
  unfold dropReturn
  split
  · exact List.dropLast_prefix line
  · exact List.prefix_rfl

/-- No line has a line feed in it. -/
theorem feed_not_mem {line : List Char} (member : line ∈ lines text) : '\n' ∉ line := by
  induction text using lineInduction with
  | last whole single => rwa [(eq_of_mem_lines single member).1]
  | ended first rest single inductionHypothesis =>
      rw [lines_ended single, List.mem_cons] at member
      rcases member with rfl | later
      · exact fun feed => single ((dropReturn_prefix_self first).subset feed)
      · exact inductionHypothesis later

/-- What follows a line feed has lines of its own. -/
theorem lines_append_feed (text rest : List Char) :
    lines (text ++ '\n' :: rest) = lines (text ++ ['\n']) ++ lines rest := by
  induction text using lineInduction with
  | last line single => rw [lines_ended single, lines_ended single]; rfl
  | ended line later single inductionHypothesis =>
      rw [List.append_assoc, List.append_assoc, List.cons_append, List.cons_append,
        lines_ended single, lines_ended single, inductionHypothesis, List.cons_append]

/-- A line feed behind a text ends its last line, which may lose a carriage return, or adds an
empty one. -/
theorem lines_feed (text : List Char) :
    ∃ before last, lines (text ++ ['\n']) = before ++ [last] ∧
      ((lines text = before ∧ last = []) ∨ lines text = before ++ [last] ∨
        lines text = before ++ [last ++ ['\r']]) := by
  induction text using lineInduction with
  | last line single =>
      refine ⟨[], dropReturn line, lines_ended single, ?_⟩
      by_cases filled : line = []
      · subst filled
        exact .inl ⟨rfl, rfl⟩
      · rw [lines_eq_singleton single filled]
        refine .inr ?_
        rcases eq_dropReturn_or line with same | returned
        · exact .inl (by rw [← same]; rfl)
        · exact .inr (by rw [← returned]; rfl)
  | ended line rest single inductionHypothesis =>
      obtain ⟨before, last, fed, unfed⟩ := inductionHypothesis
      refine ⟨dropReturn line :: before, last, ?_, ?_⟩
      · rw [List.append_assoc, List.cons_append, lines_ended single, fed, List.cons_append]
      · rw [lines_ended single]
        rcases unfed with ⟨same, empty⟩ | same | same
        · exact .inl ⟨by rw [same], empty⟩
        · exact .inr (.inl (by rw [same, List.cons_append]))
        · exact .inr (.inr (by rw [same, List.cons_append]))

/-- A text that does not end in a line feed goes on behind each of its line feeds. -/
theorem unended (closing : (line ++ '\n' :: rest).getLast? ≠ some '\n') :
    rest ≠ [] ∧ rest.getLast? ≠ some '\n' := by
  have filled : rest ≠ [] := by
    rintro rfl
    simp at closing
  refine ⟨filled, fun ends => closing ?_⟩
  rw [List.getLast?_append, List.getLast?_cons_of_ne_nil filled, ends]
  rfl

/-- What is added behind the last line of a text becomes part of it. -/
theorem lines_append {tail : List Char} (filled : text ≠ []) (closing : text.getLast? ≠ some '\n')
    (single : '\n' ∉ tail) :
    ∃ before last,
      lines text = before ++ [last] ∧ lines (text ++ tail) = before ++ [last ++ tail] := by
  induction text using lineInduction with
  | last line singleLine =>
      have whole : '\n' ∉ line ++ tail := by simp [singleLine, single]
      refine ⟨[], line, lines_eq_singleton singleLine filled, ?_⟩
      exact lines_eq_singleton whole (by simp [filled])
  | ended line rest singleLine inductionHypothesis =>
      obtain ⟨restFilled, restClosing⟩ := unended closing
      obtain ⟨before, last, lone, longer⟩ := inductionHypothesis restFilled restClosing
      refine ⟨dropReturn line :: before, last, ?_, ?_⟩
      · rw [lines_ended singleLine, lone, List.cons_append]
      · rw [List.append_assoc, List.cons_append, lines_ended singleLine, longer, List.cons_append]

/-- A text that does not end in a line feed ends in its last line. -/
theorem exists_last_line (filled : text ≠ []) (closing : text.getLast? ≠ some '\n') :
    ∃ before last, lines text = before ++ [last] ∧ last ≠ [] ∧ last <:+ text := by
  induction text using lineInduction with
  | last line single => exact ⟨[], line, lines_eq_singleton single filled, filled, List.suffix_rfl⟩
  | ended line rest single inductionHypothesis =>
      obtain ⟨restFilled, restClosing⟩ := unended closing
      obtain ⟨before, last, same, lastFilled, ends⟩ := inductionHypothesis restFilled restClosing
      refine ⟨dropReturn line :: before, last, ?_, lastFilled, ?_⟩
      · rw [lines_ended single, same, List.cons_append]
      · exact ends.trans ((List.suffix_cons '\n' rest).trans (List.suffix_append line _))

/-- A line feed behind a text that does not end in a part of a line end changes no line. -/
theorem lines_feed_eq_self (filled : text ≠ [])
    (closing : ∀ c ∈ text.getLast?, c ≠ '\n' ∧ c ≠ '\r') : lines (text ++ ['\n']) = lines text := by
  induction text using lineInduction with
  | last line single =>
      have unreturned : line.getLast? ≠ some '\r' := fun returned => (closing _ returned).2 rfl
      rw [lines_ended single, dropReturn, if_neg unreturned, lines_eq_singleton single filled]
      rfl
  | ended line rest single inductionHypothesis =>
      obtain ⟨restFilled, -⟩ := unended fun feeds => (closing _ feeds).1 rfl
      have restClosing : ∀ c ∈ rest.getLast?, c ≠ '\n' ∧ c ≠ '\r' := by
        intro c ends
        refine closing c ?_
        rwa [List.getLast?_append_of_ne_nil _ (List.cons_ne_nil _ _),
          List.getLast?_cons_of_ne_nil restFilled]
      rw [List.append_assoc, List.cons_append, lines_ended single, lines_ended single,
        inductionHypothesis restFilled restClosing]

/-! ## Line ends -/

/-- A text whose last line is ended, if it has any line. -/
def Ended (text : List Char) : Prop :=
  ∀ c ∈ text.getLast?, c = '\n'

instance : DecidablePred Ended := fun text =>
  Option.decidableForallMem text.getLast?

/-- What follows an ended text has lines of its own. -/
theorem lines_append_of_ended (ended : Ended text) (rest : List Char) :
    lines (text ++ rest) = lines text ++ lines rest := by
  rcases List.eq_nil_or_concat' text with rfl | ⟨before, last, rfl⟩
  · rfl
  · obtain rfl : last = '\n' := ended last List.getLast?_concat
    rw [List.append_assoc, List.singleton_append, lines_append_feed]

/-- A text with a carriage return before each of its line feeds. -/
def addReturns (text : List Char) : List Char :=
  text.flatMap fun c => if c = '\n' then ['\r', '\n'] else [c]

/-- A text without a line feed gets no carriage return. -/
theorem addReturns_of_single (single : '\n' ∉ line) : addReturns line = line := by
  have kept : ∀ c ∈ line, (if c = '\n' then ['\r', '\n'] else [c]) = [c] := by
    intro c member
    rw [if_neg]
    rintro rfl
    exact single member
  rw [addReturns, List.flatMap_congr kept, List.flatMap_singleton']

/-- A carriage return belongs to the line feed behind it. -/
theorem lines_addReturns (plain : '\r' ∉ text) : lines (addReturns text) = lines text := by
  induction text using lineInduction with
  | last line single => rw [addReturns_of_single single]
  | ended line rest single inductionHypothesis =>
      simp only [List.mem_append, List.mem_cons, not_or] at plain
      obtain ⟨linePlain, -, restPlain⟩ := plain
      have split : addReturns (line ++ '\n' :: rest) =
          (line ++ ['\r']) ++ '\n' :: addReturns rest := by
        have kept := addReturns_of_single single
        simp only [addReturns] at kept ⊢
        simp [kept]
      have returned : dropReturn (line ++ ['\r']) = line := by simp [dropReturn]
      have unreturned : dropReturn line = line := by
        rcases eq_dropReturn_or line with same | ends
        · exact same.symm
        · exact absurd (ends ▸ by simp) linePlain
      have whole : '\n' ∉ line ++ ['\r'] := by simp [single]
      rw [split, lines_ended whole, lines_ended single, returned, unreturned,
        inductionHypothesis restPlain]

end MemoStore.Text
