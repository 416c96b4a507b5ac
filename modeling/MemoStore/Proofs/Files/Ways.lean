import Mathlib.Algebra.GroupWithZero.Nat
import Mathlib.Data.String.Basic
import MemoStore.Proofs.Files.Writing

/-!
# Ways through folders

A path can be followed if everything on its way is a folder (`follow_ok_iff`); where it leads then
does not depend on the disk. The ways to the folders above a named path are its shorter beginnings,
and every place on the way to its end is the end of one of them, or where the path starts, so that
what holds of these holds all along the way (`along_way`).
-/

namespace MemoStore.Files

variable {disk : Disk} {start place : Place} {moves before : List Move} {path : Path}

/-! ## Following -/

/-- Whether everything on a way is a folder, and no name on it too long. -/
def Disk.Passable (disk : Disk) (start : Place) (moves : List Move) : Prop :=
  ∀ before move rest, moves = before ++ move :: rest →
    disk.entry? (before.foldl Move.from start) = some .folder ∧
      ∀ name, move = .into name → name.utf8ByteSize ≤ Disk.nameLimit

namespace Disk

/-- A way can be gone when its first move can, and the rest from where it leads. -/
theorem passable_cons {move : Move} {rest : List Move} :
    disk.Passable start (move :: rest) ↔
      (disk.entry? start = some .folder ∧
        ∀ name, move = .into name → name.utf8ByteSize ≤ nameLimit) ∧
      disk.Passable (move.from start) rest := by
  constructor
  · intro passable
    refine ⟨passable [] move rest rfl, fun before next later same => ?_⟩
    have further := passable (move :: before) next later (by rw [same, List.cons_append])
    exact further
  · rintro ⟨here, further⟩ before next later same
    cases before with
    | nil =>
        cases same
        exact here
    | cons first before =>
        rw [List.cons_append, List.cons.injEq] at same
        obtain ⟨rfl, same⟩ := same
        exact further before next later same

/-- From a folder one goes on, unless a name is too long. -/
theorem follow_cons_of_folder {move : Move} {rest : List Move}
    (found : disk.entry? start = some .folder)
    (short : ∀ name, move = .into name → name.utf8ByteSize ≤ nameLimit) :
    disk.follow start (move :: rest) = disk.follow (move.from start) rest := by
  rw [follow.eq_def disk start (move :: rest)]
  simp only [found]
  cases move with
  | stay => rfl
  | up => rfl
  | into name =>
      simp only
      rw [if_neg (Nat.not_lt.mpr (short name rfl))]
      rfl

/-- One can only go on from a folder, to a name that is not too long. -/
theorem folder_of_follow_cons {move : Move} {rest : List Move}
    (followed : disk.follow start (move :: rest) = .ok place) :
    disk.entry? start = some .folder ∧
      ∀ name, move = .into name → name.utf8ByteSize ≤ nameLimit := by
  rw [follow.eq_def disk start (move :: rest)] at followed
  cases found : disk.entry? start with
  | none => simp [found] at followed
  | some held =>
      cases held with
      | file content => simp [found] at followed
      | folder =>
          refine ⟨rfl, ?_⟩
          rintro name rfl
          simp only [found] at followed
          split at followed
          · cases followed
          · rename_i short
            exact Nat.not_lt.mp short

/-- A way can be followed exactly if it is passable, and then it leads where its moves do. -/
theorem follow_ok_iff :
    disk.follow start moves = .ok place ↔
      disk.Passable start moves ∧ place = moves.foldl Move.from start := by
  induction moves generalizing start with
  | nil =>
      have passable : disk.Passable start [] := fun before move rest same => by
        simp at same
      simp only [follow, passable, true_and, List.foldl_nil, Except.ok.injEq]
      exact eq_comm
  | cons move rest inductionHypothesis =>
      rw [passable_cons, List.foldl_cons]
      constructor
      · intro followed
        obtain ⟨folder, short⟩ := folder_of_follow_cons followed
        rw [follow_cons_of_folder folder short, inductionHypothesis] at followed
        exact ⟨⟨⟨folder, short⟩, followed.1⟩, followed.2⟩
      · rintro ⟨⟨⟨folder, short⟩, passable⟩, ends⟩
        rw [follow_cons_of_folder folder short, inductionHypothesis]
        exact ⟨passable, ends⟩

/-- A way without files and long names on it is not found, if it is not passable. -/
theorem follow_eq_or (unblocked : ∀ before move rest, moves = before ++ move :: rest →
      (∀ content, disk.entry? (before.foldl Move.from start) ≠ some (.file content)) ∧
        ∀ name, move = .into name → name.utf8ByteSize ≤ nameLimit) :
    disk.follow start moves = .error .notFound ∨
      disk.follow start moves = .ok (moves.foldl Move.from start) := by
  induction moves generalizing start with
  | nil => exact .inr rfl
  | cons move rest inductionHypothesis =>
      obtain ⟨noFile, short⟩ := unblocked [] move rest rfl
      cases found : disk.entry? start with
      | none =>
          refine .inl ?_
          rw [follow.eq_def]
          simp only [found]
      | some held =>
          cases held with
          | file content => exact absurd found (noFile content)
          | folder =>
              rw [follow_cons_of_folder found short, List.foldl_cons]
              exact inductionHypothesis fun before next later same =>
                unblocked (move :: before) next later (by rw [same, List.cons_append])

/-- A path leads somewhere exactly when its text is allowed and its way can be gone. -/
theorem locate_ok_iff :
    disk.locate path = .ok place ↔ path.hasNul = false ∧ path.size < Path.limit ∧
      disk.Passable (path.start disk.here) path.moves ∧ place = path.destination disk.here := by
  unfold locate Path.destination
  rw [← follow_ok_iff]
  by_cases nul : path.hasNul
  · simp [nul]
  · by_cases long : Path.limit ≤ path.size
    · simp [nul, long, Nat.not_lt.mpr long]
    · simp [nul, long, Nat.not_le.mp long]

/-- A path without files and long names on it is not found, if it leads nowhere. -/
theorem locate_eq_or (clean : path.hasNul = false) (small : path.size < Path.limit)
    (unblocked : ∀ before move rest, path.moves = before ++ move :: rest →
      (∀ content, disk.entry? (before.foldl Move.from (path.start disk.here)) ≠
          some (.file content)) ∧
        ∀ name, move = .into name → name.utf8ByteSize ≤ nameLimit) :
    disk.locate path = .error .notFound ∨
      disk.locate path = .ok (path.destination disk.here) := by
  unfold locate
  rw [if_neg (by simp [clean]), if_neg (Nat.not_le.mpr small)]
  exact follow_eq_or unblocked

end Disk

/-! ## Folders above a path -/

namespace Path

/-- The folder that a path leads to with some of its moves. -/
def along (path : Path) (moves : List Move) : Path :=
  { path with moves := moves, slashed := false, size := spelledSize moves }

/-- A named path ends in a name. -/
theorem isNamed_iff : path.isNamed ↔ ∃ before name, path.moves = before ++ [.into name] := by
  unfold isNamed
  constructor
  · intro named
    split at named
    · rename_i name last
      obtain ⟨before, same⟩ := List.getLast?_eq_some_iff.mp last
      exact ⟨before, name, same⟩
    · cases named
  · rintro ⟨before, name, same⟩
    rw [same, List.getLast?_concat]

/-- The folders above a named path are those along the beginnings of what is before its name. -/
theorem above_eq {name : String} (ends : path.moves = before ++ [.into name]) :
    path.above = (beginnings before.reverse).map path.along := by
  unfold above
  rw [ends, List.reverse_append]
  rfl

/-- The beginnings of a way from its end on are the way and the beginnings of the way without its
last move. -/
theorem beginnings_cons {move : Move} (moving : move ≠ .stay) (rest : List Move) :
    beginnings (move :: rest) = (move :: rest).reverse :: beginnings rest := by
  cases move with
  | stay => exact absurd rfl moving
  | up => rfl
  | into name => rfl

/-- A beginning is some of the first moves. -/
theorem prefix_of_mem_beginnings {reversed : List Move} (listed : moves ∈ beginnings reversed) :
    moves <+: reversed.reverse := by
  induction reversed with
  | nil => cases listed
  | cons move rest inductionHypothesis =>
      have later (listed : moves ∈ beginnings rest) : moves <+: (move :: rest).reverse := by
        rw [List.reverse_cons]
        exact (inductionHypothesis listed).trans (List.prefix_append _ _)
      by_cases staying : move = .stay
      · subst staying
        exact later listed
      · rw [beginnings_cons staying, List.mem_cons] at listed
        rcases listed with rfl | listed
        · exact List.prefix_rfl
        · exact later listed

/-- The first moves of a way lead where it starts or where one of its beginnings does, since to stay
leads nowhere. -/
theorem ends_of_prefix {reversed : List Move} (starts : moves <+: reversed.reverse) :
    moves.foldl Move.from start = start ∨ ∃ beginning ∈ beginnings reversed,
      moves.foldl Move.from start = beginning.foldl Move.from start := by
  induction reversed generalizing moves with
  | nil => exact .inl (by rw [List.prefix_nil.mp starts, List.foldl_nil])
  | cons move rest inductionHypothesis =>
      rw [List.reverse_cons, List.prefix_concat_iff] at starts
      by_cases staying : move = .stay
      · subst staying
        rcases starts with rfl | shorter
        · rw [List.foldl_concat]
          exact inductionHypothesis List.prefix_rfl
        · exact inductionHypothesis shorter
      · rw [beginnings_cons staying]
        rcases starts with rfl | shorter
        · exact .inr ⟨_, List.mem_cons_self, by rw [List.reverse_cons]⟩
        · exact (inductionHypothesis shorter).imp_right fun ⟨beginning, listed, same⟩ =>
            ⟨beginning, List.mem_cons_of_mem _ listed, same⟩

end Path

/-- What holds of the start of a way and of the ends of its beginnings holds all along it. -/
theorem along_way {p : Place → Prop} {reversed : List Move} {move : Move} (atStart : p start)
    (atEnds : ∀ moves ∈ Path.beginnings reversed, p (moves.foldl Move.from start)) :
    ∀ first next rest, reversed.reverse ++ [move] = first ++ next :: rest →
      p (first.foldl Move.from start) := by
  intro first next rest same
  have starts : first <+: reversed.reverse := by
    rcases List.prefix_concat_iff.mp (same ▸ List.prefix_append first (next :: rest)) with
      whole | shorter
    · have lengths := congrArg List.length same
      rw [whole] at lengths
      simp at lengths
    · exact shorter
  rcases Path.ends_of_prefix starts with here | ⟨beginning, listed, there⟩
  · rw [here]
    exact atStart
  · rw [there]
    exact atEnds beginning listed

/-- The places on the way to a folder are folders, if the way is passable. -/
theorem Disk.Passable.folder {move : Move} (passable : disk.Passable start (before ++ [move]))
    (starts : moves <+: before) : disk.entry? (moves.foldl Move.from start) = some .folder := by
  obtain ⟨more, rfl⟩ := starts
  cases more with
  | nil => exact (passable moves move [] (by simp)).1
  | cons next more => exact (passable moves next (more ++ [move]) (by simp)).1

/-! ## Sizes -/

/-- The size of the text of a move with the slash behind it. -/
def Move.size : Move → Nat
  | .stay => 2
  | .up => 3
  | .into name => name.utf8ByteSize + 1

/-- The size of a spelled way is the sum over its moves. -/
theorem Path.spelledSize_eq_sum (moves : List Move) :
    Path.spelledSize moves = (moves.map Move.size).sum := by
  have further (size : Nat) : moves.foldl
      (fun size move =>
        match move with
        | .stay => size + 2
        | .up => size + 3
        | .into name => size + name.utf8ByteSize + 1) size = size + (moves.map Move.size).sum := by
    induction moves generalizing size with
    | nil => rfl
    | cons move rest inductionHypothesis =>
        rw [List.foldl_cons, inductionHypothesis, List.map_cons, List.sum_cons]
        cases move <;> simp only [Move.size] <;> omega
  exact (further 0).trans (Nat.zero_add _)

/-- A move that is read has the size of its text. -/
theorem Move.size_of_read? {part : List Char} {move : Move} (read : Move.read? part = some move) :
    move.size = String.utf8Len part + 1 := by
  unfold Move.read? at read
  split at read
  · cases read
  · split at read
    · rename_i dot
      cases read
      subst dot
      rfl
    · split at read
      · rename_i dots
        cases read
        subst dots
        rfl
      · cases read
        rw [Move.size, String.utf8ByteSize_ofList]

/-- The pieces of a text between slashes have its size, with one slash more. -/
theorem sum_pieces (text : List Char) :
    ((Text.pieces '/' text).map fun piece => String.utf8Len piece + 1).sum =
      String.utf8Len text + 1 := by
  induction text with
  | nil => rfl
  | cons c rest inductionHypothesis =>
      rw [Text.pieces]
      split
      · rename_i slash
        subst slash
        have one : '/'.utf8Size = 1 := rfl
        simp only [List.map_cons, List.sum_cons, inductionHypothesis, String.utf8Len_cons, one,
          String.utf8Len_nil]
        omega
      · cases pieces : Text.pieces '/' rest with
        | nil => simp [pieces] at inductionHypothesis
        | cons piece later =>
            simp only [pieces, List.map_cons, List.sum_cons, String.utf8Len_cons]
              at inductionHypothesis ⊢
            omega

/-- The moves of a path are not larger than its text. -/
theorem Path.sum_moves_le (text : String) :
    ((read text).moves.map Move.size).sum ≤ text.utf8ByteSize + 1 := by
  have within (parts : List (List Char)) : ((parts.filterMap Move.read?).map Move.size).sum ≤
      (parts.map fun part => String.utf8Len part + 1).sum := by
    induction parts with
    | nil => exact Nat.le_refl _
    | cons part rest inductionHypothesis =>
        cases read : Move.read? part with
        | none =>
            rw [List.filterMap_cons_none read, List.map_cons, List.sum_cons]
            omega
        | some move =>
            rw [List.filterMap_cons_some read, List.map_cons, List.sum_cons, List.map_cons,
              List.sum_cons, Move.size_of_read? read]
            omega
  calc ((read text).moves.map Move.size).sum
      ≤ ((Text.pieces '/' text.toList).map fun part => String.utf8Len part + 1).sum := within _
    _ = text.utf8ByteSize + 1 := by
      rw [sum_pieces, ← String.utf8ByteSize_ofList, String.ofList_toList]

/-- No folder above a path has a larger text. -/
theorem Path.spelledSize_le {text name : String} (ends : (read text).moves = before ++ [.into name])
    (listed : moves ∈ beginnings before.reverse) : spelledSize moves ≤ (read text).size := by
  obtain ⟨rest, same⟩ := prefix_of_mem_beginnings listed
  rw [List.reverse_reverse] at same
  have whole := sum_moves_le text
  rw [ends, ← same] at whole
  simp only [List.map_append, List.sum_append, List.map_cons, List.sum_cons, Move.size] at whole
  have size : (read text).size = text.utf8ByteSize := rfl
  rw [spelledSize_eq_sum, size]
  omega

end MemoStore.Files
