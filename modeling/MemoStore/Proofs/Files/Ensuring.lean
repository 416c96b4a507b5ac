import MemoStore.Proofs.Files.Ways

/-!
# Making sure of a file

To make sure of a file changes nothing that is there. What is new is a folder above the file, or the
file itself, with nothing in it; and if all went well, the file and the folders are there
(`ensureFile_ensured`). `ensureFile_ok_iff` says when all goes well: the path has to be one that a
file can have, and nothing on it may be in the way.

The folders are made from the outermost on, each only after the one that it is in, so that the
next path can be followed up to its end.
-/

namespace MemoStore.Files.Disk

variable {disk middle after : Disk} {place : Place} {entry : Entry} {path : Path}
variable {new wider : Place → Entry → Prop}

/-! ## What a disk gains -/

/-- A disk keeps all that it has, and what it gains is as `new` says. -/
structure Gains (disk : Disk) (new : Place → Entry → Prop) (after : Disk) : Prop where
  here : after.here = disk.here
  kept : ∀ {place entry}, disk.entry? place = some entry → after.entry? place = some entry
  made : ∀ {place entry}, disk.entry? place = none → after.entry? place = some entry →
    new place entry

namespace Gains

/-- A disk gains nothing over itself. -/
theorem refl (disk : Disk) : disk.Gains new disk where
  here := rfl
  kept held := held
  made absent held := by
    rw [absent] at held
    cases held

/-- What is gained in two changes is gained in both together. -/
theorem trans (first : disk.Gains new middle) (second : middle.Gains new after) :
    disk.Gains new after where
  here := second.here.trans first.here
  kept held := second.kept (first.kept held)
  made {place entry} absent held := by
    cases between : middle.entry? place with
    | none => exact second.made between held
    | some own =>
        obtain rfl : own = entry := Option.some.inj ((second.kept between).symm.trans held)
        exact first.made absent between

/-- A gain of some entries is a gain of any wider class of entries. -/
theorem mono (gains : disk.Gains new after)
    (widens : ∀ place entry, new place entry → wider place entry) : disk.Gains wider after where
  here := gains.here
  kept := gains.kept
  made absent held := widens _ _ (gains.made absent held)

end Gains

/-- To put an entry where there is none, or this one, gains at most this one. -/
theorem put_gains (inside : place ≠ [])
    (same : ∀ held, disk.entry? place = some held → held = entry) :
    disk.Gains (fun found held => found = place ∧ held = entry) (disk.put place entry) where
  here := rfl
  kept {found held} there := by
    by_cases own : found = place
    · subst own
      rw [entry?_put inside, same held there]
    · rw [entry?_put_of_ne own, there]
  made {found held} absent there := by
    by_cases own : found = place
    · subst own
      rw [entry?_put inside] at there
      exact ⟨rfl, (Option.some.inj there).symm⟩
    · rw [entry?_put_of_ne own, absent] at there
      cases there

/-- There is always something at the root. -/
theorem inside_of_absent (absent : disk.entry? place = none) : place ≠ [] := by
  rintro rfl
  cases absent

/-! ## Making a folder -/

/-- A folder that is made stands at a free place that the path leads to. -/
theorem makeFolder_ok (made : disk.makeFolder path = .ok after) :
    ∃ place, disk.locate path = .ok place ∧ disk.entry? place = none ∧ path.isNamed ∧
      after = disk.put place .folder := by
  unfold makeFolder at made
  cases located : disk.locate path with
  | error error => simp [located] at made
  | ok place =>
      cases found : disk.entry? place with
      | some held => simp [located, found] at made
      | none =>
          by_cases named : path.isNamed
          · simp only [located, found, named, if_true, Except.ok.injEq] at made
            exact ⟨place, rfl, found, named, made.symm⟩
          · simp [located, found, named] at made

/-- The folder that a path leads to is all that making it can gain. -/
theorem makeFolder_gains (made : disk.makeFolder path = .ok after) :
    disk.Gains (fun place entry => place = path.destination disk.here ∧ entry = .folder) after := by
  obtain ⟨place, located, absent, -, rfl⟩ := makeFolder_ok made
  obtain ⟨-, -, -, rfl⟩ := locate_ok_iff.mp located
  exact put_gains (inside_of_absent absent) fun held there => by
    rw [absent] at there
    cases there

/-- Ensuring a folder gains at most that folder, at the destination of its path. -/
theorem ensureFolder_gains (disk : Disk) (path : Path) :
    disk.Gains (fun place entry => place = path.destination disk.here ∧ entry = .folder)
      (disk.ensureFolder path).2 := by
  unfold ensureFolder
  cases made : disk.makeFolder path with
  | ok after => exact makeFolder_gains made
  | error error =>
      simp only
      split <;> exact .refl disk

/-- Whether an entry is a folder that one of some paths leads to. -/
def FolderOf (disk : Disk) (paths : List Path) (place : Place) (entry : Entry) : Prop :=
  ∃ above ∈ paths, place = above.destination disk.here ∧ entry = .folder

/-- To make folders gains no more than these folders. -/
theorem makeChain_gains (disk : Disk) (paths : List Path) :
    disk.Gains (disk.FolderOf paths) (disk.makeChain paths).2 := by
  induction paths with
  | nil => exact .refl disk
  | cons path above inductionHypothesis =>
      have later : disk.Gains (disk.FolderOf (path :: above)) (disk.makeChain above).2 :=
        inductionHypothesis.mono fun place entry ⟨way, listed, made⟩ =>
          ⟨way, List.mem_cons_of_mem path listed, made⟩
      have first (middle : Disk) (here : middle.here = disk.here) :
          middle.Gains (disk.FolderOf (path :: above)) (middle.ensureFolder path).2 :=
        (ensureFolder_gains middle path).mono fun place entry ⟨there, made⟩ =>
          ⟨path, List.mem_cons_self, here ▸ there, made⟩
      unfold makeChain
      split
      · split
        · rename_i middle chained
          rw [chained] at later
          exact later.trans (first middle later.here)
        · exact later
      · exact first disk rfl

/-! ## Disks with folders around everything -/

/-- A disk that is seen from a folder, and that has a folder around everything on it. -/
structure Rooted (disk : Disk) : Prop where
  home : disk.entry? disk.here = some .folder
  around : ∀ {place entry}, disk.entry? place = some entry →
    disk.entry? place.dropLast = some .folder

/-- In a rooted disk every path starts at a folder. -/
theorem Rooted.start (rooted : disk.Rooted) (path : Path) :
    disk.entry? (path.start disk.here) = some .folder := by
  unfold Path.start
  split
  · rfl
  · exact rooted.home

/-- Making a folder leaves the disk rooted. -/
theorem makeFolder_rooted (rooted : disk.Rooted) (made : disk.makeFolder path = .ok after) :
    after.Rooted := by
  have gains := makeFolder_gains made
  obtain ⟨place, located, absent, named, rfl⟩ := makeFolder_ok made
  obtain ⟨-, -, passable, rfl⟩ := locate_ok_iff.mp located
  obtain ⟨before, name, ends⟩ := Path.isNamed_iff.mp named
  have folder := (passable before (.into name) [] ends).1
  have parent : (path.destination disk.here).dropLast =
      before.foldl Move.from (path.start disk.here) := by
    rw [Path.destination, ends, List.foldl_concat, Move.from, List.dropLast_concat]
  refine ⟨gains.kept rooted.home, fun {found held} there => gains.kept ?_⟩
  by_cases own : found = path.destination disk.here
  · rw [own, parent, folder]
  · rw [entry?_put_of_ne own] at there
    exact rooted.around there

/-- Ensuring a folder leaves the disk rooted, whether it succeeds or not. -/
theorem ensureFolder_rooted (rooted : disk.Rooted) (path : Path) :
    (disk.ensureFolder path).2.Rooted := by
  unfold ensureFolder
  cases made : disk.makeFolder path with
  | ok after => exact makeFolder_rooted rooted made
  | error error =>
      simp only
      split <;> exact rooted

/-- Making a chain of folders leaves the disk rooted, whether it succeeds or not. -/
theorem makeChain_rooted (rooted : disk.Rooted) (paths : List Path) :
    (disk.makeChain paths).2.Rooted := by
  induction paths with
  | nil => exact rooted
  | cons path above inductionHypothesis =>
      unfold makeChain
      split
      · split
        · rename_i middle chained
          rw [chained] at inductionHypothesis
          exact ensureFolder_rooted inductionHypothesis path
        · exact inductionHypothesis
      · exact ensureFolder_rooted rooted path

/-! ## Making the folders above a path -/

/-- To make sure of a folder succeeds where the path can be followed and leads to no file. -/
theorem ensureFolder_ok (located : disk.locate path = .ok place)
    (noFile : ∀ content, disk.entry? place ≠ some (.file content))
    (named : disk.entry? place = none → path.isNamed) :
    ∃ after, disk.ensureFolder path = (.ok (), after) ∧ after.entry? place = some .folder := by
  unfold ensureFolder makeFolder
  cases found : disk.entry? place with
  | none =>
      simp only [located, found, named found, if_true]
      exact ⟨_, rfl, entry?_put (inside_of_absent found) disk .folder⟩
  | some held =>
      cases held with
      | file content => exact absurd found (noFile content)
      | folder =>
          have isFolder : disk.isFolder path := by simp [isFolder, located, found, Except.map]
          simp only [located, found, isFolder, if_true]
          exact ⟨disk, rfl, found⟩

/-- A folder that cannot be made for want of the one above it is made behind the chain above. -/
theorem makeChain_cons_of_lacking {above : List Path}
    (lacking : disk.makeFolder path = .error .notFound)
    (chained : disk.makeChain above = (.ok (), middle)) :
    disk.makeChain (path :: above) = middle.ensureFolder path := by
  simp only [makeChain, lacking, chained]

/-- A folder that is not wanting the one above it is made by itself. -/
theorem makeChain_cons_of_not_lacking {above : List Path}
    (found : disk.makeFolder path ≠ .error .notFound) :
    disk.makeChain (path :: above) = disk.ensureFolder path := by
  unfold makeChain
  split
  · rename_i lacking
    exact absurd lacking found
  · rfl

/-- Nothing but folders is made along a way, so no file comes to stand on it. -/
theorem no_file_after {paths : List Path}
    (noFile : ∀ content, disk.entry? place ≠ some (.file content)) (content : Content) :
    entry? (disk.makeChain paths).2 place ≠ some (.file content) := by
  have gains := makeChain_gains disk paths
  intro there
  cases found : disk.entry? place with
  | none =>
      obtain ⟨above, -, -, isFolder⟩ := gains.made found there
      cases isFolder
  | some held =>
      obtain rfl : held = .file content := Option.some.inj ((gains.kept found).symm.trans there)
      exact noFile content found

/-- Whether nothing is in the way of making the folders along a way, which is given from its end
on. -/
structure Clear (disk : Disk) (path : Path) (reversed : List Move) : Prop where
  clean : ∀ moves ∈ Path.beginnings reversed, (path.along moves).hasNul = false
  small : ∀ moves ∈ Path.beginnings reversed, Path.spelledSize moves < Path.limit
  short : ∀ name, .into name ∈ reversed → name.utf8ByteSize ≤ nameLimit
  noFile : ∀ moves ∈ Path.beginnings reversed, ∀ content,
    disk.entry? (moves.foldl Move.from (path.start disk.here)) ≠ some (.file content)

/-- Whether the folders along a way are there. -/
def Lined (disk : Disk) (path : Path) (reversed : List Move) : Prop :=
  ∀ moves ∈ Path.beginnings reversed,
    disk.entry? (moves.foldl Move.from (path.start disk.here)) = some .folder

namespace Clear

variable {move : Move} {rest reversed : List Move}

/-- A way that is clear is clear with its last move left out. -/
theorem tail (clear : disk.Clear path (move :: rest)) : disk.Clear path rest := by
  have later (moves : List Move) (listed : moves ∈ Path.beginnings rest) :
      moves ∈ Path.beginnings (move :: rest) := by
    by_cases staying : move = .stay
    · subst staying
      exact listed
    · rw [Path.beginnings_cons staying]
      exact List.mem_cons_of_mem _ listed
  exact {
    clean := fun moves listed => clear.clean moves (later moves listed)
    small := fun moves listed => clear.small moves (later moves listed)
    short := fun name listed => clear.short name (List.mem_cons_of_mem move listed)
    noFile := fun moves listed => clear.noFile moves (later moves listed) }

/-- To make folders puts nothing in the way. -/
theorem after_chain (clear : disk.Clear path reversed) (paths : List Path) :
    (disk.makeChain paths).2.Clear path reversed where
  clean := clear.clean
  small := clear.small
  short := clear.short
  noFile moves listed := by
    rw [(makeChain_gains disk paths).here]
    exact no_file_after (clear.noFile moves listed)

/-- The names on the way are short. -/
theorem short_on_way (clear : disk.Clear path (move :: rest)) {first : List Move} {next : Move}
    {later : List Move} (same : rest.reverse ++ [move] = first ++ next :: later) (name : String)
    (own : next = .into name) : name.utf8ByteSize ≤ nameLimit := by
  subst own
  refine clear.short name ?_
  have listed : .into name ∈ rest.reverse ++ [move] := same ▸ by simp
  simpa [or_comm] using listed

/-- A way is passable if the folders before its end are there. -/
theorem passable (clear : disk.Clear path (move :: rest)) (rooted : disk.Rooted)
    (lined : disk.Lined path rest) :
    disk.Passable (path.start disk.here) (rest.reverse ++ [move]) := fun first next later same =>
  ⟨along_way (p := fun place => disk.entry? place = some .folder) (rooted.start path) lined first
    next later same, clear.short_on_way same⟩

/-- The folder at the end of a way can be made sure of if those before it are there. -/
theorem ensure_end (clear : disk.Clear path (move :: rest)) (rooted : disk.Rooted)
    (moving : move ≠ .stay) (lined : disk.Lined path rest) :
    ∃ after, disk.ensureFolder (path.along (rest.reverse ++ [move])) = (.ok (), after) ∧
      after.Lined path (move :: rest) := by
  have passable := clear.passable rooted lined
  have whole := Path.beginnings_cons moving rest
  have own : rest.reverse ++ [move] ∈ Path.beginnings (move :: rest) := by
    rw [whole, List.reverse_cons]
    exact List.mem_cons_self
  have located := locate_ok_iff.mpr ⟨clear.clean _ own, clear.small _ own, passable, rfl⟩
  have named : disk.entry? ((rest.reverse ++ [move]).foldl Move.from (path.start disk.here)) =
      none → (path.along (rest.reverse ++ [move])).isNamed := by
    intro absent
    cases move with
    | stay => exact absurd rfl moving
    | into name => exact Path.isNamed_iff.mpr ⟨rest.reverse, name, rfl⟩
    | up =>
        have around := rooted.around (passable.folder List.prefix_rfl)
        rw [List.foldl_concat] at absent
        exact absurd (absent.symm.trans around) (by simp)
  obtain ⟨after, ensured, made⟩ := ensureFolder_ok located (clear.noFile _ own) named
  have gains := ensureFolder_gains disk (path.along (rest.reverse ++ [move]))
  rw [ensured] at gains
  refine ⟨after, ensured, fun moves listed => ?_⟩
  rw [gains.here]
  rw [whole, List.reverse_cons, List.mem_cons] at listed
  rcases listed with rfl | listed
  · exact made
  · exact gains.kept (lined moves listed)

end Clear

/-- All folders along a way are made, from the outermost on, if nothing is in the way. -/
theorem makeChain_along (rooted : disk.Rooted) {reversed : List Move}
    (clear : disk.Clear path reversed) :
    ∃ after, disk.makeChain ((Path.beginnings reversed).map path.along) = (.ok (), after) ∧
      after.Lined path reversed := by
  induction reversed with
  | nil => exact ⟨disk, rfl, fun moves listed => by cases listed⟩
  | cons move rest inductionHypothesis =>
      by_cases staying : move = .stay
      · subst staying
        exact inductionHypothesis clear.tail
      rw [Path.beginnings_cons staying, List.map_cons, List.reverse_cons]
      by_cases lacking : disk.makeFolder (path.along (rest.reverse ++ [move])) = .error .notFound
      · -- the folders around it are made first, and then it can be reached
        obtain ⟨middle, chained, lined⟩ := inductionHypothesis clear.tail
        have middleRooted := makeChain_rooted rooted ((Path.beginnings rest).map path.along)
        have middleClear := clear.after_chain ((Path.beginnings rest).map path.along)
        rw [chained] at middleRooted middleClear
        rw [makeChain_cons_of_lacking lacking chained]
        exact middleClear.ensure_end middleRooted staying lined
      · -- it can be reached as it is, so the folders around it are there
        have own : rest.reverse ++ [move] ∈ Path.beginnings (move :: rest) := by
          rw [Path.beginnings_cons staying, List.reverse_cons]
          exact List.mem_cons_self
        have reached : disk.locate (path.along (rest.reverse ++ [move])) = .error .notFound ∨ _ :=
          locate_eq_or (clear.clean _ own) (clear.small _ own) fun first next later same =>
            ⟨along_way (p := fun place => ∀ content, disk.entry? place ≠ some (.file content))
              (by simp [rooted.start path]) clear.tail.noFile first next later same,
              clear.short_on_way same⟩
        have located := reached.resolve_left fun error => lacking (by simp [makeFolder, error])
        obtain ⟨-, -, passable, -⟩ := locate_ok_iff.mp located
        rw [makeChain_cons_of_not_lacking lacking]
        exact clear.ensure_end rooted staying fun moves listed =>
          passable.folder (Path.prefix_of_mem_beginnings listed)

/-! ## Making the file -/

/-- A file that is touched keeps its content, or is new and empty. -/
theorem touch_ok (touched : disk.touch path = .ok after) :
    ∃ place content, disk.locate path = .ok place ∧ path.slashed = false ∧ path.isNamed ∧
      (disk.entry? place = some (.file content) ∨
        disk.entry? place = none ∧ content = .text "") ∧
      after = disk.put place (.file content) := by
  unfold touch writeWith at touched
  cases located : disk.locate path with
  | error error => simp [located] at touched
  | ok place =>
      simp only [located] at touched
      split at touched
      · cases touched
      · rename_i plain
        simp only [Bool.or_eq_true, Bool.not_eq_true', not_or, Bool.not_eq_true,
          Bool.not_eq_false] at plain
        cases found : disk.entry? place with
        | none =>
            simp only [found] at touched
            cases touched
            exact ⟨place, .text "", rfl, plain.1, plain.2, .inr ⟨found, rfl⟩, rfl⟩
        | some held =>
            cases held with
            | folder => simp [found] at touched
            | file content =>
                simp only [found] at touched
                cases touched
                exact ⟨place, content, rfl, plain.1, plain.2, .inl found, rfl⟩

/-- A named path without a slash at its end can be touched, unless it leads to a folder. -/
theorem exists_touch (located : disk.locate path = .ok place) (unslashed : path.slashed = false)
    (named : path.isNamed) (free : disk.entry? place ≠ some .folder) :
    ∃ after, disk.touch path = .ok after := by
  unfold touch writeWith
  simp only [located, unslashed, named]
  cases found : disk.entry? place with
  | none => exact ⟨_, rfl⟩
  | some held =>
      cases held with
      | folder => exact absurd found free
      | file content => exact ⟨_, rfl⟩

/-- To make sure of a file is to make the folders above it, and then the file. -/
theorem ensureFile_cases (disk : Disk) (path : Path) :
    (∃ middle after, disk.makeChain path.above = (.ok (), middle) ∧ middle.touch path = .ok after ∧
        disk.ensureFile path = (.ok (), after)) ∨
      ∃ error, disk.ensureFile path = (.error error, (disk.makeChain path.above).2) := by
  unfold ensureFile
  cases chained : disk.makeChain path.above with
  | mk result middle =>
      cases result with
      | error error => exact .inr ⟨error, rfl⟩
      | ok done =>
          cases touched : middle.touch path with
          | error error => exact .inr ⟨error, by simp [settle, touched]⟩
          | ok after => exact .inl ⟨middle, after, rfl, touched, by simp [settle, touched]⟩

/-! ## What is made of a file and its folders -/

/-- What is left of a disk when one has tried to make sure of a file. -/
structure Ensured (disk : Disk) (path : Path) (outcome : Except FileError Unit × Disk) : Prop where
  /-- all that is new are folders above the file, and the file if it was missing -/
  gains : disk.Gains
    (fun place entry => disk.FolderOf path.above place entry ∨
      outcome.1 = .ok () ∧ place = path.destination disk.here ∧ entry = .file (.text ""))
    outcome.2
  /-- the file is there -/
  file : outcome.1 = .ok () → ∃ content,
    entry? outcome.2 (path.destination disk.here) = some (.file content)
  /-- the folders are there -/
  folders : outcome.1 = .ok () → ∀ above ∈ path.above,
    entry? outcome.2 (above.destination disk.here) = some .folder

/-- The folders above a path that can be followed are there. -/
theorem folders_of_locate (located : disk.locate path = .ok place) (named : path.isNamed) :
    ∀ above ∈ path.above, disk.entry? (above.destination disk.here) = some .folder := by
  obtain ⟨-, -, passable, -⟩ := locate_ok_iff.mp located
  obtain ⟨before, name, ends⟩ := Path.isNamed_iff.mp named
  rw [Path.above_eq ends, List.forall_mem_map]
  intro moves listed
  rw [ends] at passable
  have starts := Path.prefix_of_mem_beginnings listed
  rw [List.reverse_reverse] at starts
  exact passable.folder starts

/-- Ensuring a file does what `Ensured` says, on every disk and for every path. -/
theorem ensureFile_ensured (disk : Disk) (path : Path) :
    disk.Ensured path (disk.ensureFile path) := by
  have chainGains := makeChain_gains disk path.above
  rcases ensureFile_cases disk path with ⟨middle, after, chained, touched, same⟩ | ⟨error, same⟩
  · rw [chained] at chainGains
    obtain ⟨place, content, located, -, named, held, rfl⟩ := touch_ok touched
    have folders := folders_of_locate located named
    obtain ⟨-, -, -, rfl⟩ := locate_ok_iff.mp located
    rw [chainGains.here] at held folders same
    have inside : path.destination disk.here ≠ [] := by
      intro root
      rw [root] at held
      rcases held with file | ⟨absent, -⟩
      · cases file
      · cases absent
    have unchanged : ∀ found, middle.entry? (path.destination disk.here) = some found →
        found = .file content := by
      intro found there
      rcases held with file | ⟨absent, -⟩
      · exact Option.some.inj (there.symm.trans file)
      · rw [absent] at there
        cases there
    have fileGains := put_gains inside unchanged
    rw [same]
    refine ⟨?_, fun _ => ⟨content, entry?_put inside middle _⟩,
      fun _ above listed => fileGains.kept (folders above listed)⟩
    refine ⟨fileGains.here.trans chainGains.here,
      fun there => fileGains.kept (chainGains.kept there), ?_⟩
    intro place entry absent there
    cases between : middle.entry? place with
    | some found =>
        obtain rfl : found = entry := Option.some.inj ((fileGains.kept between).symm.trans there)
        exact .inl (chainGains.made absent between)
    | none =>
        obtain ⟨rfl, rfl⟩ := fileGains.made between there
        rcases held with file | ⟨-, rfl⟩
        · rw [between] at file
          cases file
        · exact .inr ⟨rfl, rfl, rfl⟩
  · rw [same]
    refine ⟨chainGains.mono fun _ _ => .inl, fun done => ?_, fun done => ?_⟩
    · cases done
    · cases done

/-! ## When all goes well -/

/-- Whether a path is one that a file can have, and nothing on a disk is in its way. -/
structure Admits (disk : Disk) (path : Path) : Prop where
  named : path.isNamed
  unslashed : path.slashed = false
  clean : path.hasNul = false
  small : path.size < Path.limit
  short : ∀ name, .into name ∈ path.moves → name.utf8ByteSize ≤ nameLimit
  /-- no folder above it would have to be where a file is -/
  noFile : ∀ above ∈ path.above, ∀ content,
    disk.entry? (above.destination disk.here) ≠ some (.file content)
  /-- it does not lead back to a folder above it -/
  apart : ∀ above ∈ path.above, above.destination disk.here ≠ path.destination disk.here
  /-- it does not lead to a folder -/
  free : disk.entry? (path.destination disk.here) ≠ some .folder

/-- A file that was ensured is one that the disk admits. -/
theorem admits_of_ok (done : (disk.ensureFile path).1 = .ok ()) : disk.Admits path := by
  have gains := makeChain_gains disk path.above
  rcases ensureFile_cases disk path with ⟨middle, after, chained, touched, -⟩ | ⟨error, same⟩
  · rw [chained] at gains
    obtain ⟨place, content, located, unslashed, named, held, -⟩ := touch_ok touched
    have folders := folders_of_locate located named
    obtain ⟨clean, small, passable, rfl⟩ := locate_ok_iff.mp located
    rw [gains.here] at held folders
    have noFolder : middle.entry? (path.destination disk.here) ≠ some .folder := by
      intro folder
      rcases held with file | ⟨absent, -⟩
      · rw [folder] at file
        cases file
      · rw [folder] at absent
        cases absent
    exact {
      named := named
      unslashed := unslashed
      clean := clean
      small := small
      short := fun name listed => by
        obtain ⟨first, later, same⟩ := List.append_of_mem listed
        exact (passable first (.into name) later same).2 name rfl
      noFile := fun above listed content file => by
        have folder := folders above listed
        rw [gains.kept file] at folder
        cases folder
      apart := fun above listed same => noFolder (same ▸ folders above listed)
      free := fun folder => noFolder (gains.kept folder) }
  · rw [same] at done
    cases done

/-- Nothing is in the way of the folders above an admitted path. -/
theorem Admits.clear {text name : String} {before : List Move}
    (admits : disk.Admits (Path.read text))
    (ends : (Path.read text).moves = before ++ [.into name]) :
    disk.Clear (Path.read text) before.reverse where
  clean moves listed := by
    have starts := Path.prefix_of_mem_beginnings listed
    rw [List.reverse_reverse] at starts
    have all := admits.clean
    unfold Path.hasNul at all ⊢
    rw [List.any_eq_false] at all ⊢
    exact fun move member => all move (ends ▸ List.mem_append_left _ (starts.subset member))
  small moves listed := Nat.lt_of_le_of_lt (Path.spelledSize_le ends listed) admits.small
  short name listed := admits.short name (ends ▸ by simp [List.mem_reverse.mp listed])
  noFile moves listed := by
    have noFile := admits.noFile
    rw [Path.above_eq ends, List.forall_mem_map] at noFile
    exact noFile moves listed

/-- One can make sure of a file exactly if the disk admits its path. -/
theorem ensureFile_ok_iff (rooted : disk.Rooted) (text : String) :
    (disk.ensureFile (Path.read text)).1 = .ok () ↔ disk.Admits (Path.read text) := by
  refine ⟨admits_of_ok, fun admits => ?_⟩
  obtain ⟨before, name, ends⟩ := Path.isNamed_iff.mp admits.named
  have clear := admits.clear ends
  obtain ⟨middle, chained, lined⟩ := makeChain_along rooted clear
  rw [← Path.above_eq ends] at chained
  have gains := makeChain_gains disk (Path.read text).above
  have middleRooted := makeChain_rooted rooted (Path.read text).above
  rw [chained] at gains middleRooted
  have passable : middle.Passable ((Path.read text).start middle.here) (Path.read text).moves := by
    rw [ends, ← List.reverse_reverse before]
    intro first next later same
    refine ⟨along_way (p := fun place => middle.entry? place = some .folder)
      (middleRooted.start _) lined first next later same, ?_⟩
    rintro own rfl
    refine admits.short own ?_
    rw [ends, ← List.reverse_reverse before, same]
    simp
  have located := locate_ok_iff.mpr ⟨admits.clean, admits.small, passable, rfl⟩
  have free : middle.entry? ((Path.read text).destination middle.here) ≠ some .folder := by
    rw [gains.here]
    intro folder
    cases found : disk.entry? ((Path.read text).destination disk.here) with
    | none =>
        obtain ⟨above, listed, same, -⟩ := gains.made found folder
        exact admits.apart above listed same.symm
    | some held =>
        obtain rfl : held = .folder := Option.some.inj ((gains.kept found).symm.trans folder)
        exact admits.free found
  obtain ⟨after, touched⟩ := exists_touch located admits.unslashed admits.named free
  simp [ensureFile, chained, settle, touched]

end MemoStore.Files.Disk
