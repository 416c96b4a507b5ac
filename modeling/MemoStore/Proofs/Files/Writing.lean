import MemoStore.Files.Disk

/-!
# What a write leaves

A write puts a file where the path leads, which is never a folder. So it changes nothing on the
way there (`Disk.follow_put`), and the path still leads to the file after it (`Disk.write_ok`).
-/

namespace MemoStore.Files.Disk

variable {disk after : Disk} {place other : Place} {entry : Entry} {path : Path}

/-- Whether a path leads to a file with a text. -/
def Holds (disk : Disk) (path : Path) (text : String) : Prop :=
  ∃ place, disk.locate path = .ok place ∧ disk.entry? place = some (.file (.text text))

/-- A path leads to one text at most. -/
theorem Holds.unique {text text' : String} (first : disk.Holds path text)
    (second : disk.Holds path text') : text = text' := by
  obtain ⟨place, located, held⟩ := first
  obtain ⟨place', located', held'⟩ := second
  cases located.symm.trans located'
  cases held.symm.trans held'
  rfl

/-! ## Entries -/

/-- An entry that was put is found at its place. -/
theorem entry?_put (inside : place ≠ []) (disk : Disk) (entry : Entry) :
    Disk.entry? (disk.put place entry) place = some entry := by
  have absent : (disk.entries.filter fun found => found.1 != place).lookup place = none := by
    refine List.lookup_eq_none_iff.mpr fun found member => ?_
    have apart := bne_iff_ne.mp (List.mem_filter.mp member).2
    simpa using apart.symm
  simp only [ entry?, put, List.isEmpty_eq_false_iff.mpr inside, List.lookup_append, absent]
  simp

/-- An entry that is put leaves the other places as they were. -/
theorem entry?_put_of_ne (apart : other ≠ place) (disk : Disk) (entry : Entry) :
    Disk.entry? (disk.put place entry) other = disk.entry? other := by
  have kept (entries : List (Place × Entry)) :
      (entries.filter fun found => found.1 != place).lookup other = entries.lookup other := by
    induction entries with
    | nil => rfl
    | cons found rest inductionHypothesis =>
        obtain ⟨own, held⟩ := found
        by_cases same : own = place
        · have elsewhere : (other == own) = false := beq_false_of_ne (same ▸ apart)
          simpa [same, List.lookup_cons, same ▸ elsewhere] using inductionHypothesis
        · simp [same, List.lookup_cons, inductionHypothesis]
  have elsewhere : (other == place) = false := beq_false_of_ne apart
  simp [ entry?, put, List.lookup_append, kept, List.lookup_cons, elsewhere]

/-! ## Ways -/

/-- What is put where there is no folder is on no way. -/
theorem follow_put (unfoldered : disk.entry? place ≠ some .folder) {start destination : Place}
    {moves : List Move} (followed : disk.follow start moves = .ok destination) :
    (disk.put place entry).follow start moves = .ok destination := by
  induction moves generalizing start with
  | nil => exact followed
  | cons move rest inductionHypothesis =>
      unfold follow at followed ⊢
      cases found : disk.entry? start with
      | none => simp [found] at followed
      | some held =>
          cases held with
          | file content => simp [found] at followed
          | folder =>
              have apart : start ≠ place := by
                rintro rfl
                exact unfoldered found
              rw [found] at followed
              rw [entry?_put_of_ne apart, found]
              cases move with
              | stay => exact inductionHypothesis followed
              | up => exact inductionHypothesis followed
              | into name =>
                  simp only at followed ⊢
                  split at followed
                  · cases followed
                  · rename_i short
                    rw [if_neg short]
                    exact inductionHypothesis followed

/-- A path leads where it led, when the entry is put at a place that was no folder. -/
theorem locate_put (unfoldered : disk.entry? place ≠ some .folder) {destination : Place}
    (located : disk.locate path = .ok destination) :
    (disk.put place entry).locate path = .ok destination := by
  unfold locate at located ⊢
  split at located
  · cases located
  · rename_i clean
    split at located
    · cases located
    · rename_i short
      rw [if_neg clean, if_neg short]
      exact follow_put unfoldered located

/-! ## Writes -/

/-- A text that was written is there. -/
theorem write_ok {text : String} (written : disk.write path text = .ok after) :
    after.Holds path text := by
  unfold write writeWith at written
  cases located : disk.locate path with
  | error error => simp [located] at written
  | ok place =>
      have put_holds (unfoldered : disk.entry? place ≠ some .folder) :
          (disk.put place (.file (.text text))).Holds path text := by
        have inside : place ≠ [] := by
          rintro rfl
          exact unfoldered rfl
        exact ⟨place, locate_put unfoldered located, entry?_put inside disk _⟩
      simp only [located] at written
      split at written
      · cases written
      · cases found : disk.entry? place with
        | none =>
            simp only [found] at written
            cases written
            exact put_holds (by simp [found])
        | some held =>
            cases held with
            | folder => simp [found] at written
            | file content =>
                simp only [found] at written
                cases written
                exact put_holds (by simp [found])

end MemoStore.Files.Disk
