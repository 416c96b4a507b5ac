import Mathlib.Data.List.Pairwise
import MemoStore.Store.Table

/-!
# Rows of a table

What adding, replacing and removing rows does to the keys of a table and to a property of
all pairs of its rows. Keys never change their row: a row is replaced by one of the same
key, so the keys are what they were.
-/

namespace MemoStore.Store.Table

variable {α : Type} [Keyed α] {table : Table α} {row : α} {key : Int}

/-- A row with a key is among the rows of a table. -/
def Stores (table : Table α) (key : Int) : Prop :=
  ∃ row ∈ table.rows, Keyed.key row = key

/-- No two rows of a table have the same key. -/
def DistinctKeys (table : Table α) : Prop :=
  table.rows.Pairwise fun a b => Keyed.key a ≠ Keyed.key b

/-- The lookup of a key finds exactly the stored keys. -/
theorem holds_iff : table.holds key = true ↔ table.Stores key := by
  simp only [holds, Stores, List.any_eq_true, beq_iff_eq]

/-- A key that the lookup does not find belongs to no stored row. -/
theorem not_stores_of_holds (new : (!table.holds key) = true) : ¬ table.Stores key := by
  rw [← holds_iff]
  simpa using new

/-- The row that is found by its key is stored and has that key. -/
theorem mem_of_find? (found : table.find? key = some row) :
    row ∈ table.rows ∧ Keyed.key row = key :=
  ⟨List.mem_of_find?_eq_some found, by simpa using List.find?_some found⟩

/-- Two stored rows with the same key are the same. -/
theorem DistinctKeys.eq (distinct : table.DistinctKeys) {other : α} (stored : row ∈ table.rows)
    (otherStored : other ∈ table.rows) (same : Keyed.key row = Keyed.key other) : row = other := by
  by_contra different
  have symmetric : Std.Symm fun first second : α => Keyed.key first ≠ Keyed.key second :=
    ⟨fun _ _ => Ne.symm⟩
  exact List.Pairwise.forall distinct stored otherStored different same

omit [Keyed α] in
/-- A row is found if no other one satisfies `p`. -/
theorem find?_of_unique {rows : List α} {p : α → Bool} (member : row ∈ rows)
    (chosen : p row = true) (unique : ∀ other ∈ rows, p other = true → other = row) :
    rows.find? p = some row := by
  cases found : rows.find? p with
  | none => exact absurd chosen (List.find?_eq_none.mp found row member)
  | some other =>
      rw [unique other (List.mem_of_find?_eq_some found) (List.find?_some found)]

/-- A stored row is found by its key. -/
theorem DistinctKeys.find? (distinct : table.DistinctKeys) (stored : row ∈ table.rows) :
    table.find? (Keyed.key row) = some row :=
  find?_of_unique stored (beq_self_eq_true _) fun _ member same =>
    distinct.eq member stored (beq_iff_eq.mp same)

/-- Where a key is not stored, all rows are other ones. -/
theorem any_other (new : ¬ table.Stores key) (p : α → Bool) :
    table.rows.any p = table.rows.any fun row => Keyed.key row != key && p row := by
  rw [Bool.eq_iff_iff, List.any_eq_true, List.any_eq_true]
  refine exists_congr fun row => and_congr_right fun member => ?_
  have different : Keyed.key row ≠ key := fun same => new ⟨row, member, same⟩
  rw [bne_iff_ne.mpr different, Bool.true_and]

/-- Whether a stored key satisfies `p` can be asked of the rows. -/
theorem any_key_of_stores {p : Int → Bool} (stored : table.Stores key) :
    (table.rows.any fun row => Keyed.key row == key && p (Keyed.key row)) = p key := by
  obtain ⟨row, member, rfl⟩ := stored
  rw [Bool.eq_iff_iff, List.any_eq_true]
  constructor
  · rintro ⟨other, -, both⟩
    simp only [Bool.and_eq_true, beq_iff_eq] at both
    rw [← both.1]
    exact both.2
  · intro chosen
    exact ⟨row, member, by simp [chosen]⟩

/-! ## Adding a row -/

/-- The rows of a table with one more are the old ones and the new one. -/
theorem mem_add {other : α} : other ∈ (table.add row).rows ↔ other ∈ table.rows ∨ other = row := by
  simp [add]

/-- A key that is stored stays stored when a row is added. -/
theorem Stores.add (stored : table.Stores key) : (table.add row).Stores key := by
  obtain ⟨other, member, rfl⟩ := stored
  exact ⟨other, mem_add.mpr (.inl member), rfl⟩

/-- A new row that fits all the others keeps what holds of all pairs. -/
theorem pairwise_add {R : α → α → Prop} (pairwise : table.rows.Pairwise R)
    (fits : ∀ other ∈ table.rows, R other row) : (table.add row).rows.Pairwise R := by
  rw [add, List.pairwise_append]
  refine ⟨pairwise, List.pairwise_singleton R row, fun other member new isNew => ?_⟩
  rw [List.mem_singleton.mp isNew]
  exact fits other member

/-- A row with a new key keeps the keys distinct. -/
theorem DistinctKeys.add (distinct : table.DistinctKeys)
    (new : ¬ table.Stores (Keyed.key row)) : (table.add row).DistinctKeys :=
  pairwise_add distinct fun other member same => new ⟨other, member, same⟩

/-! ## Replacing a row -/

/-- A row of a table with one replaced is the new row or an old one. -/
theorem mem_replace {other : α} (replaced : other ∈ (table.replace row).rows) :
    other = row ∨ other ∈ table.rows := by
  obtain ⟨old, member, rfl⟩ := List.mem_map.mp replaced
  split
  · exact .inl rfl
  · exact .inr member

/-- A row that takes the place of a stored one is stored. -/
theorem mem_replace_self {old : α} (stored : old ∈ table.rows)
    (same : Keyed.key old = Keyed.key row) : row ∈ (table.replace row).rows :=
  List.mem_map.mpr ⟨old, stored, by simp [same]⟩

/-- A key that is stored stays stored when a row is replaced. -/
theorem Stores.replace (stored : table.Stores key) : (table.replace row).Stores key := by
  obtain ⟨old, member, rfl⟩ := stored
  refine ⟨_, List.mem_map_of_mem member, ?_⟩
  split
  · rename_i same
    exact (beq_iff_eq.mp same).symm
  · rfl

/-- A row that fits all rows of other keys keeps what holds of all pairs when it takes the
place of the row with its key. -/
theorem pairwise_replace {R : α → α → Prop} (distinct : table.DistinctKeys)
    (pairwise : table.rows.Pairwise R)
    (fits : ∀ other ∈ table.rows, Keyed.key other ≠ Keyed.key row → R other row ∧ R row other) :
    (table.replace row).rows.Pairwise R := by
  rw [replace, List.pairwise_map]
  have both := List.Pairwise.and distinct pairwise
  refine both.imp_of_mem fun {a b} aMember bMember related => ?_
  obtain ⟨different, holds⟩ := related
  by_cases aSame : Keyed.key a = Keyed.key row
  · have bOther : Keyed.key b ≠ Keyed.key row := fun bSame => different (aSame.trans bSame.symm)
    simp only [aSame, beq_self_eq_true, if_true, beq_iff_eq, bOther, if_false]
    exact (fits b bMember bOther).2
  · by_cases bSame : Keyed.key b = Keyed.key row
    · simp only [bSame, beq_self_eq_true, if_true, beq_iff_eq, aSame, if_false]
      exact (fits a aMember aSame).1
    · simp only [beq_iff_eq, aSame, bSame, if_false]
      exact holds

/-- A replacement under its own key leaves the keys distinct. -/
theorem DistinctKeys.replace (distinct : table.DistinctKeys) :
    (table.replace row).DistinctKeys :=
  pairwise_replace distinct distinct fun _ _ different => ⟨different, different.symm⟩

/-! ## Removing rows -/

variable {p : α → Bool}

omit [Keyed α] in
/-- The rows that a removal leaves are those that it does not select. -/
theorem mem_remove {other : α} :
    other ∈ (table.remove p).rows ↔ other ∈ table.rows ∧ p other = false := by
  simp [remove]

omit [Keyed α] in
/-- Whatever holds of every two rows holds of every two that a removal leaves. -/
theorem pairwise_remove {R : α → α → Prop} (pairwise : table.rows.Pairwise R) :
    (table.remove p).rows.Pairwise R :=
  pairwise.sublist List.filter_sublist

/-- A removal leaves the keys distinct. -/
theorem DistinctKeys.remove (distinct : table.DistinctKeys) : (table.remove p).DistinctKeys :=
  pairwise_remove distinct

omit [Keyed α] in
/-- Two removals that select the same stored rows leave the same table. -/
theorem remove_congr {q : α → Bool} (same : ∀ row ∈ table.rows, p row = q row) :
    table.remove p = table.remove q := by
  unfold remove
  rw [List.filter_congr fun row member => congrArg not (same row member)]

omit [Keyed α] in
/-- A removal that selects no stored row leaves the table as it was. -/
theorem remove_none (kept : ∀ row ∈ table.rows, p row = false) : table.remove p = table := by
  have all : table.rows.filter (fun row => !p row) = table.rows := by
    rw [List.filter_eq_self]
    intro row member
    rw [kept row member]
    rfl
  unfold remove
  rw [all]

omit [Keyed α] in
/-- Two removals, one after the other, leave what one removal of both selections leaves. -/
theorem remove_remove (q : α → Bool) :
    (table.remove p).remove q = table.remove fun row => p row || q row := by
  simp [remove, List.filter_filter, Bool.and_comm]

end MemoStore.Store.Table
