import MemoStore.Store.Row

/-!
# Tables

The rows of a table in the order in which they were stored, with the largest key the
table ever held. A new key is one more than that, so a key is never given twice, not
even after its row is gone.
-/

namespace MemoStore.Store

/-- A table. -/
structure Table (α : Type) where
  rows : List α := []
  lastKey : Int := 0
  deriving Repr

namespace Table

variable {α : Type} [Keyed α]

/-- The key of the next row that brings none of its own. -/
def nextKey (table : Table α) : Int :=
  table.lastKey + 1

/-- The row with a key. -/
def find? (table : Table α) (key : Int) : Option α :=
  table.rows.find? fun row => Keyed.key row == key

/-- Whether a row with a key is stored. -/
def holds (table : Table α) (key : Int) : Bool :=
  table.rows.any fun row => Keyed.key row == key

/-- Stores a new row. -/
def add (table : Table α) (row : α) : Table α where
  rows := table.rows ++ [row]
  lastKey := max table.lastKey (Keyed.key row)

/-- Puts a row in the place of the one with its key. -/
def replace (table : Table α) (row : α) : Table α :=
  { table with
    rows := table.rows.map fun old => if Keyed.key old == Keyed.key row then row else old }

/-- Drops the rows that satisfy `p`. The largest key stays. -/
def remove (table : Table α) (p : α → Bool) : Table α :=
  { table with rows := table.rows.filter fun row => !p row }

/-- Forgets the largest key the table ever held, apart from the stored ones. -/
def forgetKey (table : Table α) : Table α :=
  { table with lastKey := table.rows.foldl (fun key row => max key (Keyed.key row)) 0 }

end Table

end MemoStore.Store
