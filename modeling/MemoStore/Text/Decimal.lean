/-!
# Decimal numbers
-/

namespace MemoStore.Text

/-- The number that decimal digits stand for. -/
def decimalValue (digits : List Char) : Nat :=
  digits.foldl (fun value c => value * 10 + (c.toNat - 48)) 0

end MemoStore.Text
