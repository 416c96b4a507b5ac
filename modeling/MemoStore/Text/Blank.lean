/-!
# Blank characters and trimming

Blank characters are those with the White_Space property. The zero-width space, the
byte order mark and the information separators are not among them.
-/

namespace MemoStore.Text

/-- Whether a character has the White_Space property. -/
def isBlank (c : Char) : Bool :=
  (0x09 ≤ c.toNat && c.toNat ≤ 0x0D) || c.toNat == 0x20 || c.toNat == 0x85 ||
    c.toNat == 0xA0 || c.toNat == 0x1680 || (0x2000 ≤ c.toNat && c.toNat ≤ 0x200A) ||
    c.toNat == 0x2028 || c.toNat == 0x2029 || c.toNat == 0x202F || c.toNat == 0x205F ||
    c.toNat == 0x3000

/-- Drops the longest tail whose characters all satisfy `p`. -/
def dropTail (p : Char → Bool) (text : List Char) : List Char :=
  (text.reverse.dropWhile p).reverse

/-- Drops the blank characters at both ends. -/
def trim (text : List Char) : List Char :=
  dropTail isBlank (text.dropWhile isBlank)

/-- Drops the blank characters at both ends of a string. -/
def trimmed (text : String) : String :=
  String.ofList (trim text.toList)

end MemoStore.Text
