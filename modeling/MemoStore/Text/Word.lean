import MemoStore.Text.Category

/-!
# Word characters

The class of characters that names in engine messages are made of: alphabetic
characters, marks, decimal digits, connector punctuation and the two join controls.
ASCII is decided directly, everything above it by its category in Unicode 16.
-/

namespace MemoStore.Text

/-- The letters in circles and squares, which count as alphabetic symbols. -/
def enclosedLetters : List (Nat × Nat) :=
  [(0x24B6, 0x24E9), (0x1F130, 0x1F149), (0x1F150, 0x1F169), (0x1F170, 0x1F189)]

/-- Whether a character controls how its neighbours join. -/
def isJoinControl (c : Char) : Bool :=
  c == '\u200C' || c == '\u200D'

/-- Whether a character above ASCII is a word character. -/
def isWideWord (c : Char) : Bool :=
  let category := formerCategory c
  category.isLetter || category.isMark || category == .nl || category == .nd ||
    category == .pc || isJoinControl c || inRanges enclosedLetters c.toNat

/-- Whether a character may be part of a name: inside ASCII the letters, the digits
and the underscore. -/
def isWord (c : Char) : Bool :=
  if c.toNat < 128 then c.isAlphanum || c == '_' else isWideWord c

end MemoStore.Text
