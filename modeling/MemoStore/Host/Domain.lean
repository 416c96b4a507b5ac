import MemoStore.Host.Punycode
import MemoStore.Host.Replacement
import MemoStore.Text.Composition
import MemoStore.Text.Direction
import MemoStore.Text.Joining
import MemoStore.Text.Search

/-!
# Domain names

A domain name is made of labels with dots between them. It is first brought into the form
in which names are compared, and then its labels are checked: they begin with no mark, ask
for letters to be joined or parted only where that makes a difference, and run in one
direction each if any of them runs to the left. A label in ASCII that stands for another
is read, and must be what would be written for it.
-/

namespace MemoStore.Host

open MemoStore.Text

/-- The characters that leave no trace in a name. -/
def ignoredRanges : List (Nat × Nat) :=
  [(0xAD, 0xAD), (0x34F, 0x34F), (0x115F, 0x1160), (0x17B4, 0x17B5), (0x180B, 0x180F),
   (0x200B, 0x200B), (0x2060, 0x2064), (0x206A, 0x206F), (0x3164, 0x3164), (0xFE00, 0xFE0F),
   (0xFEFF, 0xFEFF), (0xFFA0, 0xFFA0), (0x1BCA0, 0x1BCA3), (0x1D173, 0x1D17A),
   (0xE0100, 0xE01EF)]

/-- Signs that no name has although their categories are allowed. -/
def refusedRanges : List (Nat × Nat) :=
  [(0x1680, 0x1680), (0x2024, 0x2026), (0x2488, 0x249B), (0x2FF0, 0x2FFF), (0x31EF, 0x31EF),
   (0x33C2, 0x33C2), (0x33C7, 0x33C7), (0x33D8, 0x33D8), (0xFE12, 0xFE12), (0xFE19, 0xFE19),
   (0xFE30, 0xFE30), (0xFE52, 0xFE52), (0xFFFC, 0xFFFD), (0x1F100, 0x1F100)]

/-- Whether no name has a character outside ASCII that is neither ignored nor replaced. -/
def isRefused (c : Char) : Bool :=
  inRanges refusedRanges c.toNat ||
    match category c with
    | .cn | .co | .cs | .cc | .zl | .zp => true
    | .cf => c != Joining.parter && c != Joining.joiner
    | _ => false

/-- The ASCII characters that no name has. -/
def isDenied (c : Char) : Bool :=
  c ≤ ' ' || c = '\x7f' ||
    ['%', '#', '/', ':', '<', '>', '?', '@', '[', '\\', ']', '^', '|'].contains c

/-- What a character of a name becomes; nothing if no name has it. -/
def normalizedChar? (c : Char) : Option (List Char) :=
  if c.toNat < 128 then some [c.toLower]
  else if inRanges ignoredRanges c.toNat then some []
  else
    match replacement? c with
    | some text => some text
    | none => if isRefused c then none else some [c]

/-- The form of a name in which it is compared, if it has only characters of names. -/
def normalized? (name : List Char) : Option (List Char) := do
  let text := compose (← name.mapM normalizedChar?).flatten
  if text.any isDenied then none else some text

/-- Whether a character is a mark on the one before it. -/
def isMark (c : Char) : Bool :=
  (category c).isMark

/-- Whether letters are joined across a place, before which the text is given in reverse. -/
def joinsAcross (before after : List Char) : Bool :=
  (before.dropWhile Joining.isTransparent).head?.any Joining.joinsNext &&
    (after.dropWhile Joining.isTransparent).head?.any Joining.joinsPrevious

/-- Whether letters are asked to be joined or parted only where that makes a difference:
behind a virama, or, to part them, between letters that would be joined. -/
def joinersFit (before : List Char) : List Char → Bool
  | [] => true
  | c :: rest =>
    (if c = Joining.joiner then before.head?.any Joining.isVirama
      else if c = Joining.parter then
        before.head?.any Joining.isVirama || joinsAcross before rest
      else true) && joinersFit (c :: before) rest

/-- Whether a label begins and is joined as it must. -/
def isWellFormed (label : List Char) : Bool :=
  !label.head?.any isMark && joinersFit [] label

/-- Whether a character runs to the left. -/
def runsLeft (c : Char) : Bool :=
  let direction := Direction.of c
  direction = .left || direction = .leftDigit

/-- Whether a label runs in one direction. -/
def isDirected (label : List Char) : Bool :=
  let directions := label.map Direction.of
  let last := (directions.reverse.dropWhile (· = .mark)).head?
  match directions.head? with
  | none => true
  | some .right =>
    directions.all (fun d => d != .left && d != .leftDigit) &&
      (last = some .right || last = some .digit)
  | some .left =>
    directions.all (· != .right) &&
      (last = some .left || last = some .digit || last = some .leftDigit) &&
      !(directions.contains .digit && directions.contains .leftDigit)
  | some _ => false

/-- What a label in ASCII that stands for another begins with. -/
def encodedMark : List Char :=
  "xn--".toList

/-- The size up to which a label is read that stands for another. -/
def encodedLimit : Nat := 2000

/-- The size up to which a label is written in ASCII. -/
def writtenLimit : Nat := 1000

/-- Whether a character of a name stays as it is. -/
def isNormal (c : Char) : Bool :=
  c.toNat < 128 || (normalizedChar? c = some [c] && !isChanged c)

/-- The label that a label of a normalized name stands for, if it is one. -/
def readLabel? (label : List Char) : Option (List Char) :=
  let isAscii := label.all fun c => c.toNat < 128
  match after? encodedMark label with
  | some digits =>
    if !isAscii || encodedLimit < digits.length then none
    else
      (Punycode.decode? digits).filter fun label =>
        label.any (fun c => 128 ≤ c.toNat) && label.all isNormal && compose label == label &&
          isWellFormed label && label.length ≤ writtenLimit
  | none =>
    if isAscii then some label
    else if isWellFormed label && label.length ≤ writtenLimit then some label
    else none

/-- Reads a domain name: its normalized form, if its labels are ones. -/
def readDomain? (name : List Char) : Option (List Char) := do
  let text ← normalized? name
  let labels ← (pieces '.' text).mapM readLabel?
  if labels.any (·.any runsLeft) && !labels.all isDirected then none else some text

end MemoStore.Host
