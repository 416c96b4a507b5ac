import MemoStore.Text.Category

/-!
# Labels in ASCII

A label with characters outside ASCII is written in ASCII as its ASCII characters and, after
the last hyphen, numbers that say which other characters are to be inserted where. The
numbers are written in base 36 with the lowest digit first. A digit below a threshold
ends a number, and the thresholds adapt to the size of the numbers so far.
-/

namespace MemoStore.Host.Punycode

/-- The value of a digit. -/
def digitValue? (c : Char) : Option Nat :=
  if c.isLower then some (c.toNat - 97)
  else if c.isUpper then some (c.toNat - 65)
  else if c.isDigit then some (c.toNat - 22)
  else none

/-- The threshold for the digit at a position that is counted in steps of the base. -/
def threshold (position bias : Nat) : Nat :=
  max 1 (min 26 (position - bias))

/-- Brings a number down to where it settles, with the steps that takes. -/
def settle (number steps : Nat) : Nat × Nat :=
  if 455 < number then settle (number / 35) (steps + 36) else (number, steps)
  termination_by number
  decreasing_by omega

/-- The bias after a number, which is damped the first time, among so many characters. -/
def adapted (number size : Nat) (first : Bool) : Nat :=
  let damped := if first then number / 700 else number / 2
  let (settled, steps) := settle (damped + damped / size) 0
  steps + 36 * settled / (settled + 38)

/-- A number that is being read. -/
structure Partial where
  value : Nat
  weight : Nat := 1
  position : Nat := 36

/-- Whether a number is the code point of a character. -/
def isCharacter (code : Nat) : Bool :=
  code < 0xD800 || (0xDFFF < code && code < 0x110000)

/-- Inserts the characters that digits tell of: `code` is the last that was inserted, and
`index` the place behind it. -/
def insertAll (chars : List Char) (code index bias : Nat) (number : Partial) :
    List Char → Option (List Char)
  | [] => if number.position = 36 then some chars else none
  | c :: rest =>
    match digitValue? c with
    | none => none
    | some digit =>
      let bound := threshold number.position bias
      let value := number.value + digit * number.weight
      if digit < bound then
        let size := chars.length + 1
        let code := code + value / size
        let place := value % size
        if isCharacter code then
          insertAll (chars.insertIdx place (Char.ofNat code)) code (place + 1)
            (adapted (value - index) size (index = 0)) { value := place + 1 } rest
        else none
      else
        insertAll chars code index bias
          { value := value, weight := number.weight * (36 - bound)
            position := number.position + 36 } rest

/-- The label that a text stands for. -/
def decode? (text : List Char) : Option (List Char) :=
  let digits := (text.reverse.takeWhile (· != '-')).reverse
  let ascii := text.take (text.length - digits.length - 1)
  if text.head? = some '-' && ascii.isEmpty then none
  else insertAll ascii 128 0 72 { value := 0 } digits

end MemoStore.Host.Punycode
