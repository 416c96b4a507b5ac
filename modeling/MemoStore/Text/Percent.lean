/-!
# Percent-encoding

A byte may be written as a percent sign and two hexadecimal digits. A percent sign
that is not followed by two such digits stands for itself. In form parameters a plus
sign stands for a space.
-/

namespace MemoStore.Text.Percent

/-- The value of a hexadecimal digit. -/
def hexValue? (c : Char) : Option Nat :=
  if c.isDigit then some (c.toNat - 48)
  else if 'a' ≤ c && c ≤ 'f' then some (c.toNat - 87)
  else if 'A' ≤ c && c ≤ 'F' then some (c.toNat - 55)
  else none

/-- The byte that two hexadecimal digits stand for. -/
def byte? (high low : Char) : Option UInt8 := do
  return UInt8.ofNat ((← hexValue? high) * 16 + (← hexValue? low))

/-- The bytes that a text stands for. -/
def decode : List Char → List UInt8
  | [] => []
  | [c] => String.utf8EncodeChar c
  | [c, d] => String.utf8EncodeChar c ++ String.utf8EncodeChar d
  | c :: high :: low :: rest =>
    match c, byte? high low with
    | '%', some byte => byte :: decode rest
    | _, _ => String.utf8EncodeChar c ++ decode (high :: low :: rest)

/-- The bytes that a text stands for in form parameters. -/
def decodeForm (text : List Char) : List UInt8 :=
  decode (text.map fun c => if c = '+' then ' ' else c)

/-- The digit for a value below sixteen. -/
def hexDigit (value : Nat) : Char :=
  Char.ofNat (if value < 10 then 48 + value else 55 + value)

/-- Bytes as a text in which all but letters and digits are encoded. -/
def encode (bytes : List UInt8) : List Char :=
  bytes.flatMap fun byte =>
    let c := Char.ofNat byte.toNat
    if c.isAlphanum then [c] else ['%', hexDigit (byte.toNat / 16), hexDigit (byte.toNat % 16)]

end MemoStore.Text.Percent
