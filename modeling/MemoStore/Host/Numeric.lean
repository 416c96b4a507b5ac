import MemoStore.Text.Decimal
import MemoStore.Text.Percent
import MemoStore.Text.Search

/-!
# Addresses of hosts

A host may be named by an address. One of four octets is written with up to four numbers,
the last of which fills the octets that are left; one of eight groups is written with
colons between them.
-/

namespace MemoStore.Host

open MemoStore.Text

/-- A number in a base, from digits of that base. -/
def numberIn (base : Nat) (digits : List Char) : Option Nat :=
  digits.foldl
    (fun value digit => do
      let value ← value
      let digit ← (Percent.hexValue? digit).filter (· < base)
      return value * base + digit)
    (some 0)

/-- A number of an address: hexadecimal behind `0x`, octal behind another zero. -/
def addressNumber? (text : List Char) : Option Nat :=
  match text with
  | [] => none
  | '0' :: 'x' :: digits => numberIn 16 digits
  | '0' :: digit :: digits => numberIn 8 (digit :: digits)
  | _ => numberIn 10 text

/-- The parts of a name between dots, without an empty one at the end. -/
def parts (name : List Char) : List (List Char) :=
  let parts := pieces '.' name
  if parts.getLast? = some [] then parts.dropLast else parts

/-- Whether the last part of a name is a number, so that the name is an address. -/
def endsInNumber (name : List Char) : Bool :=
  match (parts name).getLast? with
  | some part =>
    (!part.isEmpty && part.all Char.isDigit) || (addressNumber? part).isSome
  | none => false

/-- Whether a name is an address of four octets. -/
def isIpv4 (name : List Char) : Bool :=
  match (parts name).mapM addressNumber? with
  | none => false
  | some numbers =>
    numbers.length ≤ 4 && numbers.dropLast.all (· < 256) &&
      numbers.getLast?.any (· < Nat.pow 256 (5 - numbers.length))

/-- Whether a text is one to four hexadecimal digits. -/
def isGroup (text : List Char) : Bool :=
  !text.isEmpty && text.length ≤ 4 && text.all fun c => (Percent.hexValue? c).isSome

/-- Whether a text is a decimal number up to 255 without a superfluous zero. -/
def isOctet (text : List Char) : Bool :=
  !text.isEmpty && text.all Char.isDigit && (text.length == 1 || text.head? != some '0') &&
    decimalValue text < 256

/-- The number of groups that the parts of an address fill, the last of which may be an
address of four octets; nothing if a part is none. -/
def groupCount? : List (List Char) → Option Nat
  | [] => some 0
  | [part] =>
    if isGroup part then some 1
    else if (pieces '.' part).length = 4 && (pieces '.' part).all isOctet then some 2
    else none
  | part :: rest => if isGroup part then (groupCount? rest).map (· + 1) else none

/-- Cuts a text at the first pair of colons. -/
def cutAtGap? : List Char → Option (List Char × List Char)
  | ':' :: ':' :: rest => some ([], rest)
  | c :: rest => (cutAtGap? rest).map fun (before, after) => (c :: before, after)
  | [] => none

/-- The number of groups of a part of an address that may be empty. -/
def sideCount? (text : List Char) : Option Nat :=
  if text.isEmpty then some 0 else groupCount? (pieces ':' text)

/-- Whether a text is an address of eight groups, of which two or more that are zero
may be left out in one place. -/
def isIpv6 (text : List Char) : Bool :=
  match cutAtGap? text with
  | none => groupCount? (pieces ':' text) == some 8
  | some (before, after) =>
    match sideCount? before, sideCount? after with
    | some left, some right => left + right ≤ 7 && (before.isEmpty || before.all (· != '.'))
    | _, _ => false

end MemoStore.Host
