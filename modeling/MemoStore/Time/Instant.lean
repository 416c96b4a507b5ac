import MemoStore.Text.Decimal

/-!
# Instants

A point in time is a count of seconds since 1970-01-01 in UTC with a count of
nanoseconds; a leap second is the second before it with more than a full second of
nanoseconds. The written form is RFC 3339 in UTC with the fewest of 0, 3, 6 and 9
fraction digits that lose nothing, and the read form is RFC 3339 with any offset.
-/

namespace MemoStore.Time

/-- A point in time. -/
structure Instant where
  seconds : Int
  nanos : Nat
  deriving DecidableEq, Repr, Inhabited

/-- A date of the proleptic Gregorian calendar. -/
structure Date where
  year : Int
  month : Nat
  day : Nat
  deriving DecidableEq, Repr

/-- Whether a year has a twenty-ninth of February. -/
def isLeapYear (year : Int) : Bool :=
  year % 4 == 0 && (year % 100 != 0 || year % 400 == 0)

/-- The number of days of a month. -/
def daysIn (year : Int) (month : Nat) : Nat :=
  if month = 2 then (if isLeapYear year then 29 else 28)
  else if month = 4 || month = 6 || month = 9 || month = 11 then 30
  else 31

namespace Date

/-- Days since 1970-01-01. Years are counted from March, so that the leap day is the
last of its year and the months follow one formula. -/
def toDays (date : Date) : Int :=
  let year := if date.month ≤ 2 then date.year - 1 else date.year
  let era := year.fdiv 400
  let yearOfEra := year - era * 400
  let monthFromMarch : Int := (date.month + 9) % 12
  let dayOfYear := (153 * monthFromMarch + 2) / 5 + date.day - 1
  let dayOfEra := yearOfEra * 365 + yearOfEra / 4 - yearOfEra / 100 + dayOfYear
  era * 146097 + dayOfEra - 719468

/-- The date that is `days` days after 1970-01-01. -/
def ofDays (days : Int) : Date :=
  let shifted := days + 719468
  let era := shifted.fdiv 146097
  let dayOfEra := shifted - era * 146097
  let yearOfEra :=
    (dayOfEra - dayOfEra / 1460 + dayOfEra / 36524 - dayOfEra / 146096) / 365
  let dayOfYear := dayOfEra - (365 * yearOfEra + yearOfEra / 4 - yearOfEra / 100)
  let monthFromMarch := (5 * dayOfYear + 2) / 153
  let day := dayOfYear - (153 * monthFromMarch + 2) / 5 + 1
  let month := if monthFromMarch < 10 then monthFromMarch + 3 else monthFromMarch - 9
  let year := yearOfEra + era * 400 + if month ≤ 2 then 1 else 0
  ⟨year, month.toNat, day.toNat⟩

end Date

/-- The last `width` decimal digits of a number, zeros included. -/
def digits (width value : Nat) : List Char :=
  match width with
  | 0 => []
  | width + 1 => digits width (value / 10) ++ [Nat.digitChar (value % 10)]

/-- The written form of a year: four digits, and a sign outside of them. -/
def yearText (year : Int) : List Char :=
  if 0 ≤ year && year ≤ 9999 then digits 4 year.toNat
  else
    let magnitude := year.natAbs
    let sign := if year < 0 then '-' else '+'
    sign :: (if magnitude ≤ 9999 then digits 4 magnitude else (toString magnitude).toList)

/-- The fraction of a second, with the fewest of 0, 3, 6 and 9 digits that is exact. -/
def fractionText (nanos : Nat) : List Char :=
  if nanos = 0 then []
  else if nanos % 1000000 = 0 then '.' :: digits 3 (nanos / 1000000)
  else if nanos % 1000 = 0 then '.' :: digits 6 (nanos / 1000)
  else '.' :: digits 9 nanos

namespace Instant

/-- The written form of an instant, in UTC. -/
def render (instant : Instant) : String :=
  let days := instant.seconds.fdiv 86400
  let ofDay := (instant.seconds - days * 86400).toNat
  let date := Date.ofDays days
  let second := ofDay % 60 + instant.nanos / 1000000000
  String.ofList
    (yearText date.year ++ '-' :: digits 2 date.month ++ '-' :: digits 2 date.day ++
      'T' :: digits 2 (ofDay / 3600) ++ ':' :: digits 2 (ofDay / 60 % 60) ++
      ':' :: digits 2 second ++ fractionText (instant.nanos % 1000000000) ++
      "+00:00".toList)

/-- Whether two instants are less than a day apart. -/
def near (a b : Instant) : Bool :=
  (a.seconds - b.seconds).natAbs < 86400

end Instant

/-- Reads a number of exactly `width` decimal digits. -/
def readDigits (width : Nat) (text : List Char) : Option (Nat × List Char) :=
  let front := text.take width
  if front.length = width && front.all Char.isDigit then
    some (Text.decimalValue front, text.drop width)
  else none

/-- Reads one character that satisfies `p`. -/
def readChar (p : Char → Bool) : List Char → Option (List Char)
  | [] => none
  | c :: rest => if p c then some rest else none

/-- Reads the fraction of a second: digits beyond the ninth are dropped. -/
def readFraction : List Char → Option (Nat × List Char)
  | '.' :: rest =>
    let shown := rest.takeWhile Char.isDigit
    if shown.isEmpty then none
    else
      let nine := (shown ++ List.replicate 9 '0').take 9
      (readDigits 9 nine).map fun (nanos, _) => (nanos, rest.dropWhile Char.isDigit)
  | text => some (0, text)

/-- Whether a character is a minus sign: the hyphen of keyboards or the sign proper. -/
def isMinus (c : Char) : Bool :=
  c == '-' || c == '\u2212'

/-- Reads the offset from UTC, in seconds, which ends the text. -/
def readOffset : List Char → Option Int
  | ['Z'] | ['z'] => some 0
  | sign :: text => do
    guard (sign == '+' || isMinus sign)
    let (hours, text) ← readDigits 2 text
    let text ← readChar (· == ':') text
    let (minutes, text) ← readDigits 2 text
    guard (text.isEmpty && minutes ≤ 59 && hours ≤ 23)
    let offset : Int := hours * 3600 + minutes * 60
    return if isMinus sign then -offset else offset
  | [] => none

/-- Reads an RFC 3339 time. -/
def Instant.read? (text : String) : Option Instant := do
  let (year, text) ← readDigits 4 text.toList
  let text ← readChar (· == '-') text
  let (month, text) ← readDigits 2 text
  let text ← readChar (· == '-') text
  let (day, text) ← readDigits 2 text
  let text ← readChar (fun c => c == 'T' || c == 't' || c == ' ') text
  let (hour, text) ← readDigits 2 text
  let text ← readChar (· == ':') text
  let (minute, text) ← readDigits 2 text
  let text ← readChar (· == ':') text
  let (second, text) ← readDigits 2 text
  let (nanos, text) ← readFraction text
  let offset ← readOffset text
  guard (1 ≤ month && month ≤ 12 && 1 ≤ day && day ≤ daysIn year month)
  guard (hour ≤ 23 && minute ≤ 59 && second ≤ 60)
  let isLeap := second == 60
  let ofDay : Int := hour * 3600 + minute * 60 + (if isLeap then 59 else second)
  return {
    seconds := Date.toDays ⟨year, month, day⟩ * 86400 + ofDay - offset
    nanos := nanos + if isLeap then 1000000000 else 0 }

end MemoStore.Time
