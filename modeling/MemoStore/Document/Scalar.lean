/-!
# YAML scalars

How a text is written so that it reads back as that text: plain where that is
possible, quoted where it would be taken for a number, a flag, nothing, or for
structure, as a literal block where it has lines, and double-quoted where it has a
character that cannot be shown.
-/

namespace MemoStore.Document.Yaml

/-- Whether a character ends a line. The line feed is one of three that do and can be
shown; only a text with a line feed is a text with lines. -/
def isBreak (c : Char) : Bool :=
  c == '\n' || c == '\u2028' || c == '\u2029'

/-- Whether a character can be shown as it is. The tab and the carriage return
cannot. -/
def isPrintable (c : Char) : Bool :=
  c.toNat == 0x0A || (0x20 ≤ c.toNat && c.toNat ≤ 0x7E) ||
    (0xA0 ≤ c.toNat && c.toNat ≤ 0xD7FF) ||
    (0xE000 ≤ c.toNat && c.toNat ≤ 0xFFFD && c.toNat != 0xFEFF) || 0x10000 ≤ c.toNat

/-! ## Texts that read as another value -/

/-- Drops one plus sign. A second sign after it makes the text no number. -/
def unsigned? (text : List Char) : Option (List Char) :=
  match text with
  | '+' :: '+' :: _ | '+' :: '-' :: _ => none
  | '+' :: rest => some rest
  | _ => some text

/-- The value of a digit in any base up to 16. -/
def digitValue (c : Char) : Nat :=
  if c.isDigit then c.toNat - 48
  else if 'a' ≤ c && c ≤ 'f' then c.toNat - 87
  else if 'A' ≤ c && c ≤ 'F' then c.toNat - 55
  else 16

/-- The number that a text of digits stands for in a base; at least one digit. -/
def natural? (base : Nat) (text : List Char) : Option Nat :=
  if text.isEmpty || text.any (fun c => base ≤ digitValue c) then none
  else some (text.foldl (fun value c => value * base + digitValue c) 0)

/-- Takes the mark of a base off a text. -/
def based? : List Char → Option (Nat × List Char)
  | '0' :: 'x' :: digits => some (16, digits)
  | '0' :: 'o' :: digits => some (8, digits)
  | '0' :: 'b' :: digits => some (2, digits)
  | _ => none

/-- Whether a text is digits with a superfluous zero in front, with any sign. -/
def hasLeadingZero (text : List Char) : Bool :=
  let digits :=
    match text with
    | '+' :: rest | '-' :: rest => rest
    | _ => text
  match digits with
  | '0' :: c :: rest => (c :: rest).all Char.isDigit
  | _ => false

/-- Whether a text is an unsigned number below `limit`, in any base. -/
def isNatural (limit : Nat) (text : List Char) : Bool :=
  match unsigned? text with
  | none => false
  | some digits =>
    ((based? digits).bind fun (base, rest) => natural? base rest).any (· < limit) ||
      (!hasLeadingZero text && (natural? 10 digits).any (· < limit))

/-- Whether a text is a negative number down to `-limit`, in any base. -/
def isNegative (limit : Nat) : List Char → Bool
  | '-' :: digits =>
    ((based? digits).bind fun (base, rest) => natural? base rest).any (· ≤ limit) ||
      (!hasLeadingZero ('-' :: digits) && (natural? 10 digits).any (· ≤ limit))
  | _ => false

/-- Whether a text reads as an integer of up to 128 bits. -/
def isInteger (text : List Char) : Bool :=
  isNatural (Nat.pow 2 128) text || isNegative (Nat.pow 2 127) text

/-- A decimal number: its digits without the point, how many of them stand behind
the point, and the exponent. -/
structure Decimal where
  digits : List Char
  places : Nat
  exponent : Int

/-- Reads the exponent of a decimal number, which ends the text. -/
def exponent? : List Char → Option Int
  | [] => some 0
  | mark :: rest =>
    if mark = 'e' || mark = 'E' then
      match rest with
      | '-' :: digits => (natural? 10 digits).map fun value => -(value : Int)
      | '+' :: digits => (natural? 10 digits).map Int.ofNat
      | digits => (natural? 10 digits).map Int.ofNat
    else none

/-- Reads a decimal number without a sign. A digit must stand before or behind the
point. -/
def decimal? (text : List Char) : Option Decimal :=
  let whole := text.takeWhile Char.isDigit
  let rest := text.dropWhile Char.isDigit
  let (fraction, rest) :=
    match rest with
    | '.' :: rest => (rest.takeWhile Char.isDigit, rest.dropWhile Char.isDigit)
    | _ => ([], rest)
  if whole.isEmpty && fraction.isEmpty then none
  else (exponent? rest).map fun exponent => ⟨whole ++ fraction, fraction.length, exponent⟩

/-- Whether a decimal number is below the least one that a double rounds to infinity,
which is 2 to the power 1024 less half a unit in the last place. A number with
fewer than 309 or more than 310 digits before its point is decided by that count. -/
def Decimal.isFinite (decimal : Decimal) : Bool :=
  let significant := decimal.digits.dropWhile (· == '0')
  let scale := decimal.exponent - decimal.places
  let magnitude := (significant.length : Int) + scale
  if significant.isEmpty || magnitude < 309 then true
  else if magnitude > 310 then false
  else
    let value := significant.foldl (fun value c => value * 10 + digitValue c) 0
    let limit := Nat.pow 2 1024 - Nat.pow 2 970
    value * Nat.pow 10 scale.toNat < limit * Nat.pow 10 (-scale).toNat

/-- Whether a text reads as a decimal number that is not infinite. -/
def isDecimal (text : List Char) : Bool :=
  match unsigned? text with
  | none => false
  | some number =>
    let magnitude :=
      match number with
      | '-' :: rest => rest
      | _ => number
    (decimal? magnitude).any Decimal.isFinite

/-- The words that read as nothing. -/
def nullWords : List String := ["~", "null", "Null", "NULL"]

/-- The words that read as a flag. -/
def flagWords : List String := ["true", "True", "TRUE", "false", "False", "FALSE"]

/-- The words that read as an infinite number or as no number. -/
def infinityWords : List String :=
  [".inf", ".Inf", ".INF", "+.inf", "+.Inf", "+.INF", "-.inf", "-.Inf", "-.INF", ".nan",
    ".NaN", ".NAN"]

/-- Whether a plain text would be read back as something other than a text. -/
def readsAsOther (text : List Char) : Bool :=
  text.isEmpty || (nullWords ++ flagWords ++ infinityWords).contains (String.ofList text) ||
    isInteger text || isDecimal text || hasLeadingZero text

/-! ## Texts that read as structure -/

/-- Whether the rest of a text is empty or goes on with a space. -/
def endsWord : List Char → Bool
  | [] => true
  | c :: _ => c == ' '

/-- Whether a text cannot be plain because of how it begins. -/
def opensStructure : List Char → Bool
  | [] => false
  | c :: rest =>
    "#,[]\x7b\x7d&*!|>'\"%@`".toList.contains c ||
      "---".toList.isPrefixOf (c :: rest) || "...".toList.isPrefixOf (c :: rest) ||
      ("-?:".toList.contains c && endsWord rest)

/-- Whether a key mark or a comment mark stands in a text; `spaced` says whether a
space precedes it. -/
def holdsMark (spaced : Bool) : List Char → Bool
  | [] => false
  | c :: rest =>
    (c == ':' && endsWord rest) || (c == '#' && spaced) || holdsMark (c == ' ') rest

/-- Whether a plain text would change the structure around it, or lose a space or a
line end. -/
def readsAsStructure (text : List Char) : Bool :=
  opensStructure text || holdsMark false text || text.any isBreak ||
    text.head? == some ' ' || text.getLast? == some ' '

/-! ## Line ends in texts -/

/-- Whether a character that satisfies `p` stands right before one that satisfies
`q`. -/
def hasPair (p q : Char → Bool) : List Char → Bool
  | c :: d :: rest => (p c && q d) || hasPair p q (d :: rest)
  | _ => false

/-- Whether a space stands before a line end. -/
def hasSpaceBeforeBreak (text : List Char) : Bool :=
  hasPair (· == ' ') isBreak text

/-- Whether a space stands behind a line end. -/
def hasSpaceAfterBreak (text : List Char) : Bool :=
  hasPair isBreak (· == ' ') text

/-- Whether a text can stand between single quotes: all of it can be shown, and no
line begins or ends in a space. -/
def fitsQuotes (text : List Char) : Bool :=
  text.all isPrintable && !hasSpaceBeforeBreak text && !hasSpaceAfterBreak text

/-- Indents what follows a line end; `broken` says whether the text itself does. A line
end that follows another stays at the start of its line. -/
def indented (indent : List Char) (broken : Bool) : List Char → List Char
  | [] => []
  | c :: rest =>
    if isBreak c then c :: indented indent true rest
    else if broken then indent ++ c :: indented indent false rest
    else c :: indented indent false rest

/-! ## Literal blocks -/

/-- Whether a text with lines can be a literal block: all of it can be shown, and no
line ends in a space. -/
def fitsBlock (text : List Char) : Bool :=
  text.all isPrintable && !hasSpaceBeforeBreak text && text.getLast? != some ' '

/-- The header of a literal block: the indentation is stated if the text begins with
a space or a line end, and the line ends at its end are dropped, clipped to one, or
kept. -/
def blockHeader (text : List Char) : List Char :=
  let indentation := if text.head?.any fun c => c == ' ' || isBreak c then ['2'] else []
  let ending :=
    match text.reverse with
    | [] => ['-']
    | [c] => if isBreak c then ['+'] else ['-']
    | c :: before :: _ => if !isBreak c then ['-'] else if isBreak before then ['+'] else []
  '|' :: indentation ++ ending

/-- The lines of a literal block, each with its line feed. -/
def blockLines : List Char → List (List Char)
  | [] => []
  | '\n' :: rest => ['\n'] :: blockLines rest
  | c :: rest =>
    match blockLines rest with
    | [] => [[c]]
    | line :: later => (c :: line) :: later

/-! ## Quoted texts -/

/-- A text between single quotes, the closing one of which is indented like what
follows a line end. -/
def singleQuoted (indent : List Char) (text : List Char) : List Char :=
  let doubled := text.flatMap fun c => if c = '\'' then ['\'', '\''] else [c]
  '\'' :: indented indent false doubled ++
    (if text.getLast?.any isBreak then indent else []) ++ ['\'']

/-- The last `width` hexadecimal digits of a number, in upper case. -/
def hexDigits : Nat → Nat → List Char
  | 0, _ => []
  | width + 1, value => hexDigits width (value / 16) ++ [(Nat.digitChar (value % 16)).toUpper]

/-- A character between double quotes. -/
def escaped (c : Char) : List Char :=
  if c = '"' then ['\\', '"']
  else if c = '\\' then ['\\', '\\']
  else if isPrintable c && !isBreak c then [c]
  else
    '\\' ::
      match c.toNat with
      | 0x00 => ['0']
      | 0x07 => ['a']
      | 0x08 => ['b']
      | 0x09 => ['t']
      | 0x0A => ['n']
      | 0x0B => ['v']
      | 0x0C => ['f']
      | 0x0D => ['r']
      | 0x1B => ['e']
      | 0x85 => ['N']
      | 0x2028 => ['L']
      | 0x2029 => ['P']
      | code => if code < 0x100 then 'x' :: hexDigits 2 code else 'u' :: hexDigits 4 code

/-- A text between double quotes. -/
def doubleQuoted (text : List Char) : List Char :=
  '"' :: text.flatMap escaped ++ ['"']

/-! ## The choice of style -/

/-- The styles of a scalar. -/
inductive Style where
  | plain
  | singleQuoted
  | doubleQuoted
  | block
  deriving DecidableEq, Repr

/-- The style that a text is written in. -/
def Style.of (text : List Char) : Style :=
  if text.contains '\n' then (if fitsBlock text then .block else .doubleQuoted)
  else if !fitsQuotes text then .doubleQuoted
  else if readsAsOther text || readsAsStructure text then .singleQuoted
  else .plain

end MemoStore.Document.Yaml
