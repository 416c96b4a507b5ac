/-!
# Tokens of SQL

The first token of a text, as the engine cuts it off: behind blanks and comments stands
a name, a text, a number, a variable, or a sign. A comment lasts to the end of its line,
or from `/*` to `*/`. A quote that is not closed, a decimal that runs into a name, and
characters without a meaning make a token that is none; only its text is kept, for the
complaint about it. A text ends at a null character.
-/

namespace MemoStore.Sql

/-- The kinds of tokens that make a difference. -/
inductive TokenKind where
  /-- a name in quotes or brackets, which stands for this -/
  | quoted (name : List Char)
  /-- a text in single quotes, which stands for this -/
  | string (value : List Char)
  /-- a keyword or a name without quotes -/
  | word
  | dot
  | semicolon
  | other
  /-- not a token -/
  | illegal
  deriving DecidableEq, Repr

/-- A token, with the text that it was cut from. -/
structure Token where
  kind : TokenKind
  text : List Char
  deriving DecidableEq, Repr

namespace Token

/-- The blanks between tokens. -/
def isSpace (c : Char) : Bool :=
  c == ' ' || c == '\t' || c == '\n' || c == '\x0c' || c == '\r'

/-- The characters of names without quotes, behind the first. -/
def isNameChar (c : Char) : Bool :=
  c.isAlphanum || c == '_' || c == '$' || 128 ≤ c.toNat

/-- Whether a character is a hexadecimal digit. -/
def isHexDigit (c : Char) : Bool :=
  c.isDigit || ('a' ≤ c && c ≤ 'f') || ('A' ≤ c && c ≤ 'F')

/-- What follows the end of a comment in brackets, or nothing. -/
def afterComment : List Char → List Char
  | '*' :: '/' :: rest => rest
  | _ :: rest => afterComment rest
  | [] => []

/-- The length of the blank or comment that a text begins with. -/
def blankLength (text : List Char) : Nat :=
  match text with
  | '-' :: '-' :: rest => 2 + (rest.takeWhile (· != '\n')).length
  | '/' :: '*' :: c :: rest => text.length - (afterComment (c :: rest)).length
  | c :: _ => if isSpace c || c == '\uFEFF' then 1 else 0
  | [] => 0

/-- Drops the blanks and comments that a text begins with, at most `limit` of them. -/
def dropBlanks (limit : Nat) (text : List Char) : List Char :=
  match limit with
  | 0 => text
  | limit + 1 =>
    let length := blankLength text
    if length = 0 then text else dropBlanks limit (text.drop length)

/-- Reads up to a closing quote, two of which in a row stand for one: the value and
what was read, or nothing if the quote is never closed. -/
def readQuoted? (quote : Char) : List Char → Option (List Char × List Char)
  | [] => none
  | [c] => if c == quote then some ([], [c]) else none
  | c :: d :: rest =>
    if c == quote then
      if d == quote then
        (readQuoted? quote rest).map fun (value, read) => (c :: value, c :: d :: read)
      else some ([], [c])
    else (readQuoted? quote (d :: rest)).map fun (value, read) => (c :: value, c :: read)

/-- A token in quotes. -/
def quotedToken (quote : Char) (rest : List Char) : Token :=
  match readQuoted? quote rest with
  | none => ⟨.illegal, quote :: rest⟩
  | some (value, read) =>
    ⟨if quote == '\'' then .string value else .quoted value, quote :: read⟩

/-- A name in brackets. -/
def bracketedToken (rest : List Char) : Token :=
  let name := rest.takeWhile (· != ']')
  if name.length < rest.length then ⟨.quoted name, '[' :: name ++ [']']⟩
  else ⟨.illegal, '[' :: rest⟩

/-- The length of an exponent at the front of a text. -/
def exponentLength (text : List Char) : Nat :=
  let digits (rest : List Char) := (rest.takeWhile Char.isDigit).length
  match text with
  | mark :: rest =>
    if mark == 'e' || mark == 'E' then
      match rest with
      | '+' :: more | '-' :: more => if digits more = 0 then 0 else 2 + digits more
      | _ => if digits rest = 0 then 0 else 1 + digits rest
    else 0
  | [] => 0

/-- The length of a decimal number at the front of a text. -/
def decimalLength (text : List Char) : Nat :=
  let whole := (text.takeWhile Char.isDigit).length
  let fraction :=
    match text.drop whole with
    | '.' :: rest => 1 + (rest.takeWhile Char.isDigit).length
    | _ => 0
  whole + fraction + exponentLength (text.drop (whole + fraction))

/-- The length of a hexadecimal number at the front of a text, or nothing. -/
def hexadecimalLength? : List Char → Option Nat
  | '0' :: x :: d :: rest =>
    if (x == 'x' || x == 'X') && isHexDigit d then some (3 + (rest.takeWhile isHexDigit).length)
    else none
  | _ => none

/-- A number; a decimal one that a name follows at once is no token. -/
def numberToken (text : List Char) : Token :=
  match hexadecimalLength? text with
  | some length => ⟨.other, text.take length⟩
  | none =>
    let number := text.take (decimalLength text)
    let more := (text.drop number.length).takeWhile isNameChar
    ⟨if more.isEmpty then .other else .illegal, number ++ more⟩

/-- The text of a variable behind its sign, and whether it is one. `named` says whether
a character of its name was read. -/
def readVariable (named : Bool) : List Char → Bool × List Char
  | [] => (named, [])
  | ':' :: ':' :: rest =>
    let (valid, read) := readVariable named rest
    (valid, ':' :: ':' :: read)
  | c :: rest =>
    if isNameChar c then
      let (valid, read) := readVariable true rest
      (valid, c :: read)
    else if c == '(' && named then
      let inside := rest.takeWhile fun d => d != ')' && !isSpace d
      match rest.drop inside.length with
      | ')' :: _ => (true, '(' :: inside ++ [')'])
      | _ => (false, '(' :: inside)
    else (named, [])

/-- A variable. -/
def variableToken (sign : Char) (rest : List Char) : Token :=
  let (valid, read) := readVariable false rest
  ⟨if valid then .other else .illegal, sign :: read⟩

/-- A keyword or a name without quotes, or bytes in hexadecimal digits. -/
def wordToken (first : Char) (rest : List Char) : Token :=
  match rest with
  | '\'' :: more =>
    if first == 'x' || first == 'X' then
      let digits := more.takeWhile isHexDigit
      let after := more.drop digits.length
      if after.head? == some '\'' && digits.length % 2 == 0 then
        ⟨.other, first :: '\'' :: digits ++ ['\'']⟩
      else
        let unread := after.takeWhile (· != '\'')
        ⟨.illegal, first :: '\'' :: digits ++ unread ++ (after.drop unread.length).take 1⟩
    else ⟨.word, [first]⟩
  | _ => ⟨.word, first :: rest.takeWhile isNameChar⟩

/-- The signs of two characters. -/
def longSigns : List (List Char) :=
  ["->", "==", "<=", "<>", "<<", ">=", ">>", "!=", "||"].map String.toList

/-- The signs of one character. -/
def shortSigns : List Char :=
  ['(', ')', '+', '*', '-', '/', '%', '=', '<', '>', '|', ',', '&', '~']

/-- A sign, or a character without a meaning. -/
def signToken (text : List Char) : Token :=
  if "->>".toList.isPrefixOf text then ⟨.other, text.take 3⟩
  else if longSigns.any fun sign => sign.isPrefixOf text then ⟨.other, text.take 2⟩
  else ⟨if text.head?.any shortSigns.contains then .other else .illegal, text.take 1⟩

/-- The token at the front of a text, which does not begin with a blank. -/
def first (text : List Char) : Option Token :=
  match text with
  | [] => none
  | c :: rest =>
    some <|
      if c == '"' || c == '`' || c == '\'' then quotedToken c rest
      else if c == '[' then bracketedToken rest
      else if c == ';' then ⟨.semicolon, [c]⟩
      else if c.isDigit || (c == '.' && rest.head?.any Char.isDigit) then numberToken text
      else if c == '.' then ⟨.dot, [c]⟩
      else if c == '?' then ⟨.other, c :: rest.takeWhile Char.isDigit⟩
      else if c == '$' || c == '@' || c == '#' || c == ':' then variableToken c rest
      else if isNameChar c then wordToken c rest
      else signToken text

/-- The next token of a text, and what follows it. -/
def next (text : List Char) : Option (Token × List Char) :=
  let text := dropBlanks text.length (text.takeWhile (· != '\x00'))
  (first text).map fun token => (token, text.drop token.text.length)

end Token

end MemoStore.Sql
