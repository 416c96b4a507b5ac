import MemoStore.Environment.Basic
import MemoStore.Environment.Lines
import MemoStore.Text.Letter

/-!
# Environment files

An environment file gives values to variables that have none, one on each line. A value
may name other variables after a dollar sign, which stand for what they are set to, and
may be put in quotes: single ones keep everything as it is, double ones let
backslashes and dollar signs be. Reading ends at the first line that is broken, and
what was read before stays.
-/

namespace MemoStore.Environment

open MemoStore.Text

/-- Which quotes are open. -/
inductive Quote where
  | none
  | single
  | double
  deriving DecidableEq, Repr

/-- What has been begun and not ended. -/
inductive Begun where
  | nothing
  | escape
  /-- a name after a dollar sign -/
  | name (text : List Char)
  /-- a name in braces after a dollar sign -/
  | bracedName (text : List Char)
  /-- the blanks behind a value -/
  | finish
  deriving DecidableEq, Repr

/-- Whether a character belongs to a name after a dollar sign. An underscore does
not. -/
def isNameChar (c : Char) : Bool :=
  isAlphanumeric c

/-- The character that a backslash and `c` stand for. -/
def escaped? (c : Char) : Option Char :=
  if c = 'n' then some '\n'
  else if ['\\', '\'', '"', '$', ' '].contains c then some c
  else none

/-- Reads the rest of a value behind what `written` holds. -/
def readValueFrom (env : Environment) (quote : Quote) (begun : Begun) (written : List Char) :
    List Char → Option (List Char)
  | [] =>
    match quote, begun with
    | .none, .bracedName _ => none
    | .none, .name name => some (written ++ value name)
    | .none, _ => some written
    | _, _ => none
  | c :: rest =>
    match begun with
    | .finish =>
      if c = ' ' || c = '\t' then env.readValueFrom quote .finish written rest
      else if c = '#' then (if quote = .none then some written else none)
      else none
    | .escape =>
      match escaped? c with
      | some c => env.readValueFrom quote .nothing (written ++ [c]) rest
      | none => none
    | .name name =>
      if isNameChar c then env.readValueFrom quote (.name (name ++ [c])) written rest
      else if c = '\x7b' && name.isEmpty then
        env.readValueFrom quote (.bracedName []) written rest
      else if c = '$' then env.readValueFrom quote (.name []) (written ++ value name) rest
      else env.readValueFrom quote .nothing (written ++ value name ++ [c]) rest
    | .bracedName name =>
      if c = '\x7d' then env.readValueFrom quote .nothing (written ++ value name) rest
      else env.readValueFrom quote (.bracedName (name ++ [c])) written rest
    | .nothing =>
      match quote with
      | .single =>
        if c = '\'' then env.readValueFrom .none .nothing written rest
        else env.readValueFrom .single .nothing (written ++ [c]) rest
      | .double =>
        if c = '$' then env.readValueFrom .double (.name []) written rest
        else if c = '"' then env.readValueFrom .none .nothing written rest
        else if c = '\\' then env.readValueFrom .double .escape written rest
        else env.readValueFrom .double .nothing (written ++ [c]) rest
      | .none =>
        if c = '$' then env.readValueFrom .none (.name []) written rest
        else if c = '\'' then env.readValueFrom .single .nothing written rest
        else if c = '"' then env.readValueFrom .double .nothing written rest
        else if c = '\\' then env.readValueFrom .none .escape written rest
        else if c = ' ' || c = '\t' then env.readValueFrom .none .finish written rest
        else env.readValueFrom .none .nothing (written ++ [c]) rest
where
  /-- What a name stands for. -/
  value (name : List Char) : List Char :=
    ((env.get? (String.ofList name)).getD "").toList

/-- Whether a character may stand in the name of a variable behind the first. -/
def isKeyChar (c : Char) : Bool :=
  c.isAlphanum || c = '_' || c = '.'

/-- Reads the name of a variable and the blanks behind it. -/
def readKey? (text : List Char) : Option (List Char × List Char) :=
  if text.head?.any fun c => c.isAlpha || c = '_' then
    some (text.takeWhile isKeyChar, (text.dropWhile isKeyChar).dropWhile isBlank)
  else none

/-- Reads an equals sign and the blanks behind it. -/
def readEquals? : List Char → Option (List Char)
  | '=' :: rest => some (rest.dropWhile isBlank)
  | _ => none

/-- Reads the name of a variable with its equals sign; the word `export` may stand
before it. -/
def readName? (text : List Char) : Option (List Char × List Char) :=
  match readKey? text with
  | none => none
  | some (key, rest) =>
    match readEquals? rest with
    | some value => some (key, value)
    | none =>
      if key = "export".toList then
        (readKey? rest).bind fun (key, rest) =>
          (readEquals? rest).map fun value => (key, value)
      else none

/-- What a line says. -/
inductive Entry where
  | nothing
  | assignment (name value : String)
  | broken
  deriving DecidableEq, Repr

/-- Reads a line. -/
def readLine (env : Environment) (line : List Char) : Entry :=
  let text := trim line
  if text.isEmpty || text.head? == some '#' then .nothing
  else
    match readName? text with
    | none => .broken
    | some (name, text) =>
      if text.isEmpty || text.head? == some '#' then .assignment (String.ofList name) ""
      else
        match env.readValueFrom .none .nothing [] text with
        | some value => .assignment (String.ofList name) (String.ofList value)
        | none => .broken

/-- Takes lines into account, up to the first that is broken. -/
def addLines (env : Environment) : List (Option (List Char)) → Environment
  | [] => env
  | none :: _ => env
  | some line :: rest =>
    match env.readLine line with
    | .nothing => env.addLines rest
    | .assignment name value => (env.setDefault name value).addLines rest
    | .broken => env

/-- Takes an environment file into account, if there is one. -/
def addFile (env : Environment) (text : Option String) : Environment :=
  match text with
  | some text => env.addLines (fileLines text)
  | none => env

end MemoStore.Environment
