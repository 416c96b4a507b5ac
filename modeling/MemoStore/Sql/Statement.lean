import MemoStore.Sql.Token

/-!
# Statements of SQL

The statements that take something away: those that drop an object, and those that
delete all rows of a table. They are read from a text one by one, each up to its
semicolon or to the end of the text. A token that does not fit is complained about, and
so is a text that ends inside a statement. Other statements are not read.
-/

namespace MemoStore.Sql

/-- A name as a statement gives it, with or without the name of a database. -/
structure ObjectName where
  database : Option (List Char) := none
  name : List Char
  deriving DecidableEq, Repr

/-- The text of a name in messages. -/
def ObjectName.text (object : ObjectName) : String :=
  match object.database with
  | some database => String.ofList (database ++ '.' :: object.name)
  | none => String.ofList object.name

/-- Whether two names are the same to the engine, which ignores the case of letters. -/
def sameIdentifier (a b : List Char) : Bool :=
  a.map Char.toLower == b.map Char.toLower

/-- Whether a name is one of some names. -/
def isNamed (names : List String) (name : List Char) : Bool :=
  names.any fun other => sameIdentifier other.toList name

/-- Whether a name is looked for in the database itself. -/
def ObjectName.isMain (object : ObjectName) : Bool :=
  object.database.all (isNamed ["main"])

/-- The kinds of objects that can be dropped. -/
inductive ObjectKind where
  | table
  | trigger
  | index
  | view
  deriving DecidableEq, Repr

/-- The keyword for a kind of objects. -/
def ObjectKind.keyword : ObjectKind → String
  | .table => "TABLE"
  | .trigger => "TRIGGER"
  | .index => "INDEX"
  | .view => "VIEW"

/-- A statement. -/
inductive Statement where
  /-- drops an object, whether it has to exist or not -/
  | drop (kind : ObjectKind) (lenient : Bool) (object : ObjectName)
  | deleteAll (table : ObjectName)
  deriving DecidableEq, Repr

/-- The text of the statement that drops an object whose name is put between quotes as
it is. -/
def dropText (kind : ObjectKind) (name : String) : String :=
  "DROP " ++ kind.keyword ++ " \"" ++ name ++ "\""

namespace Statement

/-- The keywords that cannot be names. -/
def reservedWords : List String :=
  ["ADD", "ALL", "ALTER", "AND", "AS", "AUTOINCREMENT", "BETWEEN", "CASE", "CHECK", "COLLATE",
    "COMMIT", "CONSTRAINT", "CREATE", "DEFAULT", "DEFERRABLE", "DELETE", "DISTINCT", "DROP",
    "ELSE", "ESCAPE", "EXCEPT", "EXISTS", "FOREIGN", "FROM", "GROUP", "HAVING", "IN", "INDEX",
    "INSERT", "INTERSECT", "INTO", "IS", "ISNULL", "JOIN", "LIMIT", "NOT", "NOTHING", "NOTNULL",
    "NULL", "ON", "OR", "ORDER", "PRIMARY", "REFERENCES", "RETURNING", "SELECT", "SET", "TABLE",
    "THEN", "TO", "TRANSACTION", "UNION", "UNIQUE", "UPDATE", "USING", "VALUES", "WHEN",
    "WHERE"]

/-- Whether a token is a keyword. -/
def isKeyword (word : String) (token : Token) : Bool :=
  token.kind == .word && token.text.map Char.toUpper == word.toList

/-- The complaint about a token that is none. -/
def unrecognized (token : Token) : String :=
  "unrecognized token: \"" ++ String.ofList token.text ++ "\""

/-- The complaint about a token that does not fit, or about the end of the text. -/
def misplaced : Option Token → String
  | some token => "near \"" ++ String.ofList token.text ++ "\": syntax error"
  | none => "incomplete input"

/-- The next token of a text with what follows it, if it is one. -/
def nextToken (text : List Char) : Except String (Option Token × List Char) :=
  match Token.next text with
  | none => .ok (none, [])
  | some (token, rest) =>
    if token.kind == .illegal then .error (unrecognized token) else .ok (some token, rest)

/-- The name that a token stands for. -/
def nameOf? (token : Token) : Option (List Char) :=
  match token.kind with
  | .quoted name => some name
  | .string value => some value
  | .word => if reservedWords.any fun word => isKeyword word token then none else some token.text
  | _ => none

/-- Reads a name from a token, or from the end of the text. -/
def readName (token : Option Token) : Except String (List Char) :=
  match token.bind nameOf? with
  | some name => .ok name
  | none => .error (misplaced token)

/-- Reads a name, of a database and in it or alone, from a token and what follows. The
statement must end behind it. -/
def readObject (token : Option Token) (rest : List Char) :
    Except String (ObjectName × List Char) := do
  let name ← readName token
  let (token, rest) ← nextToken rest
  match token with
  | none => return (⟨none, name⟩, rest)
  | some ⟨.semicolon, _⟩ => return (⟨none, name⟩, rest)
  | some ⟨.dot, _⟩ =>
    let (token, rest) ← nextToken rest
    let inside ← readName token
    let (token, rest) ← nextToken rest
    match token with
    | none => return (⟨some name, inside⟩, rest)
    | some ⟨.semicolon, _⟩ => return (⟨some name, inside⟩, rest)
    | token => throw (misplaced token)
  | token => throw (misplaced token)

/-- The kind of objects that a token names. -/
def kindOf? (token : Token) : Option ObjectKind :=
  [.table, .trigger, .index, .view].find? fun kind => isKeyword kind.keyword token

/-- Reads what follows the word that drops something. -/
def readDrop (text : List Char) : Except String (Statement × List Char) := do
  let (token, rest) ← nextToken text
  match token.bind kindOf? with
  | none => throw (misplaced token)
  | some kind =>
    let (token, rest) ← nextToken rest
    if token.any (isKeyword "IF") then
      let (token, rest) ← nextToken rest
      if token.any (isKeyword "EXISTS") then
        let (token, rest) ← nextToken rest
        let (object, rest) ← readObject token rest
        return (.drop kind true object, rest)
      else throw (misplaced token)
    else
      let (object, rest) ← readObject token rest
      return (.drop kind false object, rest)

/-- Reads what follows the word that deletes rows. -/
def readDelete (text : List Char) : Except String (Statement × List Char) := do
  let (token, rest) ← nextToken text
  if token.any (isKeyword "FROM") then
    let (token, rest) ← nextToken rest
    let (object, rest) ← readObject token rest
    return (.deleteAll object, rest)
  else throw (misplaced token)

/-- Reads the first statement of a text and what follows it, or nothing if there is none
behind at most `limit` semicolons. -/
def read (limit : Nat) (text : List Char) : Except String (Option (Statement × List Char)) := do
  let (token, rest) ← nextToken text
  match limit, token with
  | _, none => return none
  | 0, _ => return none
  | limit + 1, some token =>
    if token.kind == .semicolon then read limit rest
    else if isKeyword "DROP" token then return some (← readDrop rest)
    else if isKeyword "DELETE" token then return some (← readDelete rest)
    else throw (misplaced (some token))

end Statement

end MemoStore.Sql
