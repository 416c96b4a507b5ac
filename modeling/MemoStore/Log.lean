/-!
# Log records

What the library reports while it works: a level, the part of the library that
reports, and a text.
-/

namespace MemoStore.Log

/-- The weight of a record, the heaviest first. -/
inductive Level where
  | error
  | warn
  | info
  | debug
  deriving DecidableEq, Repr

namespace Level

/-- The name of a level in the log. -/
def label : Level → String
  | .error => "ERROR"
  | .warn => "WARN"
  | .info => "INFO"
  | .debug => "DEBUG"

end Level

/-- The part of the program that reports. -/
inductive Source where
  | command
  | settings
  | connection
  | schema
  | document
  deriving DecidableEq, Repr

/-- The name of a source in the log. -/
def Source.label : Source → String
  | .command => "memo_schema"
  | .settings => "memo_schema::config"
  | .connection => "memo_schema::db"
  | .schema => "memo_schema::schema"
  | .document => "memo_schema::doc"

/-- One record. -/
structure Record where
  level : Level
  source : Source
  text : String
  deriving DecidableEq, Repr

/-- The line that shows a record. -/
def Record.line (record : Record) : String :=
  record.level.label ++ " " ++ record.source.label ++ ": " ++ record.text

end MemoStore.Log
