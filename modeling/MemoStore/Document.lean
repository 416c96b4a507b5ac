import MemoStore.Document.Json
import MemoStore.Document.Yaml
import MemoStore.Failure.Basic
import MemoStore.Text.Blank
import MemoStore.Text.Lowercase

/-!
# Schema documents

The formats that the catalog can be exported in, and the document of a list of
tables in each of them.
-/

namespace MemoStore.Document

/-- A format of documents. -/
inductive Format where
  | yaml
  | json
  deriving DecidableEq, Repr

namespace Format

/-- The name of the file that a document of the format is written to. -/
def fileName : Format → String
  | .yaml => "schema.yml"
  | .json => "schema.json"

/-- Reads the name of a format, whatever its case and the blanks around it. -/
def read (text : String) : Except Failure Format :=
  let word := String.ofList (Text.lower (Text.trim text.toList))
  if word = "yaml" || word = "yml" then .ok .yaml
  else if word = "json" then .ok .json
  else .error (.config ("unknown document format: " ++ word))

end Format

/-- The document of a list of tables. -/
def render (format : Format) (tables : List Catalog.Table) : String :=
  match format with
  | .yaml => Yaml.render (Node.ofTables tables)
  | .json => Json.render (Node.ofTables tables)

end MemoStore.Document
