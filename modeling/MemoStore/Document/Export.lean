import MemoStore.Document
import MemoStore.Files.Disk
import MemoStore.Log

/-!
# Exporting the document

The document of a variant is written to a file of its own in a directory, which is
made if it is missing. The path that is reported is the one that was asked for, with
the name of the file behind it.
-/

namespace MemoStore.Document

open MemoStore.Files (Disk Path)
open MemoStore.Schema (Variant)

/-- The path that a document is written to. -/
def exportPath (directory : String) (format : Format) : String :=
  Path.join directory format.fileName

/-- The text that is written for a variant. -/
def exportText (variant : Variant) (format : Format) : String :=
  render format (Catalog.tables variant)

/-- Writes the document of a variant into a directory. -/
def writeExport (disk : Disk) (directory : String) (variant : Variant) (format : Format) :
    Except FileError Unit × Disk :=
  match disk.makeFolders (Path.read directory) with
  | (.ok (), disk) =>
    disk.settle
      (disk.write (Path.read (exportPath directory format)) (exportText variant format))
  | failed => failed

/-- The report that a document was written. -/
def exportReport (directory : String) (format : Format) : Log.Record :=
  ⟨.info, .document, "schema document written to " ++ exportPath directory format⟩

end MemoStore.Document
