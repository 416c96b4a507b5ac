import MemoStore.Log
import MemoStore.Pattern
import MemoStore.Text.Blank
import MemoStore.Text.Lines
import MemoStore.Text.Search
import MemoStore.Text.Terminal

/-!
# Filtering the log

A filter is written as directives with commas between them: a level for everything, a
source for all its records, or a source with a level behind an equals sign. The
directive with the longest name that a source begins with decides about its records.
Behind a slash stands a pattern that must be found in the texts of records that are shown.
A filter without directives shows errors.
-/

namespace MemoStore.Log

open MemoStore.Text

/-- How many levels are shown, the heaviest first. There is one level more than the
library uses. -/
abbrev Threshold := Nat

/-- The names of the thresholds, the one that shows nothing first. -/
def thresholdNames : List String := ["off", "error", "warn", "info", "debug", "trace"]

/-- The threshold that shows everything. -/
def everything : Threshold := 5

/-- The threshold that shows errors. -/
def errorsOnly : Threshold := 1

/-- Reads the name of a threshold, in any case. -/
def readThreshold? (text : List Char) : Option Threshold :=
  thresholdNames.findIdx? fun name => name.toList == text.map Char.toLower

/-- The least threshold that shows a level. -/
def Level.rank : Level → Threshold
  | .error => 1
  | .warn => 2
  | .info => 3
  | .debug => 4

/-- What is shown of the sources that a name begins, or of all sources. -/
structure Directive where
  name : Option String
  threshold : Threshold
  deriving DecidableEq, Repr

/-- A filter. -/
structure Filter where
  directives : List Directive := []
  pattern : Option TextPattern := none
  deriving DecidableEq, Repr

/-- A directive that was read, or the complaint about one. -/
def readDirective (text : List Char) : Except String Directive :=
  match pieces '=' text with
  | [name] =>
    match readThreshold? name with
    | some threshold => .ok ⟨none, threshold⟩
    | none => .ok ⟨some (String.ofList name), everything⟩
  | [name, level] =>
    if (trim level).isEmpty then .ok ⟨some (String.ofList name), everything⟩
    else
      match readThreshold? (trim level) with
      | some threshold => .ok ⟨some (String.ofList name), threshold⟩
      | none => .error ("invalid logging spec '" ++ String.ofList (trim level) ++ "'")
  | _ => .error ("invalid logging spec '" ++ String.ofList text ++ "'")

namespace Filter

/-- Adds a directive, instead of one with the same name. -/
def add (filter : Filter) (directive : Directive) : Filter :=
  if filter.directives.any fun found => found.name == directive.name then
    { filter with
      directives := filter.directives.map fun found =>
        if found.name == directive.name then directive else found }
  else { filter with directives := filter.directives ++ [directive] }

/-- Adds directives, and collects the complaints about those that cannot be read. -/
def addAll (filter : Filter) : List (List Char) → Filter × List String
  | [] => (filter, [])
  | text :: rest =>
    if (trim text).isEmpty then filter.addAll rest
    else
      match readDirective (trim text) with
      | .ok directive => (filter.add directive).addAll rest
      | .error complaint =>
        let (filter, complaints) := filter.addAll rest
        (filter, complaint :: complaints)

/-- Reads a filter, with the complaints about it. -/
def read (text : String) : Filter × List String :=
  match pieces '/' text.toList with
  | [directives] => addAll {} (pieces ',' directives)
  | [directives, pattern] =>
    let (filter, complaints) := addAll {} (pieces ',' directives)
    match TextPattern.read (String.ofList pattern) with
    | .ok pattern => ({ filter with pattern := some pattern }, complaints)
    | .error report => (filter, complaints ++ ["invalid regex filter - " ++ report])
  | _ => ({}, ["invalid logging spec '" ++ text ++ "' (too many '/'s)"])

/-- The better of two directives for a source: the one with the longer name, and of
two names of one length the later. -/
def better (source : String) (best : Option Directive) (directive : Directive) :
    Option Directive :=
  let name := directive.name.getD ""
  if name.toList.isPrefixOf source.toList then
    match best with
    | some found =>
      if (found.name.getD "").utf8ByteSize ≤ name.utf8ByteSize then some directive else best
    | none => some directive
  else best

/-- The threshold for a source. -/
def thresholdFor (filter : Filter) (source : String) : Threshold :=
  if filter.directives.isEmpty then errorsOnly
  else
    match filter.directives.foldl (better source) none with
    | some directive => directive.threshold
    | none => 0

/-- Whether a record is shown. -/
def shows (filter : Filter) (record : Record) : Bool :=
  record.level.rank ≤ filter.thresholdFor record.source.label &&
    filter.pattern.all (·.isFoundIn record.text.toList)

end Filter

/-- The text that shows a record: a text of several lines goes on indented, and control
sequences are taken out. -/
def Record.shown (record : Record) : List Char :=
  Terminal.plain
    (record.line.toList.flatMap (fun c => if c = '\n' then "\n    ".toList else [c]) ++ ['\n'])

/-- The line that tells of a complaint about a filter. -/
def complaintLine (complaint : String) : List Char :=
  ("warning: " ++ complaint ++ ", ignoring it\n").toList

/-- The lines that a filter shows, after the complaints about the filter itself. -/
def shownLines (filter : Filter) (complaints : List String) (records : List Record) :
    List String :=
  let text :=
    complaints.flatMap complaintLine ++ (records.filter filter.shows).flatMap Record.shown
  (lines text).map String.ofList

end MemoStore.Log
