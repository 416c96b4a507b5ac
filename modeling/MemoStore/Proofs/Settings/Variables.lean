import Mathlib.Logic.Function.Basic
import MemoStore.Proofs.Settings.Values

/-!
# Settings from variables

What settings make of variables, whatever the variables are set to. `ofLookup_accepts` says when a
number of connections, the variant and the format differ from their defaults, which variables are
reported, in which order and with which text, and that every field is read from one variable alone.
Reading and reporting go by the same texts, those of `readings`.
-/

namespace MemoStore.Settings

open MemoStore.Document (Format)
open MemoStore.Schema (Variant)
open MemoStore.Text

variable {lookup other : String → Option String}

/-! ## Reports -/

/-- A variable whose value has to be understood: the texts that are, and what stands before and
behind any other text in the report about it. -/
structure Reading where
  name : String
  Accepts : List Char → Prop
  opening : String
  closing : String

namespace Reading

/-- Whether tag names are unique. -/
def flag : Reading where
  name := "TAG_NAME_UNIQUE"
  Accepts text := ∃ flag, Spells (flagWords flag) text
  opening := "TAG_NAME_UNIQUE="
  closing := " is not a boolean, keeping the unique index"

/-- The greatest number of connections. -/
def connections : Reading where
  name := "DB_MAX_CONNECTIONS"
  Accepts text := ∃ n, IsCount text n
  opening := "DB_MAX_CONNECTIONS="
  closing := " is not a positive integer, using the pool default"

/-- The format of the document. -/
def format : Reading where
  name := "SCHEMA_DOC_FORMAT"
  Accepts text := ∃ format, Spells (formatWords format) text
  opening := "unknown SCHEMA_DOC_FORMAT="
  closing := ", falling back to yaml"

end Reading

/-- The variables whose values have to be understood, in the order of their reports. -/
def readings : List Reading :=
  [.flag, .connections, .format]

/-- Reports about variables in their order: one about each that is set to a text that it does not
accept, with this text in it as it is, and none about any other. -/
inductive Reported (lookup : String → Option String) :
    List Reading → List Log.Record → Prop where
  | done : Reported lookup [] []
  | quiet {reading readings reports}
      (accepted : ∀ text, lookup reading.name = some text → reading.Accepts text.toList)
      (rest : Reported lookup readings reports) : Reported lookup (reading :: readings) reports
  | warned {reading text readings reports} (given : lookup reading.name = some text)
      (unusable : ¬ reading.Accepts text.toList) (rest : Reported lookup readings reports) :
      Reported lookup (reading :: readings)
        (⟨.warn, .settings, reading.opening ++ text ++ reading.closing⟩ :: reports)

/-- A variable is reported as it is read, if its reader succeeds on the texts that it accepts. -/
theorem Reported.cons {α : Type} {read : String → Option α} {reading : Reading}
    {readings : List Reading} {reports : List Log.Record}
    (reads : ∀ text, (read text).isSome = true ↔ reading.Accepts text.toList)
    (rest : Reported lookup readings reports) :
    Reported lookup (reading :: readings)
      (warningUnless read (fun text => reading.opening ++ text ++ reading.closing)
        (lookup reading.name) ++ reports) := by
  cases given : lookup reading.name with
  | none => exact .quiet (fun text set => by simp [given] at set) rest
  | some text =>
      rw [warningUnless]
      split
      · rename_i understood
        refine .quiet (fun same set => ?_) rest
        obtain rfl : text = same := Option.some.inj (given.symm.trans set)
        exact (reads text).mp understood
      · rename_i unread
        exact .warned given (fun accepted => unread ((reads text).mpr accepted)) rest

/-- The name of a format, as it is read without regard to the reason of a failure. -/
theorem toOption_read_iff {text : String} (format : Format) :
    (Format.read text).toOption = some format ↔ Spells (formatWords format) text.toList := by
  rw [← read_iff]
  cases Format.read text with
  | ok found => exact ⟨congrArg Except.ok ∘ Option.some.inj, fun same => by cases same; rfl⟩
  | error failure => exact ⟨nofun, nofun⟩

/-- The reports are those about the variables that are set to a text that is not understood. -/
theorem reported_warnings (lookup : String → Option String) :
    Reported lookup readings (warnings lookup) := by
  have flag (text : String) :
      (readFlag text).isSome = true ↔ Reading.flag.Accepts text.toList := by
    simp only [Option.isSome_iff_exists, readFlag_iff, Reading.flag]
  have connections (text : String) :
      (readConnections text).isSome = true ↔ Reading.connections.Accepts text.toList := by
    simp only [Option.isSome_iff_exists, readConnections_iff, Reading.connections]
  have format (text : String) :
      (Format.read text).toOption.isSome = true ↔ Reading.format.Accepts text.toList := by
    simp only [Option.isSome_iff_exists, toOption_read_iff, Reading.format]
  have reports : Reported lookup readings _ := .cons flag (.cons connections (.cons format .done))
  rwa [List.append_nil, ← List.append_assoc] at reports

/-! ## Fields -/

/-- A field of the settings. -/
inductive Field where
  | sqlitePath
  | databaseUrl
  | variant
  | maxConnections
  | docDirectory
  | docFormat
  deriving DecidableEq, Repr

namespace Field

/-- The variable that a field is read from. -/
def source : Field → String
  | .sqlitePath => "SQLITE_PATH"
  | .databaseUrl => "DATABASE_URL"
  | .variant => "TAG_NAME_UNIQUE"
  | .maxConnections => "DB_MAX_CONNECTIONS"
  | .docDirectory => "SCHEMA_DOC_DIR"
  | .docFormat => "SCHEMA_DOC_FORMAT"

/-- Whether two settings agree in a field. -/
def Same (left right : Settings) : Field → Prop
  | .sqlitePath => left.sqlitePath = right.sqlitePath
  | .databaseUrl => left.databaseUrl = right.databaseUrl
  | .variant => left.variant = right.variant
  | .maxConnections => left.maxConnections = right.maxConnections
  | .docDirectory => left.docDirectory = right.docDirectory
  | .docFormat => left.docFormat = right.docFormat

/-- No two fields are read from one variable. -/
theorem source_injective : Function.Injective source := by
  intro field other same
  cases field <;> cases other <;> first | rfl | exact absurd same (by decide)

/-- There are no other fields: settings that agree in all of these are the same. -/
theorem eq_of_same {left right : Settings} (same : ∀ field, Same left right field) :
    left = right := by
  obtain ⟨_, _, _, _, _, _⟩ := left
  obtain ⟨_, _, _, _, _, _⟩ := right
  rw [Settings.mk.injEq]
  exact ⟨same .sqlitePath, same .databaseUrl, same .variant, same .maxConnections,
    same .docDirectory, same .docFormat⟩

/-- A field is a function of the variable that it is read from. -/
theorem same_ofLookup {field : Field} (agree : lookup field.source = other field.source) :
    Same (ofLookup lookup) (ofLookup other) field := by
  cases field <;> simp only [Same, ofLookup, source] at agree ⊢ <;> rw [agree]

end Field

/-- The most that one variable decides: nothing, or the field that is read from it. -/
def ChangesOnly (name : String) (old new : Settings) : Prop :=
  new = old ∨ ∃ field : Field, field.source = name ∧ ∀ other, other ≠ field → other.Same new old

/-- Another value of a variable changes no field but its own. -/
theorem changesOnly_update (lookup : String → Option String) (name : String)
    (value : Option String) :
    ChangesOnly name (ofLookup lookup) (ofLookup (Function.update lookup name value)) := by
  by_cases read : ∃ field : Field, field.source = name
  · obtain ⟨field, rfl⟩ := read
    refine .inr ⟨field, rfl, fun other apart => Field.same_ofLookup ?_⟩
    exact Function.update_of_ne (Field.source_injective.ne apart) _ _
  · refine .inl (Field.eq_of_same fun field => Field.same_ofLookup ?_)
    exact Function.update_of_ne (fun same => read ⟨field, same⟩) _ _

/-! ## Settings -/

/-- What settings make of variables. Exactly the numerals of positive numbers of 32 bits give a number
of connections, exactly the four words for a no give the basic variant, and exactly the word `json`
gives JSON, whatever the case of ASCII letters and the blanks around them. One report is made about
each variable that is set and not understood, in the order of `readings`, and a variable decides no
field but its own. -/
theorem ofLookup_accepts (lookup : String → Option String) :
    (∀ n, (ofLookup lookup).maxConnections = some n ↔
      ∃ text, lookup "DB_MAX_CONNECTIONS" = some text ∧ IsCount text.toList n) ∧
    ((ofLookup lookup).variant = .basic ↔
      ∃ text, lookup "TAG_NAME_UNIQUE" = some text ∧
        Spells ["false", "0", "no", "off"] text.toList) ∧
    ((ofLookup lookup).docFormat = .json ↔
      ∃ text, lookup "SCHEMA_DOC_FORMAT" = some text ∧ Spells ["json"] text.toList) ∧
    Reported lookup readings (warnings lookup) ∧
    ∀ name value,
      ChangesOnly name (ofLookup lookup) (ofLookup (Function.update lookup name value)) := by
  refine ⟨fun n => ?connections, ?variant, ?format, reported_warnings lookup,
    changesOnly_update lookup⟩
  case connections =>
    simp only [ofLookup, Option.bind_eq_some_iff, readConnections_iff]
  case variant =>
    have basic (flag : Bool) : Variant.ofIndex flag = .basic ↔ flag = false := by
      cases flag <;> decide
    simp only [ofLookup, basic, Option.getD_eq_iff, Option.bind_eq_some_iff, readFlag_iff,
      Bool.true_eq_false, and_false, or_false]
    rfl
  case format =>
    simp only [ofLookup, Option.getD_eq_iff, Option.bind_eq_some_iff, toOption_read_iff,
      reduceCtorEq, and_false, or_false]
    rfl

end MemoStore.Settings
