import MemoStore.Schema.Session
import MemoStore.Text.Lines

/-!
# Setting up the schema

A schema is complete when every object of the changelog exists, absent when none
does. A complete one is left alone. On SQLite the whole changelog is applied in one
transaction, also to a schema that is there in part, because its statements leave
existing objects as they are. Elsewhere a statement cannot be taken back, so a schema
that is there in part is only reported.
-/

namespace MemoStore.Schema

/-- How much of the changelog a database already has. -/
inductive Presence where
  | absent
  | incomplete (missing : List Object)
  | complete
  deriving DecidableEq, Repr

/-- What the missing ones among the required objects mean. -/
def Presence.of (required missing : List Object) : Presence :=
  if missing.isEmpty then .complete
  else if missing.length = required.length then .absent
  else .incomplete missing

/-- The objects that a database must have, unless the backend has no changelog. -/
def requiredObjects (backend : Backend) : Except Failure (List Object) :=
  match backend with
  | .postgres => .error (unsupported backend)
  | _ => .ok (scriptObjects backend)

/-- Looks objects up one after the other and keeps those that are missing. -/
def findMissing : List Object → Session (Except Failure (List Object))
  | [] => .done (.ok [])
  | object :: rest =>
    .lookup object fun
      | .error error => .done (.error (Failure.ofEngine error))
      | .ok found =>
        (findMissing rest).andThen fun missing =>
          .done (.ok (if found then missing else object :: missing))

/-- Finds out how much of the changelog is there. -/
def presence (backend : Backend) : Session (Except Failure Presence) :=
  match requiredObjects backend with
  | .error failure => .done (.error failure)
  | .ok required =>
    (findMissing required).andThen fun missing => .done (.ok (Presence.of required missing))

/-- Finds out whether the schema is complete. -/
def isComplete (backend : Backend) : Session (Except Failure Bool) :=
  (presence backend).andThen fun presence => .done (.ok (presence == .complete))

/-- Finds out which variant a database was created with. -/
def detectVariant (backend : Backend) : Session (Except Failure Variant) :=
  match backend with
  | .postgres => .done (.error (unsupported backend))
  | _ =>
    .lookup .tagNameIndex fun
      | .error error => .done (.error (Failure.ofEngine error))
      | .ok found => .done (.ok (Variant.ofIndex found))

/-- The report that a statement is about to run, which shows its first line. -/
def stepReport (step : Step) : Log.Record :=
  ⟨.debug, .schema,
    "schema: " ++ String.ofList ((Text.lines step.sql.toList).headD [])⟩

/-- Runs statements in order, up to the first that fails. -/
def applySteps : List Step → Session (Except Failure Unit)
  | [] => .done (.ok ())
  | step :: rest =>
    .report (stepReport step)
      (.execute step fun
        | .error error => .done (.error (Failure.ofEngine error))
        | .ok () => applySteps rest)

/-- The report that the changelog is about to be applied. -/
def applyReport (backend : Backend) (variant : Variant) (count : Nat) : Log.Record :=
  ⟨.info, .schema,
    "applying " ++ toString count ++ " schema statements (backend=" ++ backend.label ++
      ", variant=" ++ variant.label ++ ")"⟩

/-- Ends a transaction after its statements. It is taken back if one of them failed, or if
it cannot be kept. -/
def endTransaction : Except Failure Unit → Session (Except Failure Unit)
  | .ok () =>
    .commit fun
      | .ok () => .done (.ok ())
      | .error error => .rollback (.done (.error (Failure.ofEngine error)))
  | .error failure => .rollback (.done (.error failure))

/-- Runs statements in one transaction. -/
def applyTogether (steps : List Step) : Session (Except Failure Unit) :=
  .openTransaction fun
    | .ok () => (applySteps steps).bind endTransaction
    | .error error => .done (.error (Failure.ofEngine error))

/-- Applies the changelog of a variant. -/
def applyChangelog (backend : Backend) (variant : Variant) : Session (Except Failure Bool) :=
  match steps backend variant with
  | .error failure => .done (.error failure)
  | .ok steps =>
    .report (applyReport backend variant steps.length)
      ((if backend = .sqlite then applyTogether steps else applySteps steps).andThen
        fun () => .done (.ok true))

/-- The names of objects, as messages list them. -/
def nameList (objects : List Object) : String :=
  String.intercalate ", " (objects.map Object.name)

/-- Creates the schema unless it is there, and tells whether anything was applied. -/
def initSchema (backend : Backend) (variant : Variant) : Session (Except Failure Bool) :=
  (presence backend).andThen fun
    | .complete =>
      .report ⟨.debug, .schema, "schema already present, skipping changelog"⟩
        (.done (.ok false))
    | .incomplete missing =>
      if backend = .sqlite then
        .report
          ⟨.warn, .schema,
            "schema is incomplete (missing " ++ nameList missing ++ "), completing it"⟩
          (applyChangelog backend variant)
      else .done (.error (.incompleteSchema (missing.map Object.name)))
    | .absent => applyChangelog backend variant

end MemoStore.Schema
