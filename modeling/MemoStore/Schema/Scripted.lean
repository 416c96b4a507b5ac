import MemoStore.Schema.Lookup
import MemoStore.Schema.Session

/-!
# A scripted server

A server whose answers are laid down beforehand: which names it has, which lookups
fail and which statements fail. It keeps the trace of what it was asked.
-/

namespace MemoStore.Schema

/-- The answers of a server. Statements are counted from 0. -/
structure Answers where
  present : String → Bool
  failingLookup : String → Option EngineError
  failingStatement : Nat → Option EngineError

/-- What a server was asked. -/
inductive Event where
  | query (sql : String) (name : String)
  | statement (sql : String)
  | openTransaction
  | commit
  | rollback
  deriving DecidableEq, Repr

/-- What a server has been asked so far. -/
structure Trace where
  events : List Event := []
  executed : Nat := 0

/-- Adds an event. -/
def Trace.add (trace : Trace) (event : Event) : Trace :=
  { trace with events := trace.events ++ [event] }

/-- The server that gives laid-down answers. -/
def Answers.server (answers : Answers) (backend : Backend) : Server Trace where
  lookup object trace :=
    (match answers.failingLookup object.name with
      | some error => .error error
      | none => .ok (answers.present object.name),
      trace.add (.query (lookupSql backend object) object.name))
  execute step trace :=
    (match answers.failingStatement trace.executed with
      | some error => .error error
      | none => .ok (),
      { trace.add (.statement step.sql) with executed := trace.executed + 1 })
  openTransaction trace := (.ok (), trace.add .openTransaction)
  commit trace := (.ok (), trace.add .commit)
  rollback trace := trace.add .rollback

end MemoStore.Schema
