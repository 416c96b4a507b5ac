import MemoStore.Failure.Recognise
import MemoStore.Log
import MemoStore.Schema.Changelog

/-!
# Sessions with a server

What the set-up of a schema does, as a value: a tree of the calls that it makes and
of how it goes on with each answer. A server is anything that answers the calls; the
same session runs against a database, against a scripted server, or step by step
between the steps of other sessions.
-/

namespace MemoStore.Schema

/-- A session that ends in a result. -/
inductive Session (α : Type) where
  /-- nothing more to do -/
  | done (result : α)
  /-- writes a log record -/
  | report (record : Log.Record) (next : Session α)
  /-- asks whether an object exists -/
  | lookup (object : Object) (next : Except EngineError Bool → Session α)
  /-- runs a statement of the changelog -/
  | execute (step : Step) (next : Except EngineError Unit → Session α)
  /-- opens a transaction -/
  | openTransaction (next : Except EngineError Unit → Session α)
  /-- keeps what the transaction did -/
  | commit (next : Except EngineError Unit → Session α)
  /-- takes back what the transaction did -/
  | rollback (next : Session α)

namespace Session

/-- Goes on with the result of a session. -/
def bind {α β : Type} : Session α → (α → Session β) → Session β
  | .done result, f => f result
  | .report record next, f => .report record (next.bind f)
  | .lookup object next, f => .lookup object fun answer => (next answer).bind f
  | .execute step next, f => .execute step fun answer => (next answer).bind f
  | .openTransaction next, f => .openTransaction fun answer => (next answer).bind f
  | .commit next, f => .commit fun answer => (next answer).bind f
  | .rollback next, f => .rollback (next.bind f)

instance : Monad Session where
  pure := .done
  bind := bind

/-- Goes on with the value of a session unless it failed. -/
def andThen {α β : Type} (session : Session (Except Failure α))
    (f : α → Session (Except Failure β)) : Session (Except Failure β) :=
  session.bind fun
    | .ok value => f value
    | .error failure => .done (.error failure)

end Session

/-- A server with a state of its own. -/
structure Server (σ : Type) where
  lookup : Object → σ → Except EngineError Bool × σ
  execute : Step → σ → Except EngineError Unit × σ
  openTransaction : σ → Except EngineError Unit × σ
  commit : σ → Except EngineError Unit × σ
  rollback : σ → σ

/-- What a session that ran to its end leaves. -/
structure Outcome (σ α : Type) where
  result : α
  state : σ
  log : List Log.Record

/-- Runs a session against a server. -/
def Session.run {σ α : Type} (server : Server σ) : Session α → σ → Outcome σ α
  | .done result, state => ⟨result, state, []⟩
  | .report record next, state =>
    let outcome := next.run server state
    { outcome with log := record :: outcome.log }
  | .lookup object next, state =>
    let (answer, state) := server.lookup object state
    (next answer).run server state
  | .execute step next, state =>
    let (answer, state) := server.execute step state
    (next answer).run server state
  | .openTransaction next, state =>
    let (answer, state) := server.openTransaction state
    (next answer).run server state
  | .commit next, state =>
    let (answer, state) := server.commit state
    (next answer).run server state
  | .rollback next, state => next.run server (server.rollback state)

end MemoStore.Schema
