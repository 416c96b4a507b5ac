import MemoStore.Store.Records

/-!
# Requests

Everything a client can ask of a connection, as a value, with the answer to it. A
request that fails leaves the connection as it was, apart from what the statements of a
text before the failing one did and from a row whose key the client cannot hold, and the
next one goes on from there. Only the set-up of the schema writes log records.
-/

namespace MemoStore.Store

open MemoStore.Record (Entity Fields Route)
open MemoStore.Sql (ObjectKind)
open MemoStore.Schema (Presence Session Step Variant)
open MemoStore.Time (Instant)

/-- What a client asks for. -/
inductive Request where
  | insert (fields : Fields)
  | update (id : Int) (fields : Fields)
  | save (id : Int) (fields : Fields)
  | delete (entity : Entity) (id : Int)
  | deleteAll (entity : Entity)
  | get (entity : Entity) (id : Int)
  | list (entity : Entity)
  | count (entity : Entity)
  | related (source target : Entity) (route : Route) (id : Int)
  | drop (kind : ObjectKind) (name : String)
  | apply (step : Step)
  | objects
  | presence
  | isComplete
  | detectVariant
  | initSchema (variant : Variant)
  deriving DecidableEq, Repr

/-- What a client is told. -/
inductive Answer where
  | row (row : Row)
  /-- the row that a request starts from is not stored -/
  | noRow
  | found (row : Option Row)
  | rows (rows : List Row)
  | count (number : Nat)
  | affected (number : Nat)
  | done
  | objects (objects : List (String × String))
  | presence (presence : Presence)
  | flag (value : Bool)
  | variant (variant : Variant)
  | failed (failure : Failure)
  deriving DecidableEq, Repr

/-- What a request leaves. -/
structure Reply where
  connection : Connection
  answer : Answer
  log : List Log.Record := []

namespace Connection

/-- The reply to a request that changed the connection or failed. -/
def replyTo {α : Type} (connection : Connection) (result : Except Failure (Connection × α))
    (answer : α → Answer) : Reply :=
  match result with
  | .ok (connection, value) => { connection := connection, answer := answer value }
  | .error failure => { connection := connection, answer := .failed failure }

/-- The reply to a request that only reads. -/
def replyWith {α : Type} (connection : Connection) (result : Except Failure α)
    (answer : α → Answer) : Reply :=
  connection.replyTo (result.map fun value => (connection, value)) answer

/-- The reply to a session about the schema. -/
def replyToSession {α : Type} (connection : Connection)
    (session : Session (Except Failure α)) (answer : α → Answer) : Reply :=
  let outcome := session.run server connection
  { connection := outcome.state
    answer :=
      match outcome.result with
      | .ok value => answer value
      | .error failure => .failed failure
    log := outcome.log }

/-- Answers a request at a moment. -/
def handle (connection : Connection) (now : Instant) : Request → Reply
  | .insert fields =>
    match connection.store now fields with
    | .ok (connection, row) => connection.replyWith (handOut fields row) .row
    | .error failure => { connection := connection, answer := .failed failure }
  | .update id fields =>
    connection.replyTo (connection.update now id fields) fun row =>
      match row with
      | some row => .row row
      | none => .noRow
  | .save id fields => connection.replyTo (connection.save now id fields) .row
  | .delete entity id => connection.replyTo (connection.delete entity id) .affected
  | .deleteAll entity => connection.replyTo (connection.deleteAll entity) .affected
  | .get entity id => connection.replyWith (connection.get entity id) .found
  | .list entity => connection.replyWith (connection.list entity) .rows
  | .count entity => connection.replyWith (connection.count entity) .count
  | .related source target route id =>
    connection.replyWith (connection.related source target route id) fun rows =>
      match rows with
      | some rows => .rows rows
      | none => .noRow
  | .drop kind name =>
    match connection.drop kind name with
    | (.ok (), connection) => { connection := connection, answer := .done }
    | (.error failure, connection) => { connection := connection, answer := .failed failure }
  | .apply step =>
    connection.replyTo ((connection.apply step).map fun after => (after, ())) fun _ => .done
  | .objects =>
    connection.replyWith ((connection.read fun db => .ok db.objects).mapError readFailure)
      .objects
  | .presence => connection.replyToSession (Schema.presence .sqlite) .presence
  | .isComplete => connection.replyToSession (Schema.isComplete .sqlite) .flag
  | .detectVariant => connection.replyToSession (Schema.detectVariant .sqlite) .variant
  | .initSchema variant => connection.replyToSession (Schema.initSchema .sqlite variant) .flag

/-- Answers requests one after the other at one moment. -/
def handleAll (connection : Connection) (now : Instant) : List Request → List Reply
  | [] => []
  | request :: rest =>
    let reply := connection.handle now request
    reply :: reply.connection.handleAll now rest

end Connection

end MemoStore.Store
