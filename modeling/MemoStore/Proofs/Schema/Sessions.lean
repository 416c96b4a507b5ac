import MemoStore.Schema.Bootstrap

/-!
# Runs of sessions

A composed session runs its parts one after the other. `Server.interrupted` lets any call
of a server break down, which is how an engine fails for reasons of its own. A `Strict`
session fails with the first call that does, so `Strict.interrupted` leaves it two ways to
end: in a failure, or as if no call had broken down. Setting up a schema is strict.
-/

namespace MemoStore.Schema

variable {σ α β : Type}

namespace Session

/-- A bound session runs the first part and then the part that its result selects. -/
theorem run_bind (server : Server σ) (session : Session α) (f : α → Session β) (state : σ) :
    (session.bind f).run server state =
      let first := session.run server state
      let second := (f first.result).run server first.state
      ⟨second.result, second.state, first.log ++ second.log⟩ := by
  induction session generalizing state with
  | done result => simp [bind, run]
  | report record next inductionHypothesis => simp [bind, run, inductionHypothesis]
  | lookup object next inductionHypothesis => simp [bind, run, inductionHypothesis]
  | execute step next inductionHypothesis => simp [bind, run, inductionHypothesis]
  | openTransaction next inductionHypothesis => simp [bind, run, inductionHypothesis]
  | commit next inductionHypothesis => simp [bind, run, inductionHypothesis]
  | rollback next inductionHypothesis => simp [bind, run, inductionHypothesis]

/-- A session that goes on with a value does so from where the value was found. -/
theorem run_andThen_of_ok {server : Server σ} {session : Session (Except Failure α)}
    {f : α → Session (Except Failure β)} {state : σ} {value : α}
    (found : (session.run server state).result = .ok value) :
    ((session.andThen f).run server state).result =
        ((f value).run server (session.run server state).state).result ∧
      ((session.andThen f).run server state).state =
        ((f value).run server (session.run server state).state).state := by
  unfold andThen
  rw [run_bind]
  simp only [found, and_self]

/-- A failure ends a session where it happened. -/
theorem run_andThen_of_error {server : Server σ} {session : Session (Except Failure α)}
    {f : α → Session (Except Failure β)} {state : σ} {failure : Failure}
    (failed : (session.run server state).result = .error failure) :
    ((session.andThen f).run server state).result = .error failure ∧
      ((session.andThen f).run server state).state = (session.run server state).state := by
  unfold andThen
  rw [run_bind]
  simp only [failed, run, and_self]

/-- A session that ends in a failure without another call. -/
def Fails : Session (Except Failure α) → Prop
  | .done result => ∃ failure, result = .error failure
  | .report _ next | .rollback next => Fails next
  | .lookup _ _ | .execute _ _ | .openTransaction _ | .commit _ => False

/-- A session that fails as soon as the answer to a call is an error. -/
def Strict : Session (Except Failure α) → Prop
  | .done _ => True
  | .report _ next | .rollback next => Strict next
  | .lookup _ next =>
    (∀ error, (next (.error error)).Fails) ∧ ∀ found, Strict (next (.ok found))
  | .execute _ next | .openTransaction next | .commit next =>
    (∀ error, (next (.error error)).Fails) ∧ Strict (next (.ok ()))

/-- A session that fails does so on every server. -/
theorem Fails.run {session : Session (Except Failure α)} (fails : session.Fails)
    (server : Server σ) (state : σ) :
    ∃ failure, (session.run server state).result = .error failure := by
  induction session generalizing state with
  | done result => exact fails
  | report record next inductionHypothesis => exact inductionHypothesis fails state
  | lookup object next inductionHypothesis => exact fails.elim
  | execute step next inductionHypothesis => exact fails.elim
  | openTransaction next inductionHypothesis => exact fails.elim
  | commit next inductionHypothesis => exact fails.elim
  | rollback next inductionHypothesis => exact inductionHypothesis fails _

/-- A session that fails fails in a chain, when the rest passes failures on. -/
theorem Fails.bind {session : Session (Except Failure α)}
    {f : Except Failure α → Session (Except Failure β)} (fails : session.Fails)
    (passed : ∀ failure, (f (.error failure)).Fails) : (session.bind f).Fails := by
  induction session with
  | done result =>
      obtain ⟨failure, rfl⟩ := fails
      exact passed failure
  | report record next inductionHypothesis => exact inductionHypothesis fails
  | lookup object next inductionHypothesis => exact fails.elim
  | execute step next inductionHypothesis => exact fails.elim
  | openTransaction next inductionHypothesis => exact fails.elim
  | commit next inductionHypothesis => exact fails.elim
  | rollback next inductionHypothesis => exact inductionHypothesis fails

/-- Going on with strict sessions, and with failures after a failure, keeps a session
strict. -/
theorem Strict.bind {session : Session (Except Failure α)}
    {f : Except Failure α → Session (Except Failure β)} (strict : session.Strict)
    (passed : ∀ failure, (f (.error failure)).Fails) (later : ∀ value, (f (.ok value)).Strict)
    (ended : ∀ failure, (f (.error failure)).Strict) : (session.bind f).Strict := by
  induction session with
  | done result =>
      cases result with
      | ok value => exact later value
      | error failure => exact ended failure
  | report record next inductionHypothesis => exact inductionHypothesis strict
  | lookup object next inductionHypothesis =>
      exact ⟨fun error => (strict.1 error).bind passed,
        fun found => inductionHypothesis (.ok found) (strict.2 found)⟩
  | execute step next inductionHypothesis =>
      exact ⟨fun error => (strict.1 error).bind passed, inductionHypothesis (.ok ()) strict.2⟩
  | openTransaction next inductionHypothesis =>
      exact ⟨fun error => (strict.1 error).bind passed, inductionHypothesis (.ok ()) strict.2⟩
  | commit next inductionHypothesis =>
      exact ⟨fun error => (strict.1 error).bind passed, inductionHypothesis (.ok ()) strict.2⟩
  | rollback next inductionHypothesis => exact inductionHypothesis strict

/-- Two strict sessions in a row are strict. -/
theorem Strict.andThen {session : Session (Except Failure α)}
    {f : α → Session (Except Failure β)} (strict : session.Strict)
    (later : ∀ value, (f value).Strict) : (session.andThen f).Strict :=
  Strict.bind strict (fun failure => ⟨failure, rfl⟩) later fun _ => trivial

end Session

/-- A call to a server that may break down: the call with number `n` fails with `breaks n`,
if that is an error, and then changes nothing. -/
def interruptedCall (breaks : Nat → Option EngineError) (call : σ → Except EngineError α × σ)
    (state : Nat × σ) : Except EngineError α × Nat × σ :=
  match breaks state.1 with
  | some error => (.error error, state.1 + 1, state.2)
  | none => ((call state.2).1, state.1 + 1, (call state.2).2)

/-- A call that breaks down fails and changes nothing. Any other is made. -/
theorem interruptedCall_cases (breaks : Nat → Option EngineError)
    (call : σ → Except EngineError α × σ) (state : Nat × σ) :
    (∃ error, interruptedCall breaks call state = (.error error, state.1 + 1, state.2)) ∨
      interruptedCall breaks call state =
        ((call state.2).1, state.1 + 1, (call state.2).2) := by
  unfold interruptedCall
  cases breaks state.1 with
  | some error => exact .inl ⟨error, rfl⟩
  | none => exact .inr rfl

/-- What holds of a call that fails and changes nothing, and of the call itself, holds of one
that may break down. -/
theorem interruptedCall_holds {breaks : Nat → Option EngineError}
    {call : σ → Except EngineError α × σ} {state : Nat × σ}
    {p : Except EngineError α → σ → Prop} (broken : ∀ error, p (.error error) state.2)
    (made : p (call state.2).1 (call state.2).2) :
    p (interruptedCall breaks call state).1 (interruptedCall breaks call state).2.2 := by
  rcases interruptedCall_cases breaks call state with ⟨error, same⟩ | same
  · rw [same]
    exact broken error
  · rw [same]
    exact made

/-- A server all of whose calls may break down. To take a transaction back is no call: it
happens by itself when the transaction is given up. -/
def Server.interrupted (server : Server σ) (breaks : Nat → Option EngineError) :
    Server (Nat × σ) where
  lookup object := interruptedCall breaks (server.lookup object)
  execute step := interruptedCall breaks (server.execute step)
  openTransaction := interruptedCall breaks server.openTransaction
  commit := interruptedCall breaks server.commit
  rollback state := (state.1, server.rollback state.2)

/-- Whether a session that may be interrupted ends in a failure, or like another one that is
not. -/
def Outcome.IsInterrupted (outcome : Outcome (Nat × σ) (Except Failure α))
    (plain : Outcome σ (Except Failure α)) : Prop :=
  (∃ failure, outcome.result = .error failure) ∨
    (outcome.result = plain.result ∧ outcome.state.2 = plain.state)

/-- A call before a session that fails with the call. -/
theorem isInterrupted_call {server : Server σ} {breaks : Nat → Option EngineError}
    {call : σ → Except EngineError β × σ} {next : Except EngineError β → Session (Except Failure α)}
    (fails : ∀ error, (next (.error error)).Fails)
    (later : ∀ found count state,
      ((next (.ok found)).run (server.interrupted breaks) (count, state)).IsInterrupted
        ((next (.ok found)).run server state))
    (state : Nat × σ) :
    ((next (interruptedCall breaks call state).1).run (server.interrupted breaks)
        (interruptedCall breaks call state).2).IsInterrupted
      ((next (call state.2).1).run server (call state.2).2) := by
  rcases interruptedCall_cases breaks call state with ⟨error, broken⟩ | made
  · rw [broken]
    exact .inl ((fails error).run _ _)
  · rw [made]
    rcases (call state.2).1 with error | found
    · exact .inl ((fails error).run _ _)
    · exact later found _ _

/-- A strict session whose calls may break down fails, or runs as if none had. -/
theorem Session.Strict.interrupted {session : Session (Except Failure α)}
    (strict : session.Strict) (server : Server σ) (breaks : Nat → Option EngineError)
    (count : Nat) (state : σ) :
    (session.run (server.interrupted breaks) (count, state)).IsInterrupted
      (session.run server state) := by
  induction session generalizing count state with
  | done result => exact .inr ⟨rfl, rfl⟩
  | report record next inductionHypothesis => exact inductionHypothesis strict count state
  | lookup object next inductionHypothesis =>
      exact isInterrupted_call strict.1
        (fun found => inductionHypothesis (.ok found) (strict.2 found)) (count, state)
  | execute step next inductionHypothesis =>
      exact isInterrupted_call strict.1 (fun _ => inductionHypothesis (.ok ()) strict.2)
        (count, state)
  | openTransaction next inductionHypothesis =>
      exact isInterrupted_call strict.1 (fun _ => inductionHypothesis (.ok ()) strict.2)
        (count, state)
  | commit next inductionHypothesis =>
      exact isInterrupted_call strict.1 (fun _ => inductionHypothesis (.ok ()) strict.2)
        (count, state)
  | rollback next inductionHypothesis => exact inductionHypothesis strict count _

/-- Looking for missing objects is strict. -/
theorem strict_findMissing (objects : List Object) : (findMissing objects).Strict := by
  induction objects with
  | nil => trivial
  | cons object rest inductionHypothesis =>
      exact ⟨fun error => ⟨_, rfl⟩, fun found => inductionHypothesis.andThen fun _ => trivial⟩

/-- Running statements is strict. -/
theorem strict_applySteps (list : List Step) : (applySteps list).Strict := by
  induction list with
  | nil => trivial
  | cons step rest inductionHypothesis => exact ⟨fun error => ⟨_, rfl⟩, inductionHypothesis⟩

/-- Setting up a schema is strict. -/
theorem strict_initSchema (backend : Backend) (variant : Variant) :
    (initSchema backend variant).Strict := by
  have looking : (presence backend).Strict := by
    unfold presence
    split
    · trivial
    · exact (strict_findMissing _).andThen fun _ => trivial
  have together (list : List Step) : (applyTogether list).Strict := by
    refine ⟨fun error => ⟨_, rfl⟩, ?_⟩
    exact (strict_applySteps list).bind (fun failure => ⟨failure, rfl⟩)
      (fun _ => ⟨fun error => ⟨_, rfl⟩, trivial⟩) fun _ => trivial
  have applying : (applyChangelog backend variant).Strict := by
    unfold applyChangelog
    split
    · trivial
    · rename_i list _
      refine Session.Strict.andThen ?_ fun _ => trivial
      split
      · exact together list
      · exact strict_applySteps list
  refine looking.andThen fun presence => ?_
  cases presence with
  | complete => trivial
  | incomplete missing =>
      simp only
      split
      · exact applying
      · trivial
  | absent => exact applying

end MemoStore.Schema
