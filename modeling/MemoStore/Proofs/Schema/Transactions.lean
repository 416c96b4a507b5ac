import MemoStore.Proofs.Schema.Sessions

/-!
# Transactions

What setting up a schema leaves when it fails. On SQLite the changelog runs in one
transaction, so `atomic_initSchema` finds everything as it was, on every server whose
transactions can be taken back.
-/

namespace MemoStore.Schema

variable {σ ρ : Type} {server : Server σ} {stored : σ → ρ} {saved : σ → Option ρ}

/-- A session that leaves what is stored as it was if it fails. -/
def Session.Atomic {α : Type} (session : Session (Except Failure α)) (server : Server σ)
    (stored : σ → ρ) : Prop :=
  ∀ state failure, (session.run server state).result = .error failure →
    stored (session.run server state).state = stored state

namespace Session.Atomic

variable {α β : Type}

/-- A session that is over is atomic. -/
theorem done {result : Except Failure α} : (Session.done result).Atomic server stored :=
  fun _ _ _ => rfl

/-- A report in front leaves a session atomic. -/
theorem report {record : Log.Record} {next : Session (Except Failure α)}
    (atomic : next.Atomic server stored) : (Session.report record next).Atomic server stored :=
  fun state failure failed => atomic state failure failed

/-- A session that changes nothing that is stored may go before an atomic one. -/
theorem andThen {session : Session (Except Failure α)}
    {f : α → Session (Except Failure β)}
    (quiet : ∀ state, stored (session.run server state).state = stored state)
    (atomic : ∀ value, (f value).Atomic server stored) :
    (session.andThen f).Atomic server stored := by
  intro state failure failed
  cases result : (session.run server state).result with
  | error reason =>
      rw [(run_andThen_of_error result).2]
      exact quiet state
  | ok value =>
      rw [(run_andThen_of_ok result).1] at failed
      rw [(run_andThen_of_ok result).2]
      exact (atomic value _ failure failed).trans (quiet state)

/-- A value may be given after an atomic session. -/
theorem andThen_done {session : Session (Except Failure α)} {f : α → β}
    (atomic : session.Atomic server stored) :
    (session.andThen fun value => .done (.ok (f value))).Atomic server stored := by
  intro state failure failed
  cases result : (session.run server state).result with
  | error reason =>
      rw [(run_andThen_of_error result).2]
      exact atomic state reason result
  | ok value =>
      rw [(run_andThen_of_ok result).1] at failed
      cases failed

end Session.Atomic

/-- A server whose transactions can be taken back. `stored` is what it stores and `saved`
what a rollback goes back to. -/
structure Server.Transactional (server : Server σ) (stored : σ → ρ) (saved : σ → Option ρ) :
    Prop where
  lookup : ∀ object state, stored (server.lookup object state).2 = stored state
  opened : ∀ state, (server.openTransaction state).1 = .ok () →
    saved (server.openTransaction state).2 = some (stored state)
  unopened : ∀ state error, (server.openTransaction state).1 = .error error →
    stored (server.openTransaction state).2 = stored state
  executed : ∀ step state, saved (server.execute step state).2 = saved state
  uncommitted : ∀ state error, (server.commit state).1 = .error error →
    saved (server.commit state).2 = saved state
  rolledBack : ∀ state before, saved state = some before → stored (server.rollback state) = before

namespace Server.Transactional

/-- Calls that break down leave a server with transactions. -/
theorem interrupted (transactional : server.Transactional stored saved)
    (breaks : Nat → Option EngineError) :
    (server.interrupted breaks).Transactional (stored ∘ Prod.snd) (saved ∘ Prod.snd) where
  lookup object state :=
    interruptedCall_holds (p := fun _ after => stored after = stored state.2) (fun _ => rfl)
      (transactional.lookup object state.2)
  opened state :=
    interruptedCall_holds
      (p := fun answer after => answer = .ok () → saved after = some (stored state.2))
      (fun _ impossible => by cases impossible) (transactional.opened state.2)
  unopened state error :=
    interruptedCall_holds
      (p := fun answer after => answer = .error error → stored after = stored state.2)
      (fun _ _ => rfl) (transactional.unopened state.2 error)
  executed step state :=
    interruptedCall_holds (p := fun _ after => saved after = saved state.2) (fun _ => rfl)
      (transactional.executed step state.2)
  uncommitted state error :=
    interruptedCall_holds
      (p := fun answer after => answer = .error error → saved after = saved state.2)
      (fun _ _ => rfl) (transactional.uncommitted state.2 error)
  rolledBack state before found := transactional.rolledBack state.2 before found

/-- Looking for missing objects changes nothing that is stored. -/
theorem stored_findMissing (transactional : server.Transactional stored saved)
    (objects : List Object) (state : σ) :
    stored ((findMissing objects).run server state).state = stored state := by
  induction objects generalizing state with
  | nil => rfl
  | cons object rest inductionHypothesis =>
      have kept := transactional.lookup object state
      rcases answer : (server.lookup object state).1 with error | found
      · simp only [findMissing, Session.run, answer, kept]
      · have later := inductionHypothesis (server.lookup object state).2
        simp only [findMissing, Session.run, answer, Session.andThen, Session.run_bind]
        split
        · exact later.trans kept
        · exact later.trans kept

/-- Finding out what is there changes nothing that is stored. -/
theorem stored_presence (transactional : server.Transactional stored saved)
    (backend : Backend) (state : σ) :
    stored ((presence backend).run server state).state = stored state := by
  unfold presence
  split
  · rfl
  · simp only [Session.andThen, Session.run_bind]
    split
    · exact transactional.stored_findMissing _ state
    · exact transactional.stored_findMissing _ state

/-- Statements do not change what a rollback goes back to. -/
theorem saved_applySteps (transactional : server.Transactional stored saved)
    (list : List Step) (state : σ) :
    saved ((applySteps list).run server state).state = saved state := by
  induction list generalizing state with
  | nil => rfl
  | cons step rest inductionHypothesis =>
      have kept := transactional.executed step state
      rcases answer : (server.execute step state).1 with error | done
      · simp only [applySteps, Session.run, answer, kept]
      · simp only [applySteps, Session.run, answer]
        exact (inductionHypothesis _).trans kept

/-- A transaction that fails is taken back, also if it cannot be kept. -/
theorem stored_endTransaction (transactional : server.Transactional stored saved)
    {result : Except Failure Unit} {state : σ} {before : ρ} (pending : saved state = some before)
    {failure : Failure}
    (failed : ((endTransaction result).run server state).result = .error failure) :
    stored ((endTransaction result).run server state).state = before := by
  cases result with
  | error reason => exact transactional.rolledBack state before pending
  | ok done =>
      simp only [endTransaction, Session.run] at failed ⊢
      rcases answer : (server.commit state).1 with reason | kept
      · simp only [Session.run]
        exact transactional.rolledBack _ before
          ((transactional.uncommitted state reason answer).trans pending)
      · rw [answer] at failed
        cases failed

/-- Statements in a transaction all take effect or none does. -/
theorem atomic_applyTogether (transactional : server.Transactional stored saved)
    (list : List Step) : (applyTogether list).Atomic server stored := by
  intro state failure failed
  simp only [applyTogether, Session.run] at failed ⊢
  rcases answer : (server.openTransaction state).1 with reason | opened
  · exact transactional.unopened state reason answer
  · rw [answer] at failed
    simp only [Session.run_bind] at failed ⊢
    refine transactional.stored_endTransaction ?_ failed
    rw [transactional.saved_applySteps]
    exact transactional.opened state answer

/-- Setting up a schema on SQLite changes nothing that is stored unless it succeeds. -/
theorem atomic_initSchema (transactional : server.Transactional stored saved)
    (variant : Variant) : (initSchema .sqlite variant).Atomic server stored := by
  have applying : (applyChangelog .sqlite variant).Atomic server stored := by
    unfold applyChangelog
    split
    · exact .done
    · rw [if_pos rfl]
      exact .report (.andThen_done (transactional.atomic_applyTogether _))
  refine .andThen (transactional.stored_presence .sqlite) fun found => ?_
  cases found with
  | complete => exact .report .done
  | incomplete missing => exact .report applying
  | absent => exact applying

end Server.Transactional

end MemoStore.Schema
