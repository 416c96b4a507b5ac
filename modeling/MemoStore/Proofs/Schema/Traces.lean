import MemoStore.Schema.Session

/-!
# Traces of sessions

A trace is the calls that a session makes with the answers it gets, whatever server gives
them. `Session.Reaches` says what is left of a session after a trace, and `Server.Serves`
which traces a server gives; a run is a trace that both allow (`exists_trace`,
`Reaches.run_eq`). A trace does not say when its calls were made, so it serves a session that
others interrupt as well as one that runs by itself.
-/

namespace MemoStore.Schema

variable {σ α β : Type}

/-- A call of a session with the answer to it. -/
inductive Call where
  | lookup (object : Object) (answer : Except EngineError Bool)
  | execute (step : Step) (answer : Except EngineError Unit)
  | openTransaction (answer : Except EngineError Unit)
  | commit (answer : Except EngineError Unit)
  | rollback

/-! ## What a session goes through -/

/-- A session that stands before a call goes on with the answer to it. -/
inductive Session.Makes : Session α → Call → Session α → Prop where
  | lookup {object : Object} {next : Except EngineError Bool → Session α}
      (answer : Except EngineError Bool) :
      Makes (.lookup object next) (.lookup object answer) (next answer)
  | execute {step : Step} {next : Except EngineError Unit → Session α}
      (answer : Except EngineError Unit) :
      Makes (.execute step next) (.execute step answer) (next answer)
  | openTransaction {next : Except EngineError Unit → Session α}
      (answer : Except EngineError Unit) :
      Makes (.openTransaction next) (.openTransaction answer) (next answer)
  | commit {next : Except EngineError Unit → Session α} (answer : Except EngineError Unit) :
      Makes (.commit next) (.commit answer) (next answer)
  | rollback {next : Session α} : Makes (.rollback next) .rollback next

/-- What is left of a session after some calls. -/
inductive Session.Reaches : Session α → List Call → Session α → Prop where
  | refl {session : Session α} : Reaches session [] session
  | report {record : Log.Record} {next last : Session α} {calls : List Call} :
      Reaches next calls last → Reaches (.report record next) calls last
  | call {session next last : Session α} {call : Call} {calls : List Call} :
      session.Makes call next → Reaches next calls last → Reaches session (call :: calls) last

namespace Session

/-- A session that is over makes no call. -/
@[simp] theorem reaches_done_iff {value result : α} {calls : List Call} :
    (Session.done value).Reaches calls (.done result) ↔ calls = [] ∧ result = value := by
  constructor
  · intro reached
    cases reached with
    | refl => exact ⟨rfl, rfl⟩
    | call makes => cases makes
  · rintro ⟨rfl, rfl⟩
    exact .refl

/-- A report is no call. -/
@[simp] theorem reaches_report_iff {record : Log.Record} {next : Session α} {calls : List Call}
    {result : α} :
    (Session.report record next).Reaches calls (.done result) ↔
      next.Reaches calls (.done result) := by
  constructor
  · intro reached
    cases reached with
    | report reached => exact reached
    | call makes => cases makes
  · exact .report

@[simp] theorem reaches_lookup_iff {object : Object} {next : Except EngineError Bool → Session α}
    {calls : List Call} {result : α} :
    (Session.lookup object next).Reaches calls (.done result) ↔
      ∃ answer rest, calls = .lookup object answer :: rest ∧
        (next answer).Reaches rest (.done result) := by
  constructor
  · intro reached
    cases reached with
    | call makes reached =>
        cases makes with
        | lookup answer => exact ⟨answer, _, rfl, reached⟩
  · rintro ⟨answer, rest, rfl, reached⟩
    exact .call (.lookup answer) reached

@[simp] theorem reaches_execute_iff {step : Step} {next : Except EngineError Unit → Session α}
    {calls : List Call} {result : α} :
    (Session.execute step next).Reaches calls (.done result) ↔
      ∃ answer rest, calls = .execute step answer :: rest ∧
        (next answer).Reaches rest (.done result) := by
  constructor
  · intro reached
    cases reached with
    | call makes reached =>
        cases makes with
        | execute answer => exact ⟨answer, _, rfl, reached⟩
  · rintro ⟨answer, rest, rfl, reached⟩
    exact .call (.execute answer) reached

/-- A session can go on from where it is. -/
theorem Reaches.trans {session middle last : Session α} {first second : List Call}
    (reached : session.Reaches first middle) (later : middle.Reaches second last) :
    session.Reaches (first ++ second) last := by
  induction reached with
  | refl => exact later
  | report _ inductionHypothesis => exact .report (inductionHypothesis later)
  | call makes _ inductionHypothesis => exact .call makes (inductionHypothesis later)

/-- What a session goes through it goes through call by call. -/
theorem Reaches.split {session last : Session α} {first second : List Call}
    (reached : session.Reaches (first ++ second) last) :
    ∃ middle, session.Reaches first middle ∧ middle.Reaches second last := by
  generalize same : first ++ second = calls at reached
  induction reached generalizing first with
  | refl =>
      obtain ⟨rfl, rfl⟩ := List.append_eq_nil_iff.mp same
      exact ⟨_, .refl, .refl⟩
  | report _ inductionHypothesis =>
      obtain ⟨middle, before, after⟩ := inductionHypothesis same
      exact ⟨middle, .report before, after⟩
  | call makes reached inductionHypothesis =>
      cases first with
      | nil =>
          subst same
          exact ⟨_, .refl, .call makes reached⟩
      | cons call first =>
          obtain ⟨rfl, rest⟩ := List.cons_eq_cons.mp same
          obtain ⟨middle, before, after⟩ := inductionHypothesis rest
          exact ⟨middle, .call makes before, after⟩

/-- Every session can come to its end. -/
theorem exists_reaches_done (session : Session α) :
    ∃ calls result, session.Reaches calls (.done result) := by
  induction session with
  | done result => exact ⟨[], result, .refl⟩
  | report record next inductionHypothesis =>
      obtain ⟨calls, result, reached⟩ := inductionHypothesis
      exact ⟨calls, result, .report reached⟩
  | lookup object next inductionHypothesis =>
      obtain ⟨calls, result, reached⟩ := inductionHypothesis (.ok true)
      exact ⟨_, result, .call (.lookup _) reached⟩
  | execute step next inductionHypothesis =>
      obtain ⟨calls, result, reached⟩ := inductionHypothesis (.ok ())
      exact ⟨_, result, .call (.execute _) reached⟩
  | openTransaction next inductionHypothesis =>
      obtain ⟨calls, result, reached⟩ := inductionHypothesis (.ok ())
      exact ⟨_, result, .call (.openTransaction _) reached⟩
  | commit next inductionHypothesis =>
      obtain ⟨calls, result, reached⟩ := inductionHypothesis (.ok ())
      exact ⟨_, result, .call (.commit _) reached⟩
  | rollback next inductionHypothesis =>
      obtain ⟨calls, result, reached⟩ := inductionHypothesis
      exact ⟨_, result, .call .rollback reached⟩

/-- A bound session goes through the first part to a value and then through the part that
the value selects. -/
theorem Reaches.of_bind {session : Session α} {f : α → Session β} {calls : List Call} {result : β}
    (reached : (session.bind f).Reaches calls (.done result)) :
    ∃ first second value, calls = first ++ second ∧ session.Reaches first (.done value) ∧
      (f value).Reaches second (.done result) := by
  induction session generalizing calls with
  | done value => exact ⟨[], calls, value, rfl, .refl, reached⟩
  | report record next inductionHypothesis =>
      cases reached with
      | report reached =>
          obtain ⟨first, second, value, same, before, after⟩ := inductionHypothesis reached
          exact ⟨first, second, value, same, .report before, after⟩
      | call makes => cases makes
  | lookup object next inductionHypothesis =>
      cases reached with
      | call makes reached =>
          cases makes with
          | lookup answer =>
              obtain ⟨first, second, value, rfl, before, after⟩ :=
                inductionHypothesis answer reached
              exact ⟨_, second, value, rfl, .call (.lookup answer) before, after⟩
  | execute step next inductionHypothesis =>
      cases reached with
      | call makes reached =>
          cases makes with
          | execute answer =>
              obtain ⟨first, second, value, rfl, before, after⟩ :=
                inductionHypothesis answer reached
              exact ⟨_, second, value, rfl, .call (.execute answer) before, after⟩
  | openTransaction next inductionHypothesis =>
      cases reached with
      | call makes reached =>
          cases makes with
          | openTransaction answer =>
              obtain ⟨first, second, value, rfl, before, after⟩ :=
                inductionHypothesis answer reached
              exact ⟨_, second, value, rfl, .call (.openTransaction answer) before, after⟩
  | commit next inductionHypothesis =>
      cases reached with
      | call makes reached =>
          cases makes with
          | commit answer =>
              obtain ⟨first, second, value, rfl, before, after⟩ :=
                inductionHypothesis answer reached
              exact ⟨_, second, value, rfl, .call (.commit answer) before, after⟩
  | rollback next inductionHypothesis =>
      cases reached with
      | call makes reached =>
          cases makes with
          | rollback =>
              obtain ⟨first, second, value, rfl, before, after⟩ := inductionHypothesis reached
              exact ⟨_, second, value, rfl, .call .rollback before, after⟩

/-- A bound session goes on where its first part ended. -/
theorem Reaches.bind_trans {session : Session α} {f : α → Session β} {first second : List Call}
    {value : α} {last : Session β} (reached : session.Reaches first (.done value))
    (later : (f value).Reaches second last) :
    (session.bind f).Reaches (first ++ second) last := by
  generalize ended : Session.done value = rest at reached
  induction reached with
  | refl =>
      subst ended
      exact later
  | report _ inductionHypothesis => exact .report (inductionHypothesis ended)
  | call makes _ inductionHypothesis =>
      cases makes with
      | lookup answer => exact .call (.lookup answer) (inductionHypothesis ended)
      | execute answer => exact .call (.execute answer) (inductionHypothesis ended)
      | openTransaction answer => exact .call (.openTransaction answer) (inductionHypothesis ended)
      | commit answer => exact .call (.commit answer) (inductionHypothesis ended)
      | rollback => exact .call .rollback (inductionHypothesis ended)

/-- A session that goes on with a value ends with the failure of the first part, or goes on. -/
theorem reaches_andThen_iff {session : Session (Except Failure α)}
    {f : α → Session (Except Failure β)} {calls : List Call} {result : Except Failure β} :
    (session.andThen f).Reaches calls (.done result) ↔
      (∃ failure, session.Reaches calls (.done (.error failure)) ∧ result = .error failure) ∨
        ∃ first second value, calls = first ++ second ∧
          session.Reaches first (.done (.ok value)) ∧ (f value).Reaches second (.done result) := by
  constructor
  · intro reached
    obtain ⟨first, second, value, rfl, before, after⟩ := Reaches.of_bind reached
    cases value with
    | error failure =>
        obtain ⟨rfl, rfl⟩ := reaches_done_iff.mp after
        exact .inl ⟨failure, by rwa [List.append_nil], rfl⟩
    | ok value => exact .inr ⟨first, second, value, rfl, before, after⟩
  · rintro (⟨failure, failed, rfl⟩ | ⟨first, second, value, rfl, before, after⟩)
    · rw [← List.append_nil calls]
      exact failed.bind_trans .refl
    · exact before.bind_trans after

/-- To change the value that a session ends with makes no call. -/
theorem reaches_andThen_done_iff {session : Session (Except Failure α)} {f : α → β}
    {calls : List Call} {result : Except Failure β} :
    (session.andThen fun value => .done (.ok (f value))).Reaches calls (.done result) ↔
      ∃ first, session.Reaches calls (.done first) ∧ result = first.map f := by
  rw [reaches_andThen_iff]
  constructor
  · rintro (⟨failure, failed, rfl⟩ | ⟨first, second, value, rfl, before, after⟩)
    · exact ⟨_, failed, rfl⟩
    · obtain ⟨rfl, rfl⟩ := reaches_done_iff.mp after
      rw [List.append_nil]
      exact ⟨_, before, rfl⟩
  · rintro ⟨first, reached, rfl⟩
    cases first with
    | error failure => exact .inl ⟨failure, reached, rfl⟩
    | ok value => exact .inr ⟨calls, [], value, (List.append_nil _).symm, reached, .refl⟩

end Session

/-! ## What a server gives -/

/-- A server answers a call and goes on to another state. -/
inductive Server.Gives (server : Server σ) : σ → Call → σ → Prop where
  | lookup {object : Object} {state next : σ} {answer : Except EngineError Bool} :
      server.lookup object state = (answer, next) → Gives server state (.lookup object answer) next
  | execute {step : Step} {state next : σ} {answer : Except EngineError Unit} :
      server.execute step state = (answer, next) → Gives server state (.execute step answer) next
  | openTransaction {state next : σ} {answer : Except EngineError Unit} :
      server.openTransaction state = (answer, next) →
        Gives server state (.openTransaction answer) next
  | commit {state next : σ} {answer : Except EngineError Unit} :
      server.commit state = (answer, next) → Gives server state (.commit answer) next
  | rollback {state : σ} : Gives server state .rollback (server.rollback state)

/-- A server answers calls one after the other. -/
inductive Server.Serves (server : Server σ) : σ → List Call → σ → Prop where
  | nil {state : σ} : Serves server state [] state
  | cons {state next last : σ} {call : Call} {calls : List Call} :
      server.Gives state call next → Serves server next calls last →
        Serves server state (call :: calls) last

/-- A server can go on answering. -/
theorem Server.Serves.trans {server : Server σ} {state middle last : σ}
    {first second : List Call} (served : server.Serves state first middle)
    (later : server.Serves middle second last) : server.Serves state (first ++ second) last := by
  induction served with
  | nil => exact later
  | cons gives _ inductionHypothesis => exact .cons gives (inductionHypothesis later)

namespace Session

/-- A run is a trace that the session goes through and the server gives. -/
theorem exists_trace (server : Server σ) (session : Session α) (state : σ) :
    ∃ calls, session.Reaches calls (.done (session.run server state).result) ∧
      server.Serves state calls (session.run server state).state := by
  induction session generalizing state with
  | done result => exact ⟨[], .refl, .nil⟩
  | report record next inductionHypothesis =>
      obtain ⟨calls, reached, served⟩ := inductionHypothesis state
      exact ⟨calls, .report reached, served⟩
  | lookup object next inductionHypothesis =>
      obtain ⟨calls, reached, served⟩ := inductionHypothesis _ (server.lookup object state).2
      exact ⟨_, .call (.lookup _) reached, .cons (.lookup rfl) served⟩
  | execute step next inductionHypothesis =>
      obtain ⟨calls, reached, served⟩ := inductionHypothesis _ (server.execute step state).2
      exact ⟨_, .call (.execute _) reached, .cons (.execute rfl) served⟩
  | openTransaction next inductionHypothesis =>
      obtain ⟨calls, reached, served⟩ := inductionHypothesis _ (server.openTransaction state).2
      exact ⟨_, .call (.openTransaction _) reached, .cons (.openTransaction rfl) served⟩
  | commit next inductionHypothesis =>
      obtain ⟨calls, reached, served⟩ := inductionHypothesis _ (server.commit state).2
      exact ⟨_, .call (.commit _) reached, .cons (.commit rfl) served⟩
  | rollback next inductionHypothesis =>
      obtain ⟨calls, reached, served⟩ := inductionHypothesis (server.rollback state)
      exact ⟨_, .call .rollback reached, .cons .rollback served⟩

/-- There is only one such trace. -/
theorem Reaches.run_eq {server : Server σ} {session : Session α} {calls : List Call}
    {result : α} {state last : σ} (reached : session.Reaches calls (.done result))
    (served : server.Serves state calls last) :
    (session.run server state).result = result ∧ (session.run server state).state = last := by
  generalize ended : Session.done result = rest at reached
  induction reached generalizing state with
  | refl =>
      subst ended
      cases served
      exact ⟨rfl, rfl⟩
  | report _ inductionHypothesis => exact inductionHypothesis served ended
  | call makes _ inductionHypothesis =>
      cases served with
      | cons gives served =>
          cases gives with
          | lookup given =>
              cases makes
              simpa only [run, given] using inductionHypothesis served ended
          | execute given =>
              cases makes
              simpa only [run, given] using inductionHypothesis served ended
          | openTransaction given =>
              cases makes
              simpa only [run, given] using inductionHypothesis served ended
          | commit given =>
              cases makes
              simpa only [run, given] using inductionHypothesis served ended
          | rollback =>
              cases makes
              exact inductionHypothesis served ended

end Session

end MemoStore.Schema
