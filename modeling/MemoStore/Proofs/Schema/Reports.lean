import MemoStore.Proofs.Schema.Sessions

/-!
# What sessions report

`Session.Reports` says that all records that a session can write have a property, whatever the
server answers, so the log of each of its runs has it. Looking for objects reports nothing, and
the set-up of a schema reports as what it is.
-/

namespace MemoStore.Schema

variable {σ α β : Type}

namespace Session

/-- Whether every record that a session can write has a property. -/
def Reports (p : Log.Record → Prop) : Session α → Prop
  | .done _ => True
  | .report record next => p record ∧ next.Reports p
  | .lookup _ next => ∀ answer, (next answer).Reports p
  | .execute _ next | .openTransaction next | .commit next => ∀ answer, (next answer).Reports p
  | .rollback next => next.Reports p

variable {p : Log.Record → Prop}

/-- Every record of a run has the property. -/
theorem Reports.run {session : Session α} (reports : session.Reports p) (server : Server σ)
    (state : σ) : ∀ record ∈ (session.run server state).log, p record := by
  induction session generalizing state with
  | done result => exact fun record member => absurd member List.not_mem_nil
  | report record next inductionHypothesis =>
      intro found member
      rcases List.mem_cons.mp member with rfl | later
      · exact reports.1
      · exact inductionHypothesis reports.2 state found later
  | lookup object next inductionHypothesis => exact inductionHypothesis _ (reports _) _
  | execute step next inductionHypothesis => exact inductionHypothesis _ (reports _) _
  | openTransaction next inductionHypothesis => exact inductionHypothesis _ (reports _) _
  | commit next inductionHypothesis => exact inductionHypothesis _ (reports _) _
  | rollback next inductionHypothesis => exact inductionHypothesis reports _

/-- Two sessions in a row report what each of them may. -/
theorem Reports.bind {session : Session α} {f : α → Session β} (reports : session.Reports p)
    (later : ∀ result, (f result).Reports p) : (session.bind f).Reports p := by
  induction session with
  | done result => exact later result
  | report record next inductionHypothesis => exact ⟨reports.1, inductionHypothesis reports.2⟩
  | lookup object next inductionHypothesis =>
      exact fun answer => inductionHypothesis answer (reports answer)
  | execute step next inductionHypothesis =>
      exact fun answer => inductionHypothesis answer (reports answer)
  | openTransaction next inductionHypothesis =>
      exact fun answer => inductionHypothesis answer (reports answer)
  | commit next inductionHypothesis =>
      exact fun answer => inductionHypothesis answer (reports answer)
  | rollback next inductionHypothesis => exact inductionHypothesis reports

/-- Two sessions in a row, the second only after a success, report what each of them may. -/
theorem Reports.andThen {session : Session (Except Failure α)}
    {f : α → Session (Except Failure β)} (reports : session.Reports p)
    (later : ∀ value, (f value).Reports p) : (session.andThen f).Reports p := by
  refine reports.bind fun result => ?_
  cases result with
  | ok value => exact later value
  | error failure => trivial

end Session

/-- The search for missing objects reports nothing, so all that it reports has any property. -/
theorem reports_findMissing {p : Log.Record → Prop} (objects : List Object) :
    (findMissing objects).Reports p := by
  induction objects with
  | nil => trivial
  | cons object rest inductionHypothesis =>
      intro answer
      cases answer with
      | ok found => exact inductionHypothesis.andThen fun _ => trivial
      | error error => trivial

/-- To find out how much of a schema is there reports nothing. -/
theorem reports_presence {p : Log.Record → Prop} (backend : Backend) :
    (presence backend).Reports p := by
  unfold presence
  split
  · trivial
  · exact (reports_findMissing _).andThen fun _ => trivial

/-- All that the set-up of a schema reports, it reports as the schema. -/
theorem reports_initSchema (backend : Backend) (variant : Variant) :
    (initSchema backend variant).Reports fun record => record.source = .schema := by
  have running (list : List Step) :
      (applySteps list).Reports fun record => record.source = .schema := by
    induction list with
    | nil => trivial
    | cons step rest inductionHypothesis =>
        refine ⟨rfl, fun answer => ?_⟩
        cases answer with
        | ok done => exact inductionHypothesis
        | error error => trivial
  have ending (result : Except Failure Unit) :
      (endTransaction result).Reports fun record => record.source = .schema := by
    cases result with
    | ok done => exact fun answer => by cases answer <;> trivial
    | error failure => trivial
  have together (list : List Step) :
      (applyTogether list).Reports fun record => record.source = .schema := by
    intro answer
    cases answer with
    | ok done => exact (running list).bind ending
    | error error => trivial
  have applying : (applyChangelog backend variant).Reports fun record =>
      record.source = .schema := by
    unfold applyChangelog
    split
    · trivial
    · rename_i list _
      refine ⟨rfl, Session.Reports.andThen ?_ fun _ => trivial⟩
      split
      · exact together list
      · exact running list
  refine (reports_presence backend).andThen fun presence => ?_
  cases presence with
  | complete => exact ⟨rfl, trivial⟩
  | incomplete missing =>
      simp only
      split
      · exact ⟨rfl, applying⟩
      · trivial
  | absent => exact applying

end MemoStore.Schema
