import MemoStore.Proofs.Schema.Kept

/-!
# Concurrent set-ups

Several callers set up a schema on one MySQL server, each of its own variant. Each call of a
set-up is atomic, and between two of them the others may make any of theirs. An `Interleaving`
is what the server has answered so far, with the caller of every call.

The first `CREATE TABLE` is the lock: everyone who carries out a statement has carried out that
one (`user_of_kept`), and it succeeds once (`caller_of_created`). `Interleaving.exclusive`
draws from it what concurrent set-ups can rely on.
-/

namespace MemoStore.Schema

open MemoStore.Record (Entity)

variable {ι : Type} [DecidableEq ι] {variant : ι → Variant} {history : List (ι × Call)}
  {caller other : ι}

/-- The calls of one caller. -/
def callsOf (caller : ι) (history : List (ι × Call)) : List Call :=
  (history.filter fun entry => entry.1 = caller).map Prod.snd

/-- Calls that one caller makes. -/
def callsBy (caller : ι) (calls : List Call) : List (ι × Call) :=
  calls.map fun call => (caller, call)

/-- What callers that set up schemas at the same time may have been answered: a caller goes on
with its own set-up, lookups find what was created so far, and nothing is created twice. -/
inductive Interleaving (variant : ι → Variant) : List (ι × Call) → Prop where
  | start : Interleaving variant []
  | next {history : List (ι × Call)} {caller : ι} {call : Call}
      {rest : Session (Except Failure Bool)} : Interleaving variant history →
      (initSchema .mysql (variant caller)).Reaches (callsOf caller history ++ [call]) rest →
      call.Truthful (history.map Prod.snd) → call.Fresh (history.map Prod.snd) →
        Interleaving variant (history ++ callsBy caller [call])

/-- Whether a caller has come to the end of its set-up. -/
def Returned (variant : ι → Variant) (history : List (ι × Call)) (caller : ι)
    (result : Except Failure Bool) : Prop :=
  (initSchema .mysql (variant caller)).Reaches (callsOf caller history) (.done result)

/-! ## The calls of a caller -/

@[simp] theorem callsOf_nil : callsOf caller [] = [] := rfl

@[simp] theorem callsOf_append (first second : List (ι × Call)) :
    callsOf caller (first ++ second) = callsOf caller first ++ callsOf caller second := by
  simp [callsOf]

@[simp] theorem callsOf_own (calls : List Call) :
    callsOf caller (callsBy caller calls) = calls := by
  simp [callsOf, callsBy, List.filter_map, Function.comp_def]

/-- None of the calls of another caller is the caller's own. -/
theorem callsOf_other (different : other ≠ caller) (calls : List Call) :
    callsOf caller (callsBy other calls) = [] := by
  simp [callsOf, callsBy, List.filter_map, Function.comp_def, different]

omit [DecidableEq ι] in
@[simp] theorem map_snd_callsBy (calls : List Call) :
    (callsBy caller calls).map Prod.snd = calls := by
  simp [callsBy, Function.comp_def]

omit [DecidableEq ι] in
/-- The calls of one caller are its own and no one else's. -/
theorem mem_callsBy_iff {call : Call} {calls : List Call} :
    (caller, call) ∈ callsBy other calls ↔ caller = other ∧ call ∈ calls := by
  simp [callsBy, and_comm, eq_comm]

/-- A caller has made the calls that the history has under its name. -/
theorem mem_callsOf_iff {call : Call} :
    call ∈ callsOf caller history ↔ (caller, call) ∈ history := by
  simp [callsOf]

/-- What a caller created was created. -/
theorem created_of_callsOf {object : Object} (member : object ∈ created (callsOf caller history)) :
    ∃ step, step.creates = object ∧ (caller, Call.ran step) ∈ history := by
  obtain ⟨step, kept, rfl⟩ := List.mem_map.mp member
  exact ⟨step, rfl, mem_callsOf_iff.mp (mem_kept_iff.mp kept)⟩

omit [DecidableEq ι] in
/-- A statement that was carried out created its object. -/
theorem mem_created_of_ran {step : Step} (member : (caller, Call.ran step) ∈ history) :
    step.creates ∈ created (history.map Prod.snd) :=
  List.mem_map_of_mem (mem_kept_iff.mpr (List.mem_map_of_mem (f := Prod.snd) member))

namespace Interleaving

/-! ## What every answer keeps -/

/-- Every caller is somewhere in its own set-up. -/
theorem reaches (interleaved : Interleaving variant history) (caller : ι) :
    ∃ rest, (initSchema .mysql (variant caller)).Reaches (callsOf caller history) rest := by
  induction interleaved with
  | start => exact ⟨_, .refl⟩
  | @next history mover call rest _ reached _ _ inductionHypothesis =>
      rw [callsOf_append]
      by_cases same : mover = caller
      · subst same
        rw [callsOf_own]
        exact ⟨rest, reached⟩
      · rw [callsOf_other same, List.append_nil]
        exact inductionHypothesis

/-- Only one caller creates an object. -/
theorem caller_of_created (interleaved : Interleaving variant history) {step again : Step}
    (ran : (caller, Call.ran step) ∈ history) (ranAgain : (other, Call.ran again) ∈ history)
    (same : step.creates = again.creates) : caller = other := by
  induction interleaved with
  | start => cases ran
  | @next history mover call rest _ _ _ fresh inductionHypothesis =>
      rw [List.mem_append, mem_callsBy_iff, List.mem_singleton] at ran ranAgain
      rcases ran with before | ⟨rfl, rfl⟩ <;> rcases ranAgain with beforeAgain | ⟨rfl, now⟩
      · exact inductionHypothesis before beforeAgain
      · subst now
        exact absurd (same ▸ mem_created_of_ran before) fresh
      · exact absurd (same ▸ mem_created_of_ran beforeAgain) fresh
      · rfl

/-- What a lookup found was created. -/
theorem created_of_lookup (interleaved : Interleaving variant history) {object : Object}
    (found : (caller, Call.lookup object (.ok true)) ∈ history) :
    object ∈ created (history.map Prod.snd) := by
  induction interleaved with
  | start => cases found
  | @next history mover call rest _ _ truthful _ inductionHypothesis =>
      rw [List.map_append, created_append, List.mem_append]
      rw [List.mem_append, mem_callsBy_iff, List.mem_singleton] at found
      rcases found with before | ⟨rfl, rfl⟩
      · exact .inl (inductionHypothesis before)
      · exact .inl (truthful.mp rfl)

/-! ## What callers can rely on -/

/-- Only one caller carries out any statement. -/
theorem caller_of_ran (interleaved : Interleaving variant history) {step again : Step}
    (ran : (caller, Call.ran step) ∈ history) (ranAgain : (other, Call.ran again) ∈ history) :
    caller = other := by
  -- both have created the first table, which can be created once
  have first {mover : ι} {step : Step} (ran : (mover, Call.ran step) ∈ history) :
      ∃ first, first.creates = .table .user ∧ (mover, Call.ran first) ∈ history := by
    obtain ⟨list, found, -⟩ := exists_mysql_steps (variant mover)
    obtain ⟨rest, reached⟩ := interleaved.reaches mover
    refine created_of_callsOf (user_of_kept found (kept_prefix_of_reaches found reached) ?_)
    exact List.ne_nil_of_mem (mem_kept_iff.mpr (mem_callsOf_iff.mpr ran))
  obtain ⟨mine, creates, ran⟩ := first ran
  obtain ⟨theirs, createsAgain, ranAgain⟩ := first ranAgain
  exact interleaved.caller_of_created ran ranAgain (creates.trans createsAgain.symm)

/-- A caller that applied the changelog carried out every statement of its variant. -/
theorem kept_of_returned {list : List Step} (found : steps .mysql (variant caller) = .ok list)
    (returned : Returned variant history caller (.ok true)) :
    kept (callsOf caller history) = list := by
  obtain ⟨present, course⟩ := (reaches_initSchema_iff found).mp returned
  exact course.kept_of_applied

/-- A caller that found a schema found every required object. -/
theorem created_of_returned (interleaved : Interleaving variant history)
    (returned : Returned variant history caller (.ok false)) {object : Object}
    (member : object ∈ scriptObjects .mysql) : object ∈ created (history.map Prod.snd) := by
  obtain ⟨list, found, -⟩ := exists_mysql_steps (variant caller)
  obtain ⟨present, course⟩ := (reaches_initSchema_iff found).mp returned
  generalize answered : callsOf caller history = calls at course
  cases course with
  | complete all =>
      have looked : Call.looked present object ∈ callsOf caller history :=
        answered ▸ List.mem_map_of_mem member
      rw [Call.looked, all object member] at looked
      exact interleaved.created_of_lookup (mem_callsOf_iff.mp looked)

/-- Of callers that set up schemas at the same time, at most one applied the changelog and at
most one carried out any statement. One that applied it carried out every statement of its
variant, once each and in order. One that found a schema did so when every table, foreign key
and trigger was there. -/
theorem exclusive (interleaved : Interleaving variant history) :
    (∀ caller other, Returned variant history caller (.ok true) →
        Returned variant history other (.ok true) → caller = other) ∧
      (∀ caller other step again, (caller, Call.execute step (.ok ())) ∈ history →
        (other, Call.execute again (.ok ())) ∈ history → caller = other) ∧
      (∀ caller, Returned variant history caller (.ok true) →
        statements .mysql (variant caller) =
          .ok ((kept (callsOf caller history)).map Step.sql)) ∧
      ∀ caller, Returned variant history caller (.ok false) →
        (∀ entity, .table entity ∈ created (history.map Prod.snd)) ∧
          (∀ key, .foreignKey key ∈ created (history.map Prod.snd)) ∧
          .trigger .tagOwnerInsert ∈ created (history.map Prod.snd) ∧
          .trigger .tagOwnerUpdate ∈ created (history.map Prod.snd) := by
  refine ⟨fun caller other applied appliedAgain => ?_,
    fun caller other step again => interleaved.caller_of_ran, fun caller applied => ?_,
    fun caller there => ⟨fun entity => ?_, fun key => ?_, ?_, ?_⟩⟩
  · have first {mover : ι} (applied : Returned variant history mover (.ok true)) :
        ∃ step, (mover, Call.ran step) ∈ history := by
      obtain ⟨list, found, -⟩ := exists_mysql_steps (variant mover)
      obtain ⟨step, member⟩ := List.exists_mem_of_ne_nil _ (steps_ne_nil found)
      rw [← kept_of_returned found applied] at member
      exact ⟨step, mem_callsOf_iff.mp (mem_kept_iff.mp member)⟩
    obtain ⟨step, ran⟩ := first applied
    obtain ⟨again, ranAgain⟩ := first appliedAgain
    exact interleaved.caller_of_ran ran ranAgain
  · obtain ⟨list, found, -⟩ := exists_mysql_steps (variant caller)
    rw [kept_of_returned found applied]
    exact steps_sql found
  · exact interleaved.created_of_returned there (by cases entity <;> decide)
  · exact interleaved.created_of_returned there (by cases key <;> decide)
  · exact interleaved.created_of_returned there (by decide)
  · exact interleaved.created_of_returned there (by decide)

/-! ## Three callers -/

/-- A caller may go on while the others wait. -/
theorem alone (interleaved : Interleaving variant history) (caller : ι) (calls : List Call)
    {rest : Session (Except Failure Bool)}
    (reached : (initSchema .mysql (variant caller)).Reaches (callsOf caller history ++ calls) rest)
    (truthful : Throughout Call.Truthful (history.map Prod.snd) calls)
    (fresh : Throughout Call.Fresh (history.map Prod.snd) calls) :
    Interleaving variant (history ++ callsBy caller calls) := by
  induction calls generalizing history with
  | nil => simpa [callsBy] using interleaved
  | cons call calls inductionHypothesis =>
      rw [List.append_cons] at reached
      obtain ⟨middle, before, -⟩ := reached.split
      have later := @inductionHypothesis (history ++ callsBy caller [call])
        (.next interleaved before truthful.1 fresh.1)
        (by rwa [callsOf_append, callsOf_own]) (by rw [List.map_append]; exact truthful.2)
        (by rw [List.map_append]; exact fresh.2)
      rw [List.append_assoc] at later
      exact later

/-- Two callers find nothing, one of them creates everything and the other is refused; a third
finds the schema. -/
theorem exists_overlapping (refusal : EngineError) : ∃ history : List (Fin 3 × Call),
    Interleaving (fun _ => .uniqueTagName) history ∧
      Returned (fun _ => .uniqueTagName) history 0 (.ok true) ∧
      Returned (fun _ => .uniqueTagName) history 1 (.error (Failure.ofEngine refusal)) ∧
      Returned (fun _ => .uniqueTagName) history 2 (.ok false) := by
  obtain ⟨list, found, creates⟩ := exists_mysql_steps .uniqueTagName
  obtain ⟨first, others, rfl⟩ := List.exists_cons_of_ne_nil (steps_ne_nil found)
  have applied := (reaches_initSchema_iff found).mpr ⟨fun _ => false, .applied fun _ _ => rfl⟩
  have refused : (initSchema .mysql .uniqueTagName).Reaches
      ((scriptObjects .mysql).map (Call.looked fun _ => false) ++
        ([].map Call.ran ++ [.execute first (.error refusal)])) _ :=
    (reaches_initSchema_iff found).mpr ⟨fun _ => false, .failed (fun _ _ => rfl) rfl⟩
  have there := (reaches_initSchema_iff found).mpr ⟨fun _ => true, .complete fun _ _ => rfl⟩
  have absent {earlier : List Call} (none : created earlier = []) : Throughout Call.Truthful earlier
      ((scriptObjects .mysql).map (Call.looked fun _ => false)) :=
    throughout_looked_iff.mpr fun object _ => by simp [none]
  have fresh {earlier : List Call} : Throughout Call.Fresh earlier
      ((scriptObjects .mysql).map (Call.looked fun _ => false)) := fresh_looked _ _ _
  have quiet : created ((scriptObjects .mysql).map (Call.looked fun _ => false)) = [] := by
    simp [created]
  generalize (scriptObjects .mysql).map (Call.looked fun _ => false) = nothing at *
  obtain ⟨_, looked, -⟩ := applied.split
  have everything : created ((first :: others).map Call.ran) =
      scriptObjects .mysql ++ [.tagNameIndex] := by
    rw [created, kept_ran, creates]
    rfl
  have empty : Interleaving (fun _ : Fin 3 => .uniqueTagName) [] := .start
  have zero := empty.alone 0 nothing (by simpa using looked) (absent (by simp [created])) fresh
  have one := zero.alone 1 nothing (by simpa [callsOf_other] using looked)
    (absent (by simp [quiet])) fresh
  have ran := one.alone 0 ((first :: others).map Call.ran)
    (by simpa [callsOf_other] using applied) (truthful_ran _ _)
    (fresh_ran (by simpa [quiet, creates] using nodup_variantObjects .uniqueTagName))
  have error := ran.alone 1 [.execute first (.error refusal)]
    (by simpa [callsOf_other] using refused) ⟨trivial, trivial⟩ ⟨trivial, trivial⟩
  have two := error.alone 2 ((scriptObjects .mysql).map (Call.looked fun _ => true))
    (by simpa [callsOf_other] using there)
    (throughout_looked_iff.mpr fun object member => by
      simp [-List.map_cons, everything, member])
    (fresh_looked _ _ _)
  refine ⟨_, two, ?_, ?_, ?_⟩
  · simpa [Returned, callsOf_other] using applied
  · simpa [Returned, callsOf_other] using refused
  · simpa [Returned, callsOf_other] using there

/-- Of three callers at once one applies the schema, one fails and one finds the schema there. -/
theorem exclusive_overlapping : ∃ history : List (Fin 3 × Call),
    Interleaving (fun _ => .uniqueTagName) history ∧
      Returned (fun _ => .uniqueTagName) history 0 (.ok true) ∧
      Returned (fun _ => .uniqueTagName) history 2 (.ok false) ∧
      statements .mysql .uniqueTagName = .ok ((kept (callsOf 0 history)).map Step.sql) ∧
      (∀ entity, .table entity ∈ created (history.map Prod.snd)) ∧
      (∀ key, .foreignKey key ∈ created (history.map Prod.snd)) ∧
      .trigger .tagOwnerInsert ∈ created (history.map Prod.snd) ∧
      .trigger .tagOwnerUpdate ∈ created (history.map Prod.snd) := by
  obtain ⟨history, interleaved, applied, -, there⟩ := exists_overlapping .acquireTimeout
  obtain ⟨-, -, all, found⟩ := Interleaving.exclusive interleaved
  exact ⟨history, interleaved, applied, there, all 0 applied, found 2 there⟩

end Interleaving

end MemoStore.Schema
