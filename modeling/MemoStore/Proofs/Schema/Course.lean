import MemoStore.Proofs.Schema.Steps
import MemoStore.Proofs.Schema.Traces
import MemoStore.Schema.Bootstrap
import Mathlib.Logic.Function.Basic

/-!
# The course of a set-up

Where a statement cannot be taken back, setting up a schema looks up the required objects
first and then runs the statements. `reaches_initSchema_iff` says which traces that gives:
exactly those of the five ways of `Course`. What a set-up does on MySQL is read off from
them, whoever else uses the server.
-/

namespace MemoStore.Schema

/-! ## Lookups and statements -/

/-- A lookup that was answered. -/
def Call.looked (present : Object → Bool) (object : Object) : Call :=
  .lookup object (.ok (present object))

/-- A statement that was carried out. -/
def Call.ran (step : Step) : Call :=
  .execute step (.ok ())

/-- An answer for one object leaves the lookups of the others as they were. -/
private theorem map_looked_update {object : Object} {objects : List Object}
    (fresh : object ∉ objects) (present : Object → Bool) (found : Bool) :
    objects.map (Call.looked (Function.update present object found)) =
      objects.map (Call.looked present) := by
  refine List.map_congr_left fun other member => ?_
  rw [Call.looked, Function.update_of_ne (ne_of_mem_of_not_mem member fresh), Call.looked]

/-- An answer for one object leaves the others missing as they were. -/
private theorem filter_update {object : Object} {objects : List Object}
    (fresh : object ∉ objects) (present : Object → Bool) (found : Bool) :
    objects.filter (fun other => !Function.update present object found other) =
      objects.filter fun other => !present other := by
  refine List.filter_congr fun other member => ?_
  rw [Function.update_of_ne (ne_of_mem_of_not_mem member fresh)]

/-- How looking for missing objects may go: every lookup is answered, or one fails and is the
last. -/
theorem reaches_findMissing_iff {objects : List Object} (distinct : objects.Nodup)
    {calls : List Call} {result : Except Failure (List Object)} :
    (findMissing objects).Reaches calls (.done result) ↔ ∃ present : Object → Bool,
      (calls = objects.map (Call.looked present) ∧
          result = .ok (objects.filter fun object => !present object)) ∨
        ∃ before object after error, objects = before ++ object :: after ∧
          calls = before.map (Call.looked present) ++ [.lookup object (.error error)] ∧
          result = .error (Failure.ofEngine error) := by
  induction objects generalizing calls result with
  | nil =>
      constructor
      · intro reached
        exact ⟨fun _ => false, .inl (Session.reaches_done_iff.mp reached)⟩
      · rintro ⟨present, ended | ⟨before, object, after, error, same, -⟩⟩
        · exact Session.reaches_done_iff.mpr ended
        · simp at same
  | cons object rest inductionHypothesis =>
      obtain ⟨fresh, distinct⟩ := List.nodup_cons.mp distinct
      have looking := @inductionHypothesis distinct
      rw [findMissing, Session.reaches_lookup_iff]
      constructor
      · rintro ⟨answer, calls, rfl, reached⟩
        cases answer with
        | error error =>
            obtain ⟨rfl, rfl⟩ := Session.reaches_done_iff.mp reached
            exact ⟨fun _ => false, .inr ⟨[], object, rest, error, rfl, rfl, rfl⟩⟩
        | ok found =>
            obtain ⟨missing, looked, rfl⟩ := Session.reaches_andThen_done_iff.mp reached
            obtain ⟨present, ⟨rfl, rfl⟩ | ⟨before, other, after, error, rfl, rfl, rfl⟩⟩ :=
              looking.mp looked
            · refine ⟨Function.update present object found, .inl ⟨?_, ?_⟩⟩
              · rw [List.map_cons, map_looked_update fresh]
                simp [Call.looked]
              · rw [List.filter_cons, filter_update fresh]
                cases found <;> simp [Except.map]
            · refine ⟨Function.update present object found,
                .inr ⟨object :: before, other, after, error, rfl, ?_, rfl⟩⟩
              rw [List.map_cons,
                map_looked_update (fun member => fresh (List.mem_append_left _ member))]
              simp [Call.looked]
      · rintro ⟨present, ⟨rfl, rfl⟩ | ⟨before, other, after, error, same, rfl, rfl⟩⟩
        · refine ⟨.ok (present object), rest.map (Call.looked present), rfl, ?_⟩
          refine Session.reaches_andThen_done_iff.mpr
            ⟨_, looking.mpr ⟨present, .inl ⟨rfl, rfl⟩⟩, ?_⟩
          rw [List.filter_cons]
          cases present object <;> simp [Except.map]
        · cases before with
          | nil =>
              obtain ⟨rfl, rfl⟩ := List.cons_eq_cons.mp same
              exact ⟨.error error, [], rfl, .refl⟩
          | cons first before =>
              obtain ⟨rfl, rfl⟩ := List.cons_eq_cons.mp same
              refine ⟨.ok (present object), _, rfl, ?_⟩
              exact Session.reaches_andThen_done_iff.mpr ⟨_, looking.mpr
                ⟨present, .inr ⟨before, other, after, error, rfl, rfl, rfl⟩⟩, rfl⟩

/-- How running statements may go: all are carried out, or one fails and is the last. -/
theorem reaches_applySteps_iff {list : List Step} {calls : List Call}
    {result : Except Failure Unit} :
    (applySteps list).Reaches calls (.done result) ↔
      (calls = list.map Call.ran ∧ result = .ok ()) ∨
        ∃ before step after error, list = before ++ step :: after ∧
          calls = before.map Call.ran ++ [.execute step (.error error)] ∧
          result = .error (Failure.ofEngine error) := by
  induction list generalizing calls with
  | nil => simp [applySteps]
  | cons step rest inductionHypothesis =>
      rw [applySteps, Session.reaches_report_iff, Session.reaches_execute_iff]
      constructor
      · rintro ⟨answer, calls, rfl, reached⟩
        cases answer with
        | error error =>
            obtain ⟨rfl, rfl⟩ := Session.reaches_done_iff.mp reached
            exact .inr ⟨[], step, rest, error, rfl, rfl, rfl⟩
        | ok =>
            rcases inductionHypothesis.mp reached with
              ⟨rfl, rfl⟩ | ⟨before, other, after, error, rfl, rfl, rfl⟩
            · exact .inl ⟨rfl, rfl⟩
            · exact .inr ⟨step :: before, other, after, error, rfl, rfl, rfl⟩
      · rintro (⟨rfl, rfl⟩ | ⟨before, other, after, error, same, rfl, rfl⟩)
        · exact ⟨.ok (), _, rfl, inductionHypothesis.mpr (.inl ⟨rfl, rfl⟩)⟩
        · cases before with
          | nil =>
              obtain ⟨rfl, rfl⟩ := List.cons_eq_cons.mp same
              exact ⟨.error error, [], rfl, .refl⟩
          | cons first before =>
              obtain ⟨rfl, rfl⟩ := List.cons_eq_cons.mp same
              exact ⟨.ok (), _, rfl, inductionHypothesis.mpr
                (.inr ⟨before, other, after, error, rfl, rfl, rfl⟩)⟩

/-! ## The set-up on MySQL -/

/-- The objects that MySQL requires are all different. -/
theorem nodup_scriptObjects : (scriptObjects .mysql).Nodup := by
  decide

example : (scriptObjects .mysql).map Object.name =
    ["user", "memo", "tag", "memo_tag_relation", "memo_user_id_user_id_fk",
      "tag_user_id_user_id_fk", "memo_tag_relation_memo_id_memo_id_fk",
      "memo_tag_relation_tag_id_tag_id_fk", "check_tag_owner_insert",
      "check_tag_owner_update"] := rfl

/-- The script creates at least one object. -/
theorem scriptObjects_ne_nil : scriptObjects .mysql ≠ [] := by
  decide

/-- How finding out what is there may go on MySQL. -/
theorem reaches_presence_iff {calls : List Call} {result : Except Failure Presence} :
    (presence .mysql).Reaches calls (.done result) ↔ ∃ present : Object → Bool,
      (calls = (scriptObjects .mysql).map (Call.looked present) ∧
          result = .ok (Presence.of (scriptObjects .mysql)
            ((scriptObjects .mysql).filter fun object => !present object))) ∨
        ∃ before object after error, scriptObjects .mysql = before ++ object :: after ∧
          calls = before.map (Call.looked present) ++ [.lookup object (.error error)] ∧
          result = .error (Failure.ofEngine error) := by
  have looking := @reaches_findMissing_iff _ nodup_scriptObjects
  have same : presence .mysql = (findMissing (scriptObjects .mysql)).andThen fun missing =>
      .done (.ok (Presence.of (scriptObjects .mysql) missing)) := rfl
  rw [same, Session.reaches_andThen_done_iff]
  constructor
  · rintro ⟨missing, reached, rfl⟩
    obtain ⟨present, ⟨rfl, rfl⟩ | ⟨before, object, after, error, split, rfl, rfl⟩⟩ :=
      looking.mp reached
    · exact ⟨present, .inl ⟨rfl, rfl⟩⟩
    · exact ⟨present, .inr ⟨before, object, after, error, split, rfl, rfl⟩⟩
  · rintro ⟨present, ⟨rfl, rfl⟩ | ⟨before, object, after, error, split, rfl, rfl⟩⟩
    · exact ⟨_, looking.mpr ⟨present, .inl ⟨rfl, rfl⟩⟩, rfl⟩
    · exact ⟨_, looking.mpr ⟨present, .inr ⟨before, object, after, error, split, rfl, rfl⟩⟩, rfl⟩

/-- How applying the changelog may go on MySQL. -/
theorem reaches_applyChangelog_iff {variant : Variant} {list : List Step}
    (found : steps .mysql variant = .ok list) {calls : List Call}
    {result : Except Failure Bool} :
    (applyChangelog .mysql variant).Reaches calls (.done result) ↔
      (calls = list.map Call.ran ∧ result = .ok true) ∨
        ∃ before step after error, list = before ++ step :: after ∧
          calls = before.map Call.ran ++ [.execute step (.error error)] ∧
          result = .error (Failure.ofEngine error) := by
  rw [applyChangelog, found]
  simp only [reduceCtorEq, if_false, Session.reaches_report_iff]
  refine Session.reaches_andThen_done_iff.trans ⟨?_, ?_⟩
  · rintro ⟨applied, reached, rfl⟩
    rcases reaches_applySteps_iff.mp reached with
      ⟨rfl, rfl⟩ | ⟨before, step, after, error, split, rfl, rfl⟩
    · exact .inl ⟨rfl, rfl⟩
    · exact .inr ⟨before, step, after, error, split, rfl, rfl⟩
  · rintro (⟨rfl, rfl⟩ | ⟨before, step, after, error, split, rfl, rfl⟩)
    · exact ⟨_, reaches_applySteps_iff.mpr (.inl ⟨rfl, rfl⟩), rfl⟩
    · exact ⟨_, reaches_applySteps_iff.mpr
        (.inr ⟨before, step, after, error, split, rfl, rfl⟩), rfl⟩

/-- The ways in which setting up a schema may go where nothing can be taken back, with the
objects that it looks for, the statements it runs and what the lookups find. -/
inductive Course (required : List Object) (list : List Step) (present : Object → Bool) :
    List Call → Except Failure Bool → Prop where
  | unanswered {before after : List Object} {object : Object} {error : EngineError} :
      required = before ++ object :: after →
        Course required list present
          (before.map (Call.looked present) ++ [.lookup object (.error error)])
          (.error (Failure.ofEngine error))
  | complete : (∀ object ∈ required, present object = true) →
      Course required list present (required.map (Call.looked present)) (.ok false)
  | incomplete : (∃ object ∈ required, present object = true) →
      (∃ object ∈ required, present object = false) →
        Course required list present (required.map (Call.looked present))
          (.error (.incompleteSchema
            ((required.filter fun object => !present object).map Object.name)))
  | failed {before after : List Step} {step : Step} {error : EngineError} :
      (∀ object ∈ required, present object = false) → list = before ++ step :: after →
        Course required list present
          (required.map (Call.looked present) ++
            (before.map Call.ran ++ [.execute step (.error error)]))
          (.error (Failure.ofEngine error))
  | applied : (∀ object ∈ required, present object = false) →
      Course required list present
        (required.map (Call.looked present) ++ list.map Call.ran) (.ok true)

/-- Nothing missing means that everything is there. -/
theorem Presence.of_all {required : List Object} {present : Object → Bool}
    (all : ∀ object ∈ required, present object = true) :
    Presence.of required (required.filter fun object => !present object) = .complete := by
  have none : (required.filter fun object => !present object) = [] := by
    simpa using all
  rw [none]
  rfl

/-- Everything missing means that nothing is there. -/
theorem Presence.of_none {required : List Object} {present : Object → Bool}
    (some : required ≠ []) (none : ∀ object ∈ required, present object = false) :
    Presence.of required (required.filter fun object => !present object) = .absent := by
  have all : (required.filter fun object => !present object) = required := by
    simpa using none
  rw [all, Presence.of, if_neg (by simpa using some), if_pos rfl]

/-- Anything else is a schema that is there in part. -/
theorem Presence.of_some {required : List Object} {present : Object → Bool}
    (found : ∃ object ∈ required, present object = true)
    (missing : ∃ object ∈ required, present object = false) :
    Presence.of required (required.filter fun object => !present object) =
      .incomplete (required.filter fun object => !present object) := by
  rw [Presence.of, if_neg (by simpa using missing), if_neg]
  obtain ⟨object, member, there⟩ := found
  intro same
  rw [List.length_filter_eq_length_iff] at same
  simpa [there] using same object member

section

variable {variant : Variant} {list : List Step} (found : steps .mysql variant = .ok list)
  {calls : List Call} {result : Except Failure Bool}

include found

/-- Setting up a schema on MySQL goes one of the ways of a course. -/
theorem exists_course (reached : (initSchema .mysql variant).Reaches calls (.done result)) :
    ∃ present, Course (scriptObjects .mysql) list present calls result := by
  rcases Session.reaches_andThen_iff.mp reached with
    ⟨failure, failed, rfl⟩ | ⟨first, second, missing, rfl, looked, ended⟩
  · obtain ⟨present, ⟨-, impossible⟩ | failing⟩ := reaches_presence_iff.mp failed
    · cases impossible
    · obtain ⟨before, object, after, error, split, rfl, same⟩ := failing
      obtain rfl := Except.error.inj same
      exact ⟨present, .unanswered split⟩
  · obtain ⟨present, ⟨rfl, same⟩ | ⟨_, _, _, _, _, _, impossible⟩⟩ :=
      reaches_presence_iff.mp looked
    · obtain rfl := Except.ok.inj same
      refine ⟨present, ?_⟩
      by_cases all : ∀ object ∈ scriptObjects .mysql, present object = true
      · rw [Presence.of_all all] at ended
        obtain ⟨rfl, rfl⟩ := Session.reaches_done_iff.mp (Session.reaches_report_iff.mp ended)
        rw [List.append_nil]
        exact .complete all
      by_cases none : ∀ object ∈ scriptObjects .mysql, present object = false
      · rw [Presence.of_none scriptObjects_ne_nil none] at ended
        rcases (reaches_applyChangelog_iff found).mp ended with
          ⟨rfl, rfl⟩ | ⟨before, step, after, error, split, rfl, rfl⟩
        · exact .applied none
        · exact .failed none split
      · have missing : ∃ object ∈ scriptObjects .mysql, present object = false := by
          simpa using all
        have there : ∃ object ∈ scriptObjects .mysql, present object = true := by
          simpa using none
        rw [Presence.of_some there missing] at ended
        obtain ⟨rfl, rfl⟩ := Session.reaches_done_iff.mp ended
        rw [List.append_nil]
        exact .incomplete there missing
    · cases impossible

/-- Setting up a schema on MySQL may go every way of a course. -/
theorem Course.reaches {present : Object → Bool}
    (course : Course (scriptObjects .mysql) list present calls result) :
    (initSchema .mysql variant).Reaches calls (.done result) := by
  have looked := reaches_presence_iff.mpr ⟨present, .inl ⟨rfl, rfl⟩⟩
  cases course with
  | unanswered split =>
      exact Session.reaches_andThen_iff.mpr (.inl ⟨_, reaches_presence_iff.mpr
        ⟨present, .inr ⟨_, _, _, _, split, rfl, rfl⟩⟩, rfl⟩)
  | complete all =>
      rw [Presence.of_all all] at looked
      exact Session.reaches_andThen_iff.mpr
        (.inr ⟨_, [], _, (List.append_nil _).symm, looked, .report .refl⟩)
  | incomplete there missing =>
      rw [Presence.of_some there missing] at looked
      exact Session.reaches_andThen_iff.mpr
        (.inr ⟨_, [], _, (List.append_nil _).symm, looked, .refl⟩)
  | failed none split =>
      rw [Presence.of_none scriptObjects_ne_nil none] at looked
      exact Session.reaches_andThen_iff.mpr (.inr ⟨_, _, _, rfl, looked,
        (reaches_applyChangelog_iff found).mpr (.inr ⟨_, _, _, _, split, rfl, rfl⟩)⟩)
  | applied none =>
      rw [Presence.of_none scriptObjects_ne_nil none] at looked
      exact Session.reaches_andThen_iff.mpr (.inr ⟨_, _, _, rfl, looked,
        (reaches_applyChangelog_iff found).mpr (.inl ⟨rfl, rfl⟩)⟩)

/-- Setting up a schema on MySQL goes one of the ways of a course, and may go any of them. -/
theorem reaches_initSchema_iff : (initSchema .mysql variant).Reaches calls (.done result) ↔
    ∃ present, Course (scriptObjects .mysql) list present calls result :=
  ⟨exists_course found, fun ⟨_, course⟩ => course.reaches found⟩

end

end MemoStore.Schema
