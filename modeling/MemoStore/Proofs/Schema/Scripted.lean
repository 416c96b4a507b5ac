import MemoStore.Proofs.Schema.Course
import MemoStore.Schema.Scripted
import Mathlib.Data.Nat.Find

/-!
# The set-up against laid-down answers

`Answers.Prescribes` reads off the answers of a server alone what setting up a schema on MySQL
should ask for and come to. `initSchema_prescribed` proves that a run asks for exactly that
and comes to exactly that, so nothing else that the server has can make a difference.
-/

namespace MemoStore.Schema

/-- The query for an object, which has the name of the object as its value. -/
def Object.query (object : Object) : Event :=
  .query (lookupSql .mysql object) object.name

/-- The part of the information schema that lists the objects of a kind. -/
def Object.listing : Object → String
  | .table _ => "information_schema.tables"
  | .foreignKey _ => "information_schema.table_constraints"
  | .trigger _ => "information_schema.triggers"
  | .tagNameIndex => "information_schema.statistics"

/-- The query for an object asks the listing of its kind for one name. -/
theorem lookupSql_listing (object : Object) :
    ∃ column conditions, lookupSql .mysql object =
      "SELECT " ++ (column ++ (" FROM " ++ (object.listing ++ (" WHERE " ++
        (conditions ++ " = ? LIMIT 1"))))) := by
  cases object with
  | table _ => exact ⟨"table_name", "table_schema = DATABASE() AND table_name", rfl⟩
  | foreignKey _ =>
      exact ⟨"constraint_name", "constraint_schema = DATABASE() AND " ++
        "constraint_type = 'FOREIGN KEY' AND constraint_name", rfl⟩
  | trigger _ => exact ⟨"trigger_name", "trigger_schema = DATABASE() AND trigger_name", rfl⟩
  | tagNameIndex =>
      exact ⟨"index_name", "table_schema = DATABASE() AND table_name = 'tag' AND index_name", rfl⟩

namespace Answers

/-- What a set-up should come to and ask for, by the answers of the server: the first lookup
that fails ends it; otherwise what the lookups find decides whether the statements run, up to
the first that fails. -/
inductive Prescribes (answers : Answers) (required : List Object) (sqls : List String) :
    Except Failure Bool → List Event → Prop where
  | unanswered {before after : List Object} {object : Object} {error : EngineError} :
      required = before ++ object :: after →
      (∀ other ∈ before, answers.failingLookup other.name = none) →
      answers.failingLookup object.name = some error →
        Prescribes answers required sqls (.error (Failure.ofEngine error))
          ((before ++ [object]).map Object.query)
  | complete : (∀ object ∈ required, answers.failingLookup object.name = none) →
      (∀ object ∈ required, answers.present object.name = true) →
        Prescribes answers required sqls (.ok false) (required.map Object.query)
  | incomplete : (∀ object ∈ required, answers.failingLookup object.name = none) →
      (∃ object ∈ required, answers.present object.name = true) →
      (∃ object ∈ required, answers.present object.name = false) →
        Prescribes answers required sqls
          (.error (.incompleteSchema
            ((required.map Object.name).filter fun name => !answers.present name)))
          (required.map Object.query)
  | failed {before after : List String} {sql : String} {error : EngineError} :
      (∀ object ∈ required, answers.failingLookup object.name = none) →
      (∀ object ∈ required, answers.present object.name = false) →
      sqls = before ++ sql :: after →
      (∀ n < before.length, answers.failingStatement n = none) →
      answers.failingStatement before.length = some error →
        Prescribes answers required sqls (.error (Failure.ofEngine error))
          (required.map Object.query ++ (before ++ [sql]).map Event.statement)
  | applied : (∀ object ∈ required, answers.failingLookup object.name = none) →
      (∀ object ∈ required, answers.present object.name = false) →
      (∀ n < sqls.length, answers.failingStatement n = none) →
        Prescribes answers required sqls (.ok true)
          (required.map Object.query ++ sqls.map Event.statement)

/-- Whether a server gives the same answers about some objects, and to all statements. -/
structure AgreesOn (answers other : Answers) (objects : List Object) : Prop where
  present : ∀ object ∈ objects, other.present object.name = answers.present object.name
  failingLookup : ∀ object ∈ objects,
    other.failingLookup object.name = answers.failingLookup object.name
  failingStatement : other.failingStatement = answers.failingStatement

variable {answers : Answers} {required : List Object} {sqls : List String}
  {result : Except Failure Bool} {events : List Event}

/-- What is prescribed depends on nothing but the answers about the required objects. -/
theorem Prescribes.congr (prescribed : answers.Prescribes required sqls result events)
    {other : Answers} (agrees : answers.AgreesOn other required) :
    other.Prescribes required sqls result events := by
  have unfailing (answered : ∀ object ∈ required, answers.failingLookup object.name = none) :
      ∀ object ∈ required, other.failingLookup object.name = none := fun object member =>
    (agrees.failingLookup object member).trans (answered object member)
  have holding {found : Bool}
      (same : ∀ object ∈ required, answers.present object.name = found) :
      ∀ object ∈ required, other.present object.name = found := fun object member =>
    (agrees.present object member).trans (same object member)
  have having {found : Bool} :
      (∃ object ∈ required, answers.present object.name = found) →
        ∃ object ∈ required, other.present object.name = found := by
    rintro ⟨object, member, same⟩
    exact ⟨object, member, (agrees.present object member).trans same⟩
  cases prescribed with
  | unanswered split answered fails =>
      subst split
      refine .unanswered rfl (fun object member => ?_) ?_
      · rw [agrees.failingLookup object (List.mem_append_left _ member)]
        exact answered object member
      · rw [agrees.failingLookup _ (List.mem_append_right _ List.mem_cons_self)]
        exact fails
  | complete answered all => exact .complete (unfailing answered) (holding all)
  | incomplete answered there missing =>
      have same : (required.map Object.name).filter (fun name => !answers.present name) =
          (required.map Object.name).filter fun name => !other.present name := by
        refine List.filter_congr fun name member => ?_
        obtain ⟨object, required, rfl⟩ := List.mem_map.mp member
        rw [agrees.present object required]
      rw [same]
      exact .incomplete (unfailing answered) (having there) (having missing)
  | failed answered none split carried fails =>
      rw [← agrees.failingStatement] at carried fails
      exact .failed (unfailing answered) (holding none) split carried fails
  | applied answered none carried =>
      rw [← agrees.failingStatement] at carried
      exact .applied (unfailing answered) (holding none) carried

/-! ## What the server gives -/

/-- A server answers the lookups that it does not fail. -/
theorem serves_looked {objects : List Object}
    (answered : ∀ object ∈ objects, answers.failingLookup object.name = none) (trace : Trace) :
    (answers.server .mysql).Serves trace
      (objects.map (Call.looked fun object => answers.present object.name))
      ⟨trace.events ++ objects.map Object.query, trace.executed⟩ := by
  induction objects generalizing trace with
  | nil =>
      rw [List.map_nil, List.map_nil, List.append_nil]
      exact .nil
  | cons object rest inductionHypothesis =>
      have gives : (answers.server .mysql).Gives trace
          (.looked (fun object => answers.present object.name) object)
          (trace.add object.query) :=
        .lookup (by simp only [server, answered object List.mem_cons_self, Object.query])
      have later := inductionHypothesis
        (fun other member => answered other (List.mem_cons_of_mem _ member))
        (trace.add object.query)
      rw [List.map_cons, List.map_cons, List.append_cons]
      exact .cons gives later

/-- A lookup that a server fails is asked for, too. -/
theorem serves_unanswered {objects : List Object} {object : Object} {error : EngineError}
    (answered : ∀ other ∈ objects, answers.failingLookup other.name = none)
    (fails : answers.failingLookup object.name = some error) (trace : Trace) :
    (answers.server .mysql).Serves trace
      (objects.map (Call.looked fun object => answers.present object.name) ++
        [.lookup object (.error error)])
      ⟨trace.events ++ (objects ++ [object]).map Object.query, trace.executed⟩ := by
  refine (serves_looked answered trace).trans (.cons (.lookup (Prod.ext ?_ ?_)) .nil)
  · simp only [server, fails]
  · simp only [server, Trace.add, List.map_append, List.append_assoc]
    rfl

/-- A server carries out the statements that it does not fail. -/
theorem serves_ran {list : List Step} {trace : Trace}
    (carried : ∀ n < list.length, answers.failingStatement (trace.executed + n) = none) :
    (answers.server .mysql).Serves trace (list.map Call.ran)
      ⟨trace.events ++ (list.map Step.sql).map Event.statement,
        trace.executed + list.length⟩ := by
  induction list generalizing trace with
  | nil =>
      rw [List.map_nil, List.map_nil, List.map_nil, List.append_nil]
      exact .nil
  | cons step rest inductionHypothesis =>
      have first : answers.failingStatement trace.executed = none :=
        carried 0 (Nat.succ_pos _)
      let next : Trace := ⟨trace.events ++ [.statement step.sql], trace.executed + 1⟩
      have gives : (answers.server .mysql).Gives trace (.ran step) next :=
        .execute (Prod.ext (by simp only [server, first]) rfl)
      have later := @inductionHypothesis next fun n smaller => by
        have carried := carried (n + 1) (Nat.succ_lt_succ smaller)
        rwa [Nat.add_comm n 1, ← Nat.add_assoc] at carried
      rw [List.map_cons, List.map_cons, List.map_cons, List.append_cons, List.length_cons,
        Nat.add_comm rest.length 1, ← Nat.add_assoc]
      exact .cons gives later

/-- A statement that a server fails is run, too. -/
theorem serves_failed {list : List Step} {step : Step} {error : EngineError} {trace : Trace}
    (carried : ∀ n < list.length, answers.failingStatement (trace.executed + n) = none)
    (fails : answers.failingStatement (trace.executed + list.length) = some error) :
    (answers.server .mysql).Serves trace (list.map Call.ran ++ [.execute step (.error error)])
      ⟨trace.events ++ (list.map Step.sql ++ [step.sql]).map Event.statement,
        trace.executed + list.length + 1⟩ := by
  refine (serves_ran carried).trans (.cons (.execute (Prod.ext ?_ ?_)) .nil)
  · simp only [server, fails]
  · simp only [server, Trace.add, List.map_append, List.append_assoc]
    rfl

/-! ## The run -/

/-- A run comes to what is prescribed. -/
theorem Prescribes.run {variant : Variant} (found : statements .mysql variant = .ok sqls)
    (prescribed : answers.Prescribes (scriptObjects .mysql) sqls result events) :
    ((initSchema .mysql variant).run (answers.server .mysql) {}).result = result ∧
      ((initSchema .mysql variant).run (answers.server .mysql) {}).state.events = events := by
  obtain ⟨list, steps, -⟩ := exists_mysql_steps variant
  obtain rfl : list.map Step.sql = sqls := Except.ok.inj ((steps_sql steps).symm.trans found)
  have ran {calls : List Call} {last : Trace} {result : Except Failure Bool}
      (course : Course (scriptObjects .mysql) list (fun object => answers.present object.name)
        calls result) (served : (answers.server .mysql).Serves {} calls last) :
      ((initSchema .mysql variant).run (answers.server .mysql) {}).result = result ∧
        ((initSchema .mysql variant).run (answers.server .mysql) {}).state = last :=
    ((reaches_initSchema_iff steps).mpr ⟨_, course⟩).run_eq served
  cases prescribed with
  | unanswered split answered fails =>
      obtain ⟨same, last⟩ := ran (.unanswered split) (serves_unanswered answered fails {})
      exact ⟨same, by rw [last]; rfl⟩
  | complete answered all =>
      obtain ⟨same, last⟩ := ran (.complete all) (serves_looked answered {})
      exact ⟨same, by rw [last]; rfl⟩
  | incomplete answered there missing =>
      obtain ⟨same, last⟩ := ran (.incomplete there missing) (serves_looked answered {})
      refine ⟨same.trans ?_, by rw [last]; rfl⟩
      rw [List.filter_map]
      rfl
  | @failed before after sql error answered none split carried fails =>
      obtain ⟨done, rest, rfl, same, later⟩ := List.map_eq_append_iff.mp split
      obtain ⟨step, unmade, rfl, rfl, -⟩ := List.map_eq_cons_iff.mp later
      subst same
      rw [List.length_map] at carried fails
      obtain ⟨same, last⟩ := ran (.failed none rfl)
        ((serves_looked answered {}).trans (serves_failed (by simpa using carried)
          (by simpa using fails)))
      exact ⟨same, by rw [last]; rfl⟩
  | applied answered none carried =>
      obtain ⟨same, last⟩ := ran (.applied none)
        ((serves_looked answered {}).trans (serves_ran (by simpa using carried)))
      exact ⟨same, by rw [last]; rfl⟩

/-- Where a property of list elements does not hold of all, there is a first of which it does
not. -/
private theorem all_or_first {α : Type} (p : α → Prop) [DecidablePred p] (list : List α) :
    (∀ element ∈ list, p element) ∨ ∃ before element after, list = before ++ element :: after ∧
      (∀ other ∈ before, p other) ∧ ¬p element := by
  induction list with
  | nil => exact .inl fun _ member => absurd member List.not_mem_nil
  | cons first rest inductionHypothesis =>
      by_cases holds : p first
      · rcases inductionHypothesis with all | ⟨before, element, after, rfl, all, fails⟩
        · exact .inl (List.forall_mem_cons.mpr ⟨holds, all⟩)
        · exact .inr ⟨first :: before, element, after, rfl,
            List.forall_mem_cons.mpr ⟨holds, all⟩, fails⟩
      · exact .inr ⟨[], first, rest, rfl, fun _ member => absurd member List.not_mem_nil, holds⟩

/-- Whatever the answers of a server are, something is prescribed. -/
theorem exists_prescribes (answers : Answers) (required : List Object) (sqls : List String) :
    ∃ result events, answers.Prescribes required sqls result events := by
  rcases all_or_first (fun object => answers.failingLookup object.name = none) required with
    answered | ⟨before, object, after, split, answered, fails⟩
  · by_cases all : ∀ object ∈ required, answers.present object.name = true
    · exact ⟨_, _, .complete answered all⟩
    by_cases nothing : ∀ object ∈ required, answers.present object.name = false
    · by_cases carried : ∀ n < sqls.length, answers.failingStatement n = none
      · exact ⟨_, _, .applied answered nothing carried⟩
      have broken : ∃ n, n < sqls.length ∧ answers.failingStatement n ≠ none := by
        simpa using carried
      -- the first statement that fails
      obtain ⟨smaller, fails⟩ := Nat.find_spec broken
      obtain ⟨error, fails⟩ := Option.ne_none_iff_exists'.mp fails
      have before : (sqls.take (Nat.find broken)).length = Nat.find broken :=
        List.length_take_of_le (Nat.le_of_lt smaller)
      have split : sqls = sqls.take (Nat.find broken) ++
          sqls[Nat.find broken] :: sqls.drop (Nat.find broken + 1) := by
        rw [← List.drop_eq_getElem_cons smaller, List.take_append_drop]
      refine ⟨_, _, .failed answered nothing split (fun n earlier => ?_) (before.symm ▸ fails)⟩
      rw [before] at earlier
      by_contra failing
      exact Nat.find_min broken earlier ⟨Nat.lt_trans earlier smaller, failing⟩
    · exact ⟨_, _, .incomplete answered (by simpa using nothing) (by simpa using all)⟩
  · obtain ⟨error, fails⟩ := Option.ne_none_iff_exists'.mp fails
    exact ⟨_, _, .unanswered split answered fails⟩

/-- What is prescribed says everything about a run. -/
theorem prescribes_iff {variant : Variant} (found : statements .mysql variant = .ok sqls) :
    answers.Prescribes (scriptObjects .mysql) sqls result events ↔
      ((initSchema .mysql variant).run (answers.server .mysql) {}).result = result ∧
        ((initSchema .mysql variant).run (answers.server .mysql) {}).state.events = events := by
  constructor
  · exact fun prescribed => prescribed.run found
  · rintro ⟨rfl, rfl⟩
    obtain ⟨result, events, prescribed⟩ :=
      exists_prescribes answers (scriptObjects .mysql) sqls
    obtain ⟨same, trace⟩ := prescribed.run found
    rw [same, trace]
    exact prescribed

/-- Nothing but queries and statements is prescribed. -/
theorem Prescribes.event_cases (prescribed : answers.Prescribes required sqls result events)
    {event : Event} (member : event ∈ events) :
    (∃ object ∈ required, event = object.query) ∨ ∃ sql ∈ sqls, event = .statement sql := by
  have asked {objects : List Object} (part : ∀ object ∈ objects, object ∈ required)
      (member : event ∈ objects.map Object.query) :
      ∃ object ∈ required, event = object.query := by
    obtain ⟨object, asked, rfl⟩ := List.mem_map.mp member
    exact ⟨object, part object asked, rfl⟩
  have ran {list : List String} (part : ∀ sql ∈ list, sql ∈ sqls)
      (member : event ∈ list.map Event.statement) : ∃ sql ∈ sqls, event = .statement sql := by
    obtain ⟨sql, ran, rfl⟩ := List.mem_map.mp member
    exact ⟨sql, part sql ran, rfl⟩
  cases prescribed with
  | unanswered split => exact .inl (asked (by simp [split]; grind) member)
  | complete => exact .inl (asked (fun _ => id) member)
  | incomplete => exact .inl (asked (fun _ => id) member)
  | failed _ _ split =>
      rcases List.mem_append.mp member with query | statement
      · exact .inl (asked (fun _ => id) query)
      · exact .inr (ran (by simp [split]; grind) statement)
  | applied =>
      rcases List.mem_append.mp member with query | statement
      · exact .inl (asked (fun _ => id) query)
      · exact .inr (ran (fun _ => id) statement)

end Answers

/-- Whatever a server answers, setting up a schema on MySQL asks for the required objects in
order, each with the query of its kind, and runs the statements as `Prescribes` says; it opens
no transaction, and what else the server has makes no difference. -/
theorem initSchema_prescribed (variant : Variant) (answers : Answers) :
    ∃ sqls, statements .mysql variant = .ok sqls ∧
      let outcome := (initSchema .mysql variant).run (answers.server .mysql) {}
      answers.Prescribes (scriptObjects .mysql) sqls outcome.result outcome.state.events ∧
        (∀ event ∈ outcome.state.events,
          (∃ object ∈ scriptObjects .mysql, event = object.query) ∨
            ∃ sql ∈ sqls, event = .statement sql) ∧
        (∀ object ∈ scriptObjects .mysql, ∃ column conditions, object.query =
          .query ("SELECT " ++ (column ++ (" FROM " ++ (object.listing ++ (" WHERE " ++
            (conditions ++ " = ? LIMIT 1")))))) object.name) ∧
        ∀ other : Answers, answers.AgreesOn other (scriptObjects .mysql) →
          ((initSchema .mysql variant).run (other.server .mysql) {}).result = outcome.result ∧
            ((initSchema .mysql variant).run (other.server .mysql) {}).state.events =
              outcome.state.events := by
  obtain ⟨list, steps, -⟩ := exists_mysql_steps variant
  have found := steps_sql steps
  have prescribed : answers.Prescribes (scriptObjects .mysql) _ _ _ :=
    (Answers.prescribes_iff found).mpr ⟨rfl, rfl⟩
  refine ⟨_, found, prescribed, fun event member => prescribed.event_cases member, ?_, ?_⟩
  · intro object _
    obtain ⟨column, conditions, same⟩ := lookupSql_listing object
    exact ⟨column, conditions, by rw [Object.query, same]⟩
  · intro other agrees
    exact (prescribed.congr agrees).run found

end MemoStore.Schema
