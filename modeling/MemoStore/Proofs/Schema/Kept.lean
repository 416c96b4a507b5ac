import MemoStore.Proofs.Schema.Course
import Mathlib.Data.List.Perm.Subperm

/-!
# What a server keeps

A server that cannot take a statement back is known by the calls it answered: it keeps the
statements that it carried out (`kept`), finds the objects that they create
(`Call.Truthful`), and creates none a second time (`Call.Fresh`). Any call may fail besides.
A set-up on MySQL carries out a part of its steps from the front (`Course.kept_prefix`), so
whoever carries out any statement has created the first table (`user_of_kept`).
-/

namespace MemoStore.Schema

open MemoStore.Record (Entity)

/-- The statement that a call carried out. -/
def Call.kept? : Call → Option Step
  | .execute step (.ok ()) => some step
  | _ => none

/-- The statements that calls carried out, in order. -/
def kept (calls : List Call) : List Step :=
  calls.filterMap Call.kept?

/-- The objects that calls created, in order. -/
def created (calls : List Call) : List Object :=
  (kept calls).map Step.creates

/-- Whether a lookup after earlier calls finds what they created. -/
def Call.Truthful (earlier : List Call) : Call → Prop
  | .lookup object (.ok found) => found = true ↔ object ∈ created earlier
  | _ => True

/-- Whether a statement that is carried out after earlier calls creates an object that they
did not. -/
def Call.Fresh (earlier : List Call) : Call → Prop
  | .execute step (.ok ()) => step.creates ∉ created earlier
  | _ => True

/-- A property of every call, with the calls before it. -/
def Throughout (p : List Call → Call → Prop) : List Call → List Call → Prop
  | _, [] => True
  | earlier, call :: rest => p earlier call ∧ Throughout p (earlier ++ [call]) rest

/-! ## Calls in sequence -/

@[simp] theorem kept_nil : kept [] = [] := rfl

@[simp] theorem kept_append (first second : List Call) :
    kept (first ++ second) = kept first ++ kept second :=
  List.filterMap_append

/-- Two stretches of calls create what each of them does. -/
@[simp] theorem created_append (first second : List Call) :
    created (first ++ second) = created first ++ created second := by
  rw [created, kept_append, List.map_append]
  rfl

/-- A lookup keeps no statement. -/
@[simp] theorem kept_looked (present : Object → Bool) (objects : List Object) :
    kept (objects.map (Call.looked present)) = [] := by
  simp [kept, Call.looked, Call.kept?]

/-- Of statements that ran all are kept. -/
@[simp] theorem kept_ran (list : List Step) : kept (list.map Call.ran) = list := by
  simp [kept, Call.ran, Call.kept?, Function.comp_def]

@[simp] theorem kept_refused (step : Step) (error : EngineError) :
    kept [.execute step (.error error)] = [] := rfl

@[simp] theorem kept_unanswered (object : Object) (error : EngineError) :
    kept [.lookup object (.error error)] = [] := rfl

/-- What is kept is what was carried out. -/
theorem mem_kept_iff {calls : List Call} {step : Step} :
    step ∈ kept calls ↔ Call.ran step ∈ calls := by
  rw [kept, List.mem_filterMap]
  constructor
  · rintro ⟨call, member, same⟩
    cases call with
    | execute other answer =>
        cases answer with
        | ok =>
            obtain rfl := Option.some.inj same
            exact member
        | error error => cases same
    | lookup | openTransaction | commit | rollback => cases same
  · exact fun member => ⟨_, member, rfl⟩

/-- A property of every call and its past holds of two stretches when it holds of the first, and of
the second with the first in its past. -/
theorem throughout_append {p : List Call → Call → Prop} {earlier first second : List Call} :
    Throughout p earlier (first ++ second) ↔
      Throughout p earlier first ∧ Throughout p (earlier ++ first) second := by
  induction first generalizing earlier with
  | nil => simp [Throughout]
  | cons call first inductionHypothesis =>
      rw [List.cons_append, Throughout, Throughout, inductionHypothesis, and_assoc,
        List.append_assoc]
      rfl

/-- Lookups one after the other are truthful about what was created before them. -/
theorem throughout_looked_iff {earlier : List Call} {present : Object → Bool}
    {objects : List Object} :
    Throughout Call.Truthful earlier (objects.map (Call.looked present)) ↔
      ∀ object ∈ objects, (present object = true ↔ object ∈ created earlier) := by
  induction objects generalizing earlier with
  | nil => simp [Throughout]
  | cons object rest inductionHypothesis =>
      have same : created (earlier ++ [Call.looked present object]) = created earlier := by
        simp [created, Call.looked, kept, Call.kept?]
      rw [List.map_cons, Throughout, inductionHypothesis, same, List.forall_mem_cons]
      rfl

/-- A statement says nothing about what was created before it. -/
theorem truthful_ran (earlier : List Call) (list : List Step) :
    Throughout Call.Truthful earlier (list.map Call.ran) := by
  induction list generalizing earlier with
  | nil => trivial
  | cons step rest inductionHypothesis => exact ⟨trivial, inductionHypothesis _⟩

/-- A lookup creates nothing. -/
theorem fresh_looked (earlier : List Call) (present : Object → Bool) (objects : List Object) :
    Throughout Call.Fresh earlier (objects.map (Call.looked present)) := by
  induction objects generalizing earlier with
  | nil => trivial
  | cons object rest inductionHypothesis => exact ⟨trivial, inductionHypothesis _⟩

/-- Statements that create different objects are fresh where none of these was created. -/
theorem fresh_ran {earlier : List Call} {list : List Step}
    (distinct : (created earlier ++ list.map Step.creates).Nodup) :
    Throughout Call.Fresh earlier (list.map Call.ran) := by
  induction list generalizing earlier with
  | nil => trivial
  | cons step rest inductionHypothesis =>
      refine ⟨fun again => ?_, inductionHypothesis ?_⟩
      · exact (List.nodup_append.mp distinct).2.2 _ again _ List.mem_cons_self rfl
      · have same : created [Call.ran step] = [step.creates] := rfl
        rwa [created_append, same, List.append_assoc]

/-! ## Set-ups -/

/-- The objects that the statements for MySQL create are all different. -/
theorem nodup_variantObjects (variant : Variant) : (variantObjects .mysql variant).Nodup := by
  cases variant <;> decide

variable {variant : Variant} {list : List Step} {present : Object → Bool} {calls : List Call}
  {result : Except Failure Bool}

/-- A set-up carries out its steps from the front. -/
theorem Course.kept_prefix {required : List Object}
    (course : Course required list present calls result) : kept calls <+: list := by
  cases course with
  | failed _ split => simp [split]
  | unanswered | complete | incomplete | applied => simp

/-- A set-up that applied the changelog carried out all steps. -/
theorem Course.kept_of_applied {required : List Object}
    (course : Course required list present calls (.ok true)) : kept calls = list := by
  cases course with
  | applied => simp

/-- Part of a set-up carries out steps from the front. -/
theorem kept_prefix_of_reaches (found : steps .mysql variant = .ok list)
    {rest : Session (Except Failure Bool)}
    (reached : (initSchema .mysql variant).Reaches calls rest) : kept calls <+: list := by
  obtain ⟨later, result, ended⟩ := rest.exists_reaches_done
  obtain ⟨present, course⟩ := (reaches_initSchema_iff found).mp (reached.trans ended)
  have all := course.kept_prefix
  rw [kept_append] at all
  exact (List.prefix_append _ _).trans all

/-- Whoever carried out any statement created the first table. -/
theorem user_of_kept (found : steps .mysql variant = .ok list)
    (front : kept calls <+: list) (some : kept calls ≠ []) : .table .user ∈ created calls := by
  obtain ⟨_, found', creates⟩ := exists_mysql_steps variant
  obtain rfl := Except.ok.inj (found.symm.trans found')
  have objects : created calls <+: variantObjects .mysql variant :=
    creates ▸ front.map Step.creates
  cases shape : created calls with
  | nil => exact absurd (List.map_eq_nil_iff.mp shape) some
  | cons first rest =>
      rw [shape] at objects
      obtain ⟨rfl, -⟩ := List.cons_prefix_cons.mp objects
      exact List.mem_cons_self

end MemoStore.Schema
