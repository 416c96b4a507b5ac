import MemoStore.Proofs.Schema.Kept

/-!
# Repeated attempts at a set-up

`Attempts` are set-ups of one schema on MySQL, one after the other, on a server that was empty
and keeps what succeeded, where any call may fail. `Attempts.succeeded` says what a success is
worth: one that applied the changelog means that every statement was carried out, and one that
found a schema means the same except for the index on tag names, which the lookups do not ask
for.
-/

namespace MemoStore.Schema

/-- The calls and the results of attempts at setting up the schema of a variant, one after the
other. Lookups find what the attempts have created so far. -/
inductive Attempts (variant : Variant) : List Call → List (Except Failure Bool) → Prop where
  | none : Attempts variant [] []
  | next {earlier calls : List Call} {results : List (Except Failure Bool)}
      {result : Except Failure Bool} : Attempts variant earlier results →
      (initSchema .mysql variant).Reaches calls (.done result) →
      Throughout Call.Truthful earlier calls →
        Attempts variant (earlier ++ calls) (results ++ [result])

variable {variant : Variant} {list : List Step} {present : Object → Bool}
  {earlier calls : List Call} {result : Except Failure Bool} {results : List (Except Failure Bool)}

/-- An attempt that finds none of the required objects starts from nothing. -/
theorem kept_eq_nil_of_absent (found : steps .mysql variant = .ok list)
    (front : kept earlier <+: list)
    (truthful : Throughout Call.Truthful earlier
      ((scriptObjects .mysql).map (Call.looked present)))
    (absent : ∀ object ∈ scriptObjects .mysql, present object = false) : kept earlier = [] := by
  by_contra some
  have user : Object.table .user ∈ scriptObjects .mysql := by decide
  have there := (throughout_looked_iff.mp truthful _ user).mpr (user_of_kept found front some)
  rw [absent _ user] at there
  cases there

/-- One more attempt carries out nothing, or it is the first to carry out anything. -/
theorem Course.quiet_or_first (found : steps .mysql variant = .ok list)
    (course : Course (scriptObjects .mysql) list present calls result)
    (front : kept earlier <+: list) (truthful : Throughout Call.Truthful earlier calls) :
    (kept calls = [] ∧ result ≠ .ok true ∧
        (result = .ok false → ∀ object ∈ scriptObjects .mysql, object ∈ created earlier)) ∨
      (kept earlier = [] ∧ result ≠ .ok false ∧ (result = .ok true → kept calls = list)) := by
  cases course with
  | unanswered split => exact .inl ⟨by simp, by simp, by simp⟩
  | complete all =>
      exact .inl ⟨by simp, by simp, fun _ object member =>
        (throughout_looked_iff.mp truthful object member).mp (all object member)⟩
  | incomplete there missing => exact .inl ⟨by simp, by simp, by simp⟩
  | failed absent split =>
      have looked := (throughout_append.mp truthful).1
      exact .inr ⟨kept_eq_nil_of_absent found front looked absent, by simp, by simp⟩
  | applied absent =>
      have looked := (throughout_append.mp truthful).1
      exact .inr ⟨kept_eq_nil_of_absent found front looked absent, by simp, by simp⟩

/-- What attempts leave, and what their successes mean. -/
structure Attempted (list : List Step) (calls : List Call)
    (results : List (Except Failure Bool)) : Prop where
  front : kept calls <+: list
  applied : .ok true ∈ results → kept calls = list
  found : .ok false ∈ results → ∀ object ∈ scriptObjects .mysql, object ∈ created calls

/-- One more attempt. -/
theorem Attempted.next (found : steps .mysql variant = .ok list)
    (attempted : Attempted list earlier results)
    (course : Course (scriptObjects .mysql) list present calls result)
    (truthful : Throughout Call.Truthful earlier calls) :
    Attempted list (earlier ++ calls) (results ++ [result]) := by
  rcases course.quiet_or_first found attempted.front truthful with
    ⟨quiet, notApplied, there⟩ | ⟨first, notFound, all⟩
  · have same : kept (earlier ++ calls) = kept earlier := by simp [quiet]
    refine ⟨same ▸ attempted.front, fun member => ?_, fun member => ?_⟩
    · rw [same]
      exact attempted.applied (by simpa [notApplied.symm] using member)
    · rw [created, same]
      rcases List.mem_append.mp member with before | last
      · exact attempted.found before
      · exact there (List.mem_singleton.mp last).symm
  · have same : kept (earlier ++ calls) = kept calls := by simp [first]
    -- an earlier success would have left something
    have before {applied : Bool} : .ok applied ∉ results := by
      intro member
      cases applied with
      | true =>
          exact absurd (attempted.applied member ▸ first) (steps_ne_nil found)
      | false =>
          have user := attempted.found member (.table .user) (by decide)
          rw [created, first] at user
          cases user
    refine ⟨same ▸ course.kept_prefix, fun member => ?_, fun member => ?_⟩
    · rw [same]
      exact all (by simpa [before, eq_comm] using member)
    · exact absurd (by simpa [before, eq_comm] using member) notFound

/-- What holds of attempts holds after any number of them. -/
theorem Attempts.attempted (found : steps .mysql variant = .ok list)
    (attempts : Attempts variant calls results) : Attempted list calls results := by
  induction attempts with
  | none => exact ⟨List.nil_prefix, by simp, by simp⟩
  | next _ reached truthful inductionHypothesis =>
      obtain ⟨present, course⟩ := (reaches_initSchema_iff found).mp reached
      exact inductionHypothesis.next found course truthful

/-- Where every required object was created, at most the index on tag names is left. -/
theorem kept_of_found (found : steps .mysql variant = .ok list) (front : kept calls <+: list)
    (there : ∀ object ∈ scriptObjects .mysql, object ∈ created calls) :
    kept calls = list ∨ variant = .uniqueTagName ∧
      (kept calls).map Step.sql ++ [tagNameIndexSql .mysql] = list.map Step.sql := by
  have enough : (scriptObjects .mysql).length ≤ (kept calls).length := by
    have part := (List.subperm_of_subset nodup_scriptObjects there).length_le
    rwa [created, List.length_map] at part
  have sqls : list.map Step.sql = Script.split mysqlScript ++
      if variant.hasTagNameIndex then [tagNameIndexSql .mysql] else [] :=
    (Except.ok.inj (steps_sql found)).symm
  obtain ⟨later, rfl⟩ := front
  -- the script was carried out, so what is left is at the end of what a variant adds to it
  have left : later.map Step.sql <:+
      if variant.hasTagNameIndex then [tagNameIndexSql .mysql] else [] := by
    rw [List.map_append] at sqls
    rcases List.append_eq_append_iff.mp sqls with ⟨more, script, added⟩ | ⟨more, -, added⟩
    · have none : more.length = 0 := by
        have length := congrArg List.length script
        rw [length_split_mysqlScript, List.length_append, List.length_map] at length
        omega
      obtain rfl := List.length_eq_zero_iff.mp none
      exact added ▸ List.suffix_refl _
    · exact ⟨more, added.symm⟩
  cases variant with
  | uniqueTagName =>
      rcases List.suffix_cons_iff.mp left with index | none
      · exact .inr ⟨rfl, by rw [List.map_append, index]⟩
      · rw [List.suffix_nil, List.map_eq_nil_iff] at none
        exact .inl (by rw [none, List.append_nil])
  | basic =>
      have none := List.map_eq_nil_iff.mp (List.suffix_nil.mp left)
      exact .inl (by rw [none, List.append_nil])

/-- After any number of attempts: if one of them applied the changelog, all statements were
carried out, once each and in order. If one of them found a schema, the same holds, except that
the index on tag names may be left while no attempt has applied the changelog. -/
theorem Attempts.succeeded (attempts : Attempts variant calls results) :
    ∃ sqls, statements .mysql variant = .ok sqls ∧
      (.ok true ∈ results → (kept calls).map Step.sql = sqls) ∧
      (.ok false ∈ results → (kept calls).map Step.sql = sqls ∨
        variant = .uniqueTagName ∧ .ok true ∉ results ∧
          (kept calls).map Step.sql ++ [tagNameIndexSql .mysql] = sqls) := by
  obtain ⟨list, found, -⟩ := exists_mysql_steps variant
  have attempted := attempts.attempted found
  refine ⟨_, steps_sql found, fun applied => ?_, fun there => ?_⟩
  · rw [attempted.applied applied]
  · by_cases applied : .ok true ∈ results
    · exact .inl (by rw [attempted.applied applied])
    · rcases kept_of_found found attempted.front (attempted.found there) with
        all | ⟨unique, left⟩
      · exact .inl (by rw [all])
      · exact .inr ⟨unique, applied, left⟩

/-! ## An attempt that fails at the index -/

/-- An attempt may fail at the index on tag names. The next one finds a schema, and the index
is left. -/
theorem exists_attempts_index_left (error : EngineError) :
    ∃ calls, Attempts .uniqueTagName calls [.error (Failure.ofEngine error), .ok false] ∧
      (kept calls).map Step.sql = Script.split mysqlScript := by
  obtain ⟨list, found, creates⟩ := exists_mysql_steps .uniqueTagName
  have sqls : list.map Step.sql = Script.split mysqlScript ++ [tagNameIndexSql .mysql] :=
    (Except.ok.inj (steps_sql found)).symm
  obtain ⟨script, last, rfl, scriptSql, lastSql⟩ := List.map_eq_append_iff.mp sqls
  obtain ⟨index, rfl, -⟩ := List.map_eq_singleton_iff.mp lastSql
  have scriptCreates : script.map Step.creates = scriptObjects .mysql := by
    rw [List.map_append] at creates
    exact (List.append_inj' creates rfl).1
  have first : Attempts .uniqueTagName _ [.error (Failure.ofEngine error)] :=
    .next .none ((reaches_initSchema_iff found).mpr
      ⟨fun _ => false, .failed (fun _ _ => rfl) rfl⟩) ?_
  · have second := Attempts.next first ((reaches_initSchema_iff found).mpr
      ⟨fun _ => true, .complete fun _ _ => rfl⟩) ?_
    · refine ⟨_, second, ?_⟩
      simp only [kept_append, kept_looked, kept_ran, kept_refused, List.nil_append,
        List.append_nil, scriptSql]
    · refine throughout_looked_iff.mpr fun object member => ?_
      simpa [created, scriptCreates] using member
  · refine throughout_append.mpr ⟨throughout_looked_iff.mpr (by simp [created]), ?_⟩
    exact throughout_append.mpr ⟨truthful_ran _ _, trivial, trivial⟩

/-- So a success does not mean that every statement was carried out. -/
theorem Attempts.not_all_of_success : ∃ calls,
    Attempts .uniqueTagName calls [.error (Failure.ofEngine .acquireTimeout), .ok false] ∧
      ∃ sqls, statements .mysql .uniqueTagName = .ok sqls ∧
        ∃ sql ∈ sqls, sql ∉ (kept calls).map Step.sql := by
  obtain ⟨calls, attempts, same⟩ := exists_attempts_index_left .acquireTimeout
  refine ⟨calls, attempts, _, rfl, tagNameIndexSql .mysql, ?_, ?_⟩
  · exact List.mem_append_right _ List.mem_cons_self
  · rw [same]
    exact tagNameIndexSql_notMem_mysqlScript

/-- After an attempt that failed at the index and one that found a schema, the statements kept are
those of the schema, or all of them but the index. -/
theorem Attempts.succeeded_index_left : ∃ calls,
    Attempts .uniqueTagName calls [.error (Failure.ofEngine .acquireTimeout), .ok false] ∧
      ∃ sqls, statements .mysql .uniqueTagName = .ok sqls ∧
        ((kept calls).map Step.sql = sqls ∨
          (kept calls).map Step.sql ++ [tagNameIndexSql .mysql] = sqls) := by
  obtain ⟨calls, attempts, -⟩ := exists_attempts_index_left .acquireTimeout
  obtain ⟨sqls, found, -, there⟩ := Attempts.succeeded attempts
  refine ⟨calls, attempts, sqls, found, ?_⟩
  rcases there (by simp) with all | ⟨-, -, left⟩
  · exact .inl all
  · exact .inr left

end MemoStore.Schema
