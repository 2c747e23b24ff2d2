import RdfMapping.Proofs.Barrier
import RdfMapping.Proofs.NestedLoop

/-!
# Quads of a finished run

What a triples map gave for its records, and what a join gave when it was resolved. In a
run that is finished, and in which no call failed, these are all records of the triples map,
and the nested loop of the join.
-/

namespace RdfMapping

namespace Call

/-- What the triples map of this place gave for a record. -/
@[simp] def given (place : Nat) : Call → List Quad
  | .process m _ outcome => if m.place = place then foundIn outcome else []
  | _ => []

/-- What this join gave when it was resolved. -/
@[simp] def joined (join : Nat) : Call → List Quad
  | .resolve _ j outcome => if j = join then foundIn outcome else []
  | _ => []

end Call

def quadsOfRecords (place : Nat) (calls : List Call) : List Quad :=
  calls.flatMap (Call.given place)

def quadsOfJoin (join : Nat) (calls : List Call) : List Quad :=
  calls.flatMap (Call.joined join)

theorem quadsOfJoin_concat (join : Nat) (calls : List Call) (call : Call) :
    quadsOfJoin join (calls ++ [call]) = quadsOfJoin join calls ++ call.joined join := by
  rw [quadsOfJoin, List.flatMap_append, List.flatMap_singleton]
  rfl

/-- A join that was not resolved gave nothing. -/
theorem quadsOfJoin_eq_nil {join : Nat} {calls : List Call} (open' : join ∉ resolved calls) :
    quadsOfJoin join calls = [] := by
  refine List.flatMap_eq_nil_iff.mpr fun call made => ?_
  cases call with
  | process m record outcome => rfl
  | complete m ready => rfl
  | resolve m j outcome =>
    have apart : j ≠ join := by
      rintro rfl
      exact open' (List.mem_filterMap.mpr ⟨_, made, rfl⟩)
    rw [Call.joined, if_neg apart]

section

variable {g : RuleGraph} {functions : Registry} {settings : Settings} {plan : Plan}
  {records : Nat → List Record} {calls : List Call} {s : Session}

/-- In a schedule without failing calls every record that was mapped has quads. -/
theorem Schedule.survey_ok (realized : plan.Realizes g functions settings)
    (schedule : Schedule plan records calls s) (succeed : ∀ call ∈ calls, call.succeeds)
    {m : MapPlan} {record : Record} {outcome : Except Fault (List Quad)}
    (made : .process m record outcome ∈ calls) :
    ∃ quads, (m.survey plan.emitClasses record).outcome = .ok quads := by
  rw [← schedule.outcome_eq realized made]
  cases outcome with
  | ok quads => exact ⟨quads, rfl⟩
  | error f => cases succeed _ made

/-- A triples map gave what its surveys of the records mapped so far say. -/
theorem Schedule.quadsOfRecords_eq_processed (realized : plan.Realizes g functions settings)
    (schedule : Schedule plan records calls s) {m : MapPlan} (member : m ∈ plan.maps) :
    quadsOfRecords m.place calls = (processed m.place calls).flatMap fun record =>
      foundIn (m.survey plan.emitClasses record).outcome := by
  have tells := schedule.tells realized
  rw [quadsOfRecords, processed, List.filterMap_eq_flatMap_toList, List.flatMap_assoc]
  refine List.flatMap_congr fun call made => ?_
  cases call with
  | complete n ready => rfl
  | resolve n join outcome => rfl
  | process n record outcome =>
    by_cases here : n.place = m.place
    · have same : n = m := realized.place_inj (tells.members _ made) member here
      subst same
      simp [schedule.outcome_eq realized made]
    · simp [here]

/-- A finished triples map gave what its surveys of all its records say. -/
theorem Schedule.quadsOfRecords_eq (realized : plan.Realizes g functions settings)
    (schedule : Schedule plan records calls s) (finished : s.Finished plan) {m : MapPlan}
    (member : m ∈ plan.maps) : quadsOfRecords m.place calls =
      (records m.place).flatMap fun record =>
        foundIn (m.survey plan.emitClasses record).outcome := by
  have tells := schedule.tells realized
  rw [schedule.quadsOfRecords_eq_processed realized member,
    tells.processed_of_completed member (tells.completed_of_finished finished member)]

theorem Schedule.survey_ok_of_finished (realized : plan.Realizes g functions settings)
    (schedule : Schedule plan records calls s) (finished : s.Finished plan)
    (succeed : ∀ call ∈ calls, call.succeeds) {m : MapPlan} (member : m ∈ plan.maps)
    {record : Record} (delivered : record ∈ records m.place) :
    ∃ quads, (m.survey plan.emitClasses record).outcome = .ok quads := by
  have tells := schedule.tells realized
  rw [← tells.processed_of_completed member (tells.completed_of_finished finished member)]
    at delivered
  obtain ⟨n, outcome, made, here⟩ := mem_processed.mp delivered
  have same : n = m := realized.place_inj (tells.members _ made) member here
  exact same ▸ schedule.survey_ok realized succeed made

/-- A join that was resolved gave its nested loop, once. -/
theorem Schedule.quadsOfJoin_perm (realized : plan.Realizes g functions settings)
    (schedule : Schedule plan records calls s) (succeed : ∀ call ∈ calls, call.succeeds) {j : Nat}
    {site : JoinSite} (registers : plan.Registers g j site) (done : j ∈ resolved calls) :
    (quadsOfJoin j calls).Perm (site.nestedLoop records) := by
  induction schedule with
  | start => exact (List.not_mem_nil done).elim
  | @step calls call s t before last ih =>
    have succeedBefore : ∀ call ∈ calls, call.succeeds := fun call earlier =>
      succeed call (List.mem_append_left _ earlier)
    have tells := before.tells realized
    rw [quadsOfJoin_concat]
    rw [resolved_concat] at done
    cases last with
    | process member reading => simpa using ih succeedBefore (by simpa using done)
    | complete member reading => simpa using ih succeedBefore (by simpa using done)
    | @resolve m i ready member resolving handed =>
      obtain ⟨-, -, -, -, new, -⟩ := tells.resolve realized member resolving handed
      by_cases here : i = j
      · subst here
        -- a join is resolved once, so it gave nothing before this call
        obtain ⟨quads, ran, -, perm⟩ := tells.resolve_perm realized member resolving handed
          fun m record outcome made => before.survey_ok realized succeedBefore made
        rw [quadsOfJoin_eq_nil new, List.nil_append, Call.joined, if_pos rfl, ran, foundIn_ok]
        exact perm site registers
      · have earlier : j ∈ resolved calls := by simpa [Ne.symm here] using done
        simpa [here] using ih succeedBefore earlier

theorem Schedule.quadsOfJoin_perm_of_finished (realized : plan.Realizes g functions settings)
    (schedule : Schedule plan records calls s) (finished : s.Finished plan)
    (succeed : ∀ call ∈ calls, call.succeeds) {j : Nat} {site : JoinSite}
    (registers : plan.Registers g j site) :
    (quadsOfJoin j calls).Perm (site.nestedLoop records) := by
  obtain ⟨_, _, _, spec, -⟩ := registers.spec realized
  obtain ⟨join, found, -⟩ := Option.map_eq_some_iff.mp spec
  obtain ⟨-, -, done⟩ := (schedule.tells realized).resolved_of_finished realized finished found
  exact schedule.quadsOfJoin_perm realized succeed registers done

end

end RdfMapping
