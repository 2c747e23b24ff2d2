import RdfMapping.Proofs.ProducedTerms
import RdfMapping.Proofs.Schedules
import RdfMapping.Proofs.SurveyResults

/-!
# Sessions by their calls

However the calls of the triples maps follow each other, the calls made so far
tell the ledger and what each triples map has still to do. A ledger told by its
calls takes every posting of a triples map that is not complete, and resolves
every join that was handed out and is not resolved.
-/

namespace RdfMapping

open Ledger (isResolvable)

variable {g : RuleGraph} {functions : Registry} {settings : Settings} {plan : Plan}
  {records : Nat → List Record} {calls : List Call} {s t : Session} {call : Call}

namespace Plan

/-- A registered join has a child and a parent in the plan. -/
theorem Realizes.join_cases (realized : plan.Realizes g functions settings) {j : Nat} {join : Join}
    (found : plan.ledger.join? j = some join) :
    ∃ site slot, plan.Registers g j site ∧ join.spec.child = site.child.place ∧
      join.spec.parent = site.parent.place ∧ join.spec.targets = site.reference.targets ∧
      plan.ledger.stores[join.spec.store]? = some slot ∧ slot.parent = site.parent.place ∧
      slot.expressions = site.reference.parentExpressions := by
  obtain ⟨inside, -⟩ := List.getElem?_eq_some_iff.mp found
  have listed : j ∈ plan.joins := by
    rw [realized.joins]
    exact List.mem_range.mpr inside
  obtain ⟨m, member, listed⟩ := List.mem_flatMap.mp listed
  obtain ⟨site, -, registers⟩ := realized.exists_site member listed
  obtain ⟨parentIri, childIri, store, spec, stored⟩ := registers.spec realized
  rw [found, Option.map_some, Option.some.injEq] at spec
  rw [spec]
  obtain ⟨slot, stored, filled⟩ := Option.map_eq_some_iff.mp stored
  simp only [Prod.mk.injEq] at filled
  exact ⟨site, slot, registers, rfl, rfl, rfl, stored, filled.1, filled.2⟩

theorem Realizes.linked (realized : plan.Realizes g functions settings) : plan.ledger.Linked := by
  intro j join found
  obtain ⟨site, slot, -, -, parent, -, stored, filled, -⟩ := realized.join_cases found
  exact ⟨slot, stored, filled.trans parent.symm⟩

end Plan

/-- The progress of a triples map is told by the calls. -/
def Progress.Follows (records : Nat → List Record) (calls : List Call) (place : Nat) :
    Progress → Prop
  | .reading rest => place ∉ completed calls ∧ processed place calls ++ rest = records place
  | .resolving ready => place ∈ completed calls ∧ processed place calls = records place ∧
      ready = (handedTo place calls).filter (· ∉ resolved calls)

/-- A call does not touch the progress of other triples maps, nor their joins. -/
theorem Progress.Follows.concat {place : Nat} {progress : Progress}
    (follows : progress.Follows records calls place) (away : call.map.place ≠ place)
    (others : ∀ j, call.resolved? = some j → j ∉ handedTo place calls) :
    progress.Follows records (calls ++ [call]) place := by
  cases call with
  | process m record outcome =>
    have away : ¬ m.place = place := away
    cases progress <;> simpa [Follows, away] using follows
  | complete m ready =>
    have away : ¬ m.place = place := away
    cases progress <;> simpa [Follows, away, Ne.symm away] using follows
  | resolve m join outcome =>
    have kept : (handedTo place calls).filter (· ∉ resolved calls ++ [join]) =
        (handedTo place calls).filter (· ∉ resolved calls) := by
      refine List.filter_congr fun j handed => ?_
      have apart : ¬ j = join := fun same => others join rfl (same ▸ handed)
      simp [apart]
    cases progress with
    | reading rest => simpa [Follows] using follows
    | resolving ready =>
      obtain ⟨done, told, left⟩ := follows
      refine ⟨by simpa using done, by simpa using told, ?_⟩
      simp only [handedTo_concat, resolved_concat, Call.readyFor, Call.resolved?, List.append_nil,
        Option.toList_some]
      rw [kept, left]

/-- What a schedule keeps: the ledger and all progress are told by the calls. -/
structure Session.Tells (plan : Plan) (records : Nat → List Record) (calls : List Call)
    (s : Session) : Prop where
  ledger : s.ledger =
    plan.ledger.after (posted plan.emitClasses calls) (completed calls) (resolved calls)
  members : ∀ call ∈ calls, call.map ∈ plan.maps
  follows : ∀ m ∈ plan.maps, (s.progress m.place).Follows records calls m.place
  /-- Joins are handed out once, when both their maps are complete. -/
  handed : (handedOut calls).Nodup
  mem_handed : ∀ j, j ∈ handedOut calls ↔
    ∃ join, plan.ledger.join? j = some join ∧ isResolvable (completed calls) join
  resolvable : ∀ j ∈ resolved calls, j ∈ handedOut calls
  apart : ∀ j p q, j ∈ handedTo p calls → j ∈ handedTo q calls → p = q

theorem Session.tells_start (realized : plan.Realizes g functions settings) :
    (Session.start plan records).Tells plan records [] where
  ledger := (Ledger.after_fresh realized.fresh).symm
  members := fun _ member => (List.not_mem_nil member).elim
  follows := fun _ _ => ⟨List.not_mem_nil, rfl⟩
  handed := List.nodup_nil
  mem_handed j := by
    constructor
    · exact fun member => (List.not_mem_nil member).elim
    · rintro ⟨join, -, both⟩
      cases both
  resolvable := fun _ member => (List.not_mem_nil member).elim
  apart := fun _ _ _ member => (List.not_mem_nil member).elim

/-- After a call the others follow as before, so only the caller has to be looked at. -/
theorem Session.Tells.follows_advance (tells : s.Tells plan records calls) {progress : Progress}
    {ledger : Ledger} (own : progress.Follows records (calls ++ [call]) call.map.place)
    (others : ∀ j, call.resolved? = some j → ∀ place, place ≠ call.map.place →
      j ∉ handedTo place calls) :
    ∀ m ∈ plan.maps, ((s.advance call.map.place progress ledger).progress m.place).Follows
      records (calls ++ [call]) m.place := by
  intro m listed
  by_cases same : m.place = call.map.place
  · rw [same]
    simpa [advance] using own
  · have before : (s.advance call.map.place progress ledger).progress m.place =
        s.progress m.place := Function.update_of_ne same _ _
    rw [before]
    exact (tells.follows m listed).concat (Ne.symm same) fun j resolved =>
      others j resolved m.place same

theorem Session.Tells.of_reading (tells : s.Tells plan records calls) {m : MapPlan}
    {rest : List Record} (member : m ∈ plan.maps)
    (reading : s.progress m.place = .reading rest) :
    m.place ∉ completed calls ∧ processed m.place calls ++ rest = records m.place := by
  have follows := tells.follows m member
  rwa [reading] at follows

theorem Session.Tells.of_resolving (tells : s.Tells plan records calls) {m : MapPlan}
    {ready : List Nat} (member : m ∈ plan.maps)
    (resolving : s.progress m.place = .resolving ready) :
    m.place ∈ completed calls ∧ processed m.place calls = records m.place ∧
      ready = (handedTo m.place calls).filter (· ∉ resolved calls) := by
  have follows := tells.follows m member
  rwa [resolving] at follows

/-- A triples map that is complete has mapped all its records. -/
theorem Session.Tells.processed_of_completed (tells : s.Tells plan records calls) {m : MapPlan}
    (member : m ∈ plan.maps) (done : m.place ∈ completed calls) :
    processed m.place calls = records m.place := by
  cases progress : s.progress m.place with
  | reading rest => exact ((tells.of_reading member progress).1 done).elim
  | resolving ready => exact (tells.of_resolving member progress).2.1

/-- Until a triples map is complete, the ledger takes what it posts. -/
theorem Session.Tells.accepts (realized : plan.Realizes g functions settings)
    (tells : s.Tells plan records calls) {m : MapPlan} (member : m ∈ plan.maps)
    (open' : m.place ∉ completed calls) {posting : Posting} (owned : m.Owns posting) :
    s.ledger.Accepts posting := by
  rw [tells.ledger]
  apply Ledger.accepts_after
  cases posting with
  | parent store key subject =>
    obtain ⟨expressions, listed⟩ := owned
    intro slot stored
    have filled := (realized.mem_parentKeys member).mp listed
    rw [stored, Option.map_some, Option.some.injEq, Prod.mk.injEq] at filled
    rw [filled.1]
    exact open'
  | child join entry =>
    obtain ⟨site, rfl, registers⟩ := realized.exists_site member owned
    obtain ⟨parentIri, childIri, store, spec, -⟩ := registers.spec realized
    obtain ⟨held, found, spec⟩ := Option.map_eq_some_iff.mp spec
    refine ⟨by rw [found]; rfl, fun done => open' ?_⟩
    obtain ⟨other, same, both⟩ := (tells.mem_handed join).mp (tells.resolvable join done)
    rw [found] at same
    cases same
    have child := (isResolvable_iff.mp both).2
    rwa [spec] at child

/-- A record is mapped as on a ledger that has seen nothing. -/
theorem Session.Tells.process (realized : plan.Realizes g functions settings)
    (tells : s.Tells plan records calls) {m : MapPlan} (member : m ∈ plan.maps)
    (open' : m.place ∉ completed calls) (record : Record) :
    m.process plan.emitClasses record s.ledger =
      (plan.ledger.after
        (posted plan.emitClasses calls ++ (m.survey plan.emitClasses record).postings)
        (completed calls) (resolved calls), (m.survey plan.emitClasses record).outcome) := by
  have accepts := fun posting inside => tells.accepts realized member open'
    ((realized.survey_meets member plan.emitClasses record).postings posting inside).1
  rw [MapPlan.process_eq_take accepts]
  rw [tells.ledger] at accepts ⊢
  rw [Ledger.take_after accepts]

/-- The store of a join whose parent is complete holds what all its records insert. -/
theorem Session.Tells.store_holds (realized : plan.Realizes g functions settings)
    (tells : s.Tells plan records calls) {j : Nat} {join : Join}
    (found : plan.ledger.join? j = some join) (done : join.spec.parent ∈ completed calls) :
    ∃ store, s.ledger.store? join.spec.store = some store ∧ store.isSealed ∧
      ∃ parent ∈ plan.maps, parent.place = join.spec.parent ∧ ∀ key subject,
        subject ∈ store.lookup key ↔ ∃ record ∈ records parent.place,
          parent.Inserts record join.spec.store key subject := by
  obtain ⟨site, slot, registers, -, parent, -, stored, filled, -⟩ := realized.join_cases found
  refine ⟨_, by rw [tells.ledger, Ledger.store?_after, stored]; rfl, ?_, site.parent,
    registers.parent, parent.symm, fun key subject => ?_⟩
  · simp [filled, ← parent, done]
  have told := tells.processed_of_completed registers.parent (parent ▸ done)
  simp only [← MapPlan.mem_survey_parent plan.emitClasses]
  rw [ParentStore.mem_lookup_fill, mem_pairsFor, mem_posted, ← told]
  constructor
  · rintro (none | ⟨m, record, outcome, made, inside⟩)
    · exact (List.not_mem_nil none).elim
    · have member : m ∈ plan.maps := tells.members _ made
      have meets := realized.survey_meets member plan.emitClasses record
      obtain ⟨expressions, listed⟩ := (meets.postings _ inside).1
      have owned := (realized.mem_parentKeys member).mp listed
      rw [stored, Option.map_some, Option.some.injEq, Prod.mk.injEq] at owned
      have same : m = site.parent :=
        realized.place_inj member registers.parent (owned.1.symm.trans filled)
      exact ⟨record, mem_processed.mpr ⟨m, outcome, made, by rw [same]⟩, same ▸ inside⟩
  · rintro ⟨record, mapped, inside⟩
    obtain ⟨m, outcome, made, here⟩ := mem_processed.mp mapped
    have same : m = site.parent :=
      realized.place_inj (tells.members _ made) registers.parent here
    exact .inr ⟨m, record, outcome, made, same ▸ inside⟩

theorem Session.Tells.step_process (realized : plan.Realizes g functions settings)
    (tells : s.Tells plan records calls) {m : MapPlan} {record : Record} {rest : List Record}
    (member : m ∈ plan.maps) (reading : s.progress m.place = .reading (record :: rest)) :
    (s.advance m.place (.reading rest) (m.process plan.emitClasses record s.ledger).1).Tells plan
      records (calls ++ [.process m record (m.process plan.emitClasses record s.ledger).2]) := by
  obtain ⟨open', told⟩ := tells.of_reading member reading
  have ran := tells.process realized member open' record
  constructor
  · simp [Session.advance, ran]
  · exact List.forall_mem_append.mpr ⟨tells.members, List.forall_mem_singleton.mpr member⟩
  · refine tells.follows_advance ?_ fun j none => by cases none
    exact ⟨by simpa using open', by simpa using told⟩
  · simpa using tells.handed
  · simpa using tells.mem_handed
  · simpa using tells.resolvable
  · simpa using tells.apart

/-- Joins that become resolvable were not handed out before. -/
theorem Session.Tells.readied_fresh (tells : s.Tells plan records calls) {place j : Nat}
    (readied : j ∈ plan.ledger.readied (completed calls) place) : j ∉ handedOut calls :=
  fun handed => Ledger.not_resolvable_of_readied readied ((tells.mem_handed j).mp handed)

/-- Together with the joins handed out before, they are all that are resolvable now. -/
theorem Session.Tells.mem_handed_readied (tells : s.Tells plan records calls) (place j : Nat) :
    j ∈ handedOut calls ∨ j ∈ plan.ledger.readied (completed calls) place ↔
      ∃ join, plan.ledger.join? j = some join ∧ isResolvable (completed calls ++ [place]) join := by
  rw [tells.mem_handed, Ledger.resolvable_or_readied]

theorem Session.Tells.step_complete
    (tells : s.Tells plan records calls) {m : MapPlan} (member : m ∈ plan.maps)
    (reading : s.progress m.place = .reading []) :
    (s.advance m.place (.resolving (s.ledger.markComplete m.place).1)
      (s.ledger.markComplete m.place).2).Tells plan records
      (calls ++ [.complete m (s.ledger.markComplete m.place).1]) := by
  obtain ⟨open', told⟩ := tells.of_reading member reading
  have ran : s.ledger.markComplete m.place = (plan.ledger.readied (completed calls) m.place,
      plan.ledger.after (posted plan.emitClasses calls) (completed calls ++ [m.place])
        (resolved calls)) := by
    rw [tells.ledger]
    exact Ledger.markComplete_after open'
  have noneYet : ∀ j ∈ plan.ledger.readied (completed calls) m.place, ∀ place,
      j ∉ handedTo place calls := fun j readied place handed =>
    tells.readied_fresh readied ((handedTo_sublist place calls).subset handed)
  rw [ran]
  constructor
  · simp [Session.advance]
  · exact List.forall_mem_append.mpr ⟨tells.members, List.forall_mem_singleton.mpr member⟩
  · refine tells.follows_advance ?_ fun j none => by cases none
    refine ⟨by simp, by simpa using told, ?_⟩
    have nothing : handedTo m.place calls = [] :=
      List.eq_nil_iff_forall_not_mem.mpr fun j handed => open' (mem_completed_of_handedTo handed)
    have kept : (plan.ledger.readied (completed calls) m.place).filter (· ∉ resolved calls) =
        plan.ledger.readied (completed calls) m.place := by
      refine List.filter_eq_self.mpr fun j readied => decide_eq_true ?_
      exact fun done => tells.readied_fresh readied (tells.resolvable j done)
    simpa [nothing] using kept.symm
  · rw [handedOut_concat]
    exact tells.handed.append (Ledger.nodup_readied _) fun j handed readied =>
      tells.readied_fresh readied handed
  · intro j
    rw [handedOut_concat, List.mem_append, completed_concat]
    exact tells.mem_handed_readied m.place j
  · intro j done
    rw [handedOut_concat]
    exact List.mem_append_left _ (tells.resolvable j (by simpa using done))
  · intro j p q toFirst toNext
    simp only [handedTo_concat, Call.readyFor, List.mem_append, List.mem_ite_nil_right]
      at toFirst toNext
    rcases toFirst with old | ⟨here, new⟩
    · rcases toNext with other | ⟨-, new⟩
      · exact tells.apart j p q old other
      · exact (noneYet j new p old).elim
    · rcases toNext with other | ⟨there, -⟩
      · exact (noneYet j new q other).elim
      · exact here.symm.trans there

/-- What a triples map may resolve is resolvable, and gives the matches of all its entries. -/
theorem Session.Tells.resolve (realized : plan.Realizes g functions settings)
    (tells : s.Tells plan records calls) {m : MapPlan} {j : Nat} {ready : List Nat}
    (member : m ∈ plan.maps) (resolving : s.progress m.place = .resolving ready)
    (handed : j ∈ ready) :
    ∃ join, plan.ledger.join? j = some join ∧ isResolvable (completed calls) join ∧
      j ∈ handedTo m.place calls ∧ j ∉ resolved calls ∧
      s.ledger.resolve j =
        (.ok ((entriesFor j (posted plan.emitClasses calls)).flatMap (Ledger.entryQuads
            ((s.ledger.store? join.spec.store).getD .empty) join.spec.targets)),
          plan.ledger.after (posted plan.emitClasses calls) (completed calls)
            (resolved calls ++ [j])) := by
  obtain ⟨-, -, left⟩ := tells.of_resolving member resolving
  rw [left, List.mem_filter, decide_eq_true_eq] at handed
  obtain ⟨mine, new⟩ := handed
  obtain ⟨join, found, both⟩ :=
    (tells.mem_handed j).mp ((handedTo_sublist m.place calls).subset mine)
  refine ⟨join, found, both, mine, new, ?_⟩
  rw [tells.ledger, Ledger.resolve_after realized.linked found both new]

theorem Session.Tells.step_resolve (realized : plan.Realizes g functions settings)
    (tells : s.Tells plan records calls) {m : MapPlan} {j : Nat} {ready : List Nat}
    (member : m ∈ plan.maps) (resolving : s.progress m.place = .resolving ready)
    (handed : j ∈ ready) :
    (s.advance m.place (.resolving (ready.erase j)) (s.ledger.resolve j).2).Tells plan
      records (calls ++ [.resolve m j (s.ledger.resolve j).1]) := by
  obtain ⟨done, told, left⟩ := tells.of_resolving member resolving
  obtain ⟨join, found, both, mine, new, ran⟩ := tells.resolve realized member resolving handed
  have handedOnce : (handedTo m.place calls).Nodup :=
    tells.handed.sublist (handedTo_sublist m.place calls)
  rw [ran]
  constructor
  · simp [Session.advance]
  · exact List.forall_mem_append.mpr ⟨tells.members, List.forall_mem_singleton.mpr member⟩
  · refine tells.follows_advance ?_ ?_
    · refine ⟨by simpa using done, by simpa using told, ?_⟩
      rw [left, (handedOnce.filter _).erase_eq_filter, List.filter_filter]
      simp only [handedTo_concat, Call.readyFor, List.append_nil, resolved_concat, Call.resolved?,
        Option.toList_some]
      refine List.filter_congr fun i _ => ?_
      by_cases same : i = j
      · simp [same]
      · simp [same]
    · intro i same place away handedThere
      cases same
      exact away (tells.apart j place m.place handedThere mine)
  · simpa using tells.handed
  · simpa using tells.mem_handed
  · intro i done
    rw [resolved_concat] at done
    rcases List.mem_append.mp done with earlier | last
    · simpa using tells.resolvable i earlier
    · rw [List.mem_singleton.mp last]
      simpa using (handedTo_sublist m.place calls).subset mine
  · simpa using tells.apart

theorem Session.Tells.step (realized : plan.Realizes g functions settings)
    (tells : s.Tells plan records calls) (step : Step plan s call t) :
    t.Tells plan records (calls ++ [call]) := by
  cases step with
  | process member reading => exact tells.step_process realized member reading
  | complete member reading => exact tells.step_complete member reading
  | resolve member resolving handed => exact tells.step_resolve realized member resolving handed

theorem Schedule.tells (realized : plan.Realizes g functions settings)
    (schedule : Schedule plan records calls s) : s.Tells plan records calls := by
  induction schedule with
  | start => exact Session.tells_start realized
  | step _ last ih => exact ih.step realized last

/-- What a triples map answered for a record is what its survey says. -/
theorem Schedule.outcome_eq (realized : plan.Realizes g functions settings)
    (schedule : Schedule plan records calls s) {m : MapPlan} {record : Record}
    {outcome : Except Fault (List Quad)} (made : .process m record outcome ∈ calls) :
    outcome = (m.survey plan.emitClasses record).outcome := by
  induction schedule with
  | start => exact (List.not_mem_nil made).elim
  | step before last ih =>
    rcases List.mem_append.mp made with earlier | last'
    · exact ih earlier
    · have same := List.mem_singleton.mp last'
      cases last with
      | process member reading =>
        cases same
        have tells := before.tells realized
        obtain ⟨open', -⟩ := tells.of_reading member reading
        rw [tells.process realized member open']
      | complete member reading => cases same
      | resolve member resolving handed => cases same

end RdfMapping
