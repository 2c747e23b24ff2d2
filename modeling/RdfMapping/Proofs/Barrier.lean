import RdfMapping.Proofs.SessionHistory

/-!
# The join barrier

However the calls of the triples maps follow each other, no posting is refused
and no join is resolved too early. A join is handed out once, when the later one
of its triples maps is complete, and then its store holds the subjects of all
records of its parent.
-/

namespace RdfMapping

open Ledger (isResolvable)

variable {g : RuleGraph} {functions : Registry} {settings : Settings} {plan : Plan}
  {records : Nat → List Record} {calls : List Call} {s t : Session} {call : Call}

def Ledger.phase? (l : Ledger) (join : Nat) : Option JoinPhase := (l.join? join).map Join.phase

/-- From one phase to itself or to the next one. -/
inductive JoinPhase.Goes : JoinPhase → JoinPhase → Prop where
  | stays (phase : JoinPhase) : Goes phase phase
  | waits : Goes .pending .awaitingParent
  | resolves : Goes .awaitingParent .resolved

theorem Join.phase_goes (join : Join) {entries more : List ChildEntry} {done later : List Nat}
    {before now : Bool} (grows : done ⊆ later) (kept : before = true → now = true)
    (resolves : now = true → before = true ∨ join.spec.child ∈ done) :
    (join.after entries done before).phase.Goes
      (join.after (entries ++ more) later now).phase := by
  cases before with
  | true =>
    rw [kept rfl]
    exact .stays _
  | false =>
    cases now with
    | true =>
      have child : join.spec.child ∈ done := by simpa using resolves rfl
      simpa [after, child] using JoinPhase.Goes.resolves
    | false =>
      by_cases waiting : entries = [] ∧ join.spec.child ∉ done
      · have pending : (join.after entries done false).phase = .pending := by simp [after, waiting]
        rw [pending]
        simp only [after, Bool.false_eq_true, if_false]
        split
        · exact .stays _
        · exact .waits
      · have waits : ¬ (entries ++ more = [] ∧ join.spec.child ∉ later) := by
          rintro ⟨none, open'⟩
          exact waiting ⟨(List.append_eq_nil_iff.mp none).1, fun child => open' (grows child)⟩
        simp only [after, Bool.false_eq_true, if_false, waiting, waits]
        exact .stays _

theorem Session.Tells.phase?_eq (tells : s.Tells plan records calls) {j : Nat} {join : Join}
    (found : plan.ledger.join? j = some join) : s.ledger.phase? j =
      some (join.after (entriesFor j (posted plan.emitClasses calls)) (completed calls)
        ((resolved calls).contains j)).phase := by
  rw [Ledger.phase?, tells.ledger, Ledger.join?_after, found]
  rfl

/-- A join is resolved by a call that comes after both its triples maps are complete. -/
theorem Session.Tells.complete_of_resolves (next : t.Tells plan records (calls ++ [call]))
    {j : Nat} {join : Join} (found : plan.ledger.join? j = some join)
    (resolves : call.resolved? = some j) : isResolvable (completed calls) join := by
  have handed : j ∈ handedOut (calls ++ [call]) := by
    apply next.resolvable
    rw [resolved_concat, resolves]
    exact List.mem_append_right _ (List.mem_singleton_self j)
  obtain ⟨other, same, both⟩ := (next.mem_handed j).mp handed
  rw [found] at same
  cases same
  cases call with
  | process m record outcome => cases resolves
  | complete m ready => cases resolves
  | resolve m join outcome => simpa using both

/-- A call leaves each join in its phase or takes it to the next. -/
theorem Session.Tells.phase_goes (tells : s.Tells plan records calls)
    (next : t.Tells plan records (calls ++ [call])) {j : Nat} {join : Join}
    (found : plan.ledger.join? j = some join) :
    ∃ p q, s.ledger.phase? j = some p ∧ t.ledger.phase? j = some q ∧ p.Goes q := by
  refine ⟨_, _, tells.phase?_eq found, next.phase?_eq found, ?_⟩
  rw [posted_concat, entriesFor_append, completed_concat, resolved_concat]
  refine join.phase_goes (List.subset_append_left _ _) (fun done => ?_) fun done => ?_
  · rw [List.contains_append, done, Bool.true_or]
  · rw [List.contains_append, Bool.or_eq_true] at done
    rcases done with before | now
    · exact .inl before
    · have resolves : call.resolved? = some j :=
        Option.mem_toList.mp (List.contains_iff_mem.mp now)
      exact .inr (isResolvable_iff.mp (next.complete_of_resolves found resolves)).2

/-- What a call answers in a session that the calls before it led to. -/
def Call.Answers (functions : Registry) (plan : Plan) (records : Nat → List Record)
    (calls : List Call) (s : Session) : Call → Prop
  | .process m record outcome =>
    -- as on the ledger of the plan, and never for a reason of the ledger's own
    outcome = (m.process plan.emitClasses record plan.ledger).2 ∧
      ∀ reason, outcome = .error (.join reason) →
        (∃ e, record.evaluate e = .error (.join reason)) ∨
        ∃ iri function parameters, functions.find? iri = some function ∧
          function parameters = .error (.join reason)
  | .complete m ready =>
    -- just the joins whose parent and child are complete with this call and not before
    ready.Nodup ∧ ∀ j, j ∈ ready ↔ ∃ join, plan.ledger.join? j = some join ∧
      (m.place = join.spec.parent ∨ m.place = join.spec.child) ∧
      (join.spec.parent = m.place ∨ join.spec.parent ∈ completed calls) ∧
      (join.spec.child = m.place ∨ join.spec.child ∈ completed calls)
  | .resolve _ j outcome =>
    (∃ quads, outcome = .ok quads) ∧ ∃ join store, plan.ledger.join? j = some join ∧
      s.ledger.store? join.spec.store = some store ∧ store.isSealed ∧
      -- the subjects of all records of the parent, under all their keys
      ∃ parent ∈ plan.maps, parent.place = join.spec.parent ∧ ∀ key subject,
        subject ∈ store.lookup key ↔ ∃ record ∈ records parent.place,
          parent.Inserts record join.spec.store key subject

theorem Session.Tells.answers_process (realized : plan.Realizes g functions settings)
    (tells : s.Tells plan records calls) {m : MapPlan} (member : m ∈ plan.maps)
    (open' : m.place ∉ completed calls) (record : Record) :
    (Call.process m record (m.process plan.emitClasses record s.ledger).2).Answers functions plan
      records calls s := by
  have now := tells.process realized member open' record
  have start : (Session.start plan records).Tells plan records [] := Session.tells_start realized
  have fresh := start.process realized member List.not_mem_nil record
  refine ⟨?_, fun reason failed => ?_⟩
  · rw [now]
    exact (congrArg Prod.snd fresh).symm
  · have settles := (realized.survey_meets member plan.emitClasses record).outcome
    rw [now] at failed
    rw [show (m.survey plan.emitClasses record).outcome = _ from failed] at settles
    cases settles with
    | evaluated failed => exact .inl ⟨_, failed⟩
    | called found failed => exact .inr ⟨_, _, _, found, failed⟩

theorem Session.Tells.answers_complete (tells : s.Tells plan records calls) {m : MapPlan}
    (open' : m.place ∉ completed calls) :
    (Call.complete m (s.ledger.markComplete m.place).1).Answers functions plan records calls s := by
  rw [tells.ledger, Ledger.markComplete_after open']
  refine ⟨Ledger.nodup_readied _, fun j => ?_⟩
  rw [Ledger.mem_readied]
  refine exists_congr fun join => and_congr_right fun _ => ?_
  rw [Bool.eq_false_iff, ne_eq, isResolvable_iff, isResolvable_iff]
  simp only [List.mem_append, List.mem_singleton]
  constructor
  · rintro ⟨⟨parent, child⟩, before⟩
    refine ⟨?_, parent.symm, child.symm⟩
    rcases parent with parentDone | here
    · rcases child with childDone | here
      · exact (before ⟨parentDone, childDone⟩).elim
      · exact .inr here.symm
    · exact .inl here.symm
  · rintro ⟨here, parent, child⟩
    refine ⟨⟨parent.symm, child.symm⟩, fun ⟨parentDone, childDone⟩ => open' ?_⟩
    rcases here with here | here
    · exact here ▸ parentDone
    · exact here ▸ childDone

theorem Session.Tells.answers_resolve (realized : plan.Realizes g functions settings)
    (tells : s.Tells plan records calls) {m : MapPlan} {j : Nat} {ready : List Nat}
    (member : m ∈ plan.maps) (resolving : s.progress m.place = .resolving ready)
    (handed : j ∈ ready) :
    (Call.resolve m j (s.ledger.resolve j).1).Answers functions plan records calls s := by
  obtain ⟨join, found, both, -, -, ran⟩ := tells.resolve realized member resolving handed
  obtain ⟨store, stored, holds⟩ :=
    tells.store_holds realized found (isResolvable_iff.mp both).1
  exact ⟨⟨_, by rw [ran]⟩, join, store, found, stored, holds⟩

theorem Session.Tells.answers (realized : plan.Realizes g functions settings)
    (tells : s.Tells plan records calls) (step : Step plan s call t) :
    call.Answers functions plan records calls s := by
  cases step with
  | process member reading =>
    exact tells.answers_process realized member (tells.of_reading member reading).1 _
  | complete member reading =>
    exact tells.answers_complete (tells.of_reading member reading).1
  | resolve member resolving handed => exact tells.answers_resolve realized member resolving handed

theorem Session.Tells.completed_of_finished (tells : s.Tells plan records calls)
    (finished : s.Finished plan) {m : MapPlan} (member : m ∈ plan.maps) :
    m.place ∈ completed calls := (tells.of_resolving member (finished m member)).1

/-- When every triples map has finished, each join was handed out and resolved. -/
theorem Session.Tells.resolved_of_finished (realized : plan.Realizes g functions settings)
    (tells : s.Tells plan records calls) (finished : s.Finished plan) {j : Nat} {join : Join}
    (found : plan.ledger.join? j = some join) :
    isResolvable (completed calls) join ∧ j ∈ handedOut calls ∧ j ∈ resolved calls := by
  obtain ⟨site, -, registers, child, parent, -⟩ := realized.join_cases found
  have both : isResolvable (completed calls) join := isResolvable_iff.mpr
    ⟨parent ▸ tells.completed_of_finished finished registers.parent,
      child ▸ tells.completed_of_finished finished registers.child⟩
  have handed : j ∈ handedOut calls := (tells.mem_handed j).mpr ⟨join, found, both⟩
  refine ⟨both, handed, ?_⟩
  obtain ⟨m, ready, made, mine⟩ := mem_handedOut.mp handed
  have member : m ∈ plan.maps := tells.members _ made
  obtain ⟨-, -, all⟩ := tells.of_resolving member (finished m member)
  have left := List.filter_eq_nil_iff.mp all.symm j
    (List.mem_flatMap.mpr ⟨_, made, by simpa using mine⟩)
  simpa using left

/-- Each join was handed out once, and nothing of it is left. -/
theorem Session.Tells.finished (realized : plan.Realizes g functions settings)
    (tells : s.Tells plan records calls) (finished : s.Finished plan) {j : Nat} {join : Join}
    (found : plan.ledger.join? j = some join) :
    (handedOut calls).count j = 1 ∧
      s.ledger.join? j = some ⟨join.spec, .resolved, [], true⟩ := by
  obtain ⟨both, handed, done⟩ := tells.resolved_of_finished realized finished found
  refine ⟨List.count_eq_one_of_mem tells.handed handed, ?_⟩
  rw [tells.ledger, Ledger.join?_after, found]
  simp [Join.after, done, both]

/--
In every schedule of an accepted plan no call fails on the ledger: records are
mapped as on a ledger that has seen nothing, joins are handed out by the call that
completes the later one of their triples maps, and a join is resolved when its
store holds the subjects of all records of its parent. Joins go from phase to
phase, and in the end each was handed out once and is resolved, with no entries
left.
-/
theorem Schedule.joins_resolve_once {maps : List TriplesMap}
    (compiled : Plan.compile (.ofList maps) functions settings = .ok plan)
    (schedule : Schedule plan records calls s) :
    (∀ call t, Step plan s call t → call.Answers functions plan records calls s ∧
      ∀ j < plan.ledger.size, ∃ p q, s.ledger.phase? j = some p ∧ t.ledger.phase? j = some q ∧
        p.Goes q) ∧
    (∀ j < plan.ledger.size, plan.ledger.phase? j = some .pending) ∧
    (handedOut calls).Nodup ∧
    (s.Finished plan → ∀ j < plan.ledger.size, (handedOut calls).count j = 1 ∧
      ∃ join, s.ledger.join? j = some join ∧ join.phase = .resolved ∧ join.buffered = []) := by
  have realized := Plan.realizes_of_compile compiled
  have tells := schedule.tells realized
  have registered : ∀ j < plan.ledger.size, ∃ join, plan.ledger.join? j = some join :=
    fun j inside => ⟨_, List.getElem?_eq_getElem inside⟩
  refine ⟨fun call t step => ⟨tells.answers realized step, fun j inside => ?_⟩, fun j inside => ?_,
    tells.handed, fun finished j inside => ?_⟩
  · obtain ⟨join, found⟩ := registered j inside
    exact tells.phase_goes (tells.step realized step) found
  · obtain ⟨join, found⟩ := registered j inside
    have fresh := realized.fresh.joins join (List.mem_of_getElem? found)
    rw [Ledger.phase?, found, Option.map_some, fresh]
  · obtain ⟨join, found⟩ := registered j inside
    obtain ⟨once, held⟩ := tells.finished realized finished found
    exact ⟨once, _, held, rfl, rfl⟩

namespace Teams

/-- All records are mapped, and no join is resolved yet. -/
def waiting : List Call × Session := Session.turns Teams.plan Teams.records (order.take 5)

def people : MapPlan := (Teams.plan.maps[1]?).get rfl

theorem people_of_place {m : MapPlan} (member : m ∈ Teams.plan.maps) (place : m.place = 1) :
    m = people := by
  have all : Teams.plan.maps = [(Teams.plan.maps[0]?).get rfl, people] := rfl
  rw [all, List.mem_pair] at member
  rcases member with rfl | same
  · cases place
  · exact same

theorem people_resolve : Teams.waiting.2.progress people.place = .resolving [0, 1] := by
  have left : (match Teams.waiting.2.progress people.place with
      | .resolving ready => ready
      | .reading _ => []) = [0, 1] := by decide +kernel
  split at left
  · rename_i ready resolving
    rw [resolving, left]
  · cases left

theorem people_keys : people.parentKeys = [(["team", "site"], 0)] := by decide +kernel

/-- Each team of Ann with each of her sites. -/
def annKeys : List JoinKey :=
  [["blue", "north"], ["blue", "south"], ["red", "north"], ["red", "south"]]

/-- Bob has no keys, for he is in no team. -/
theorem ann_inserted_iff {key : JoinKey} : (∃ record ∈ Teams.records 1,
    people.Inserts record 0 key (.blankNode "bnode-ann")) ↔ key ∈ annKeys := by
  constructor
  · rintro ⟨record, member, ⟨earlier, _, later, parts, -, keys, found, inside⟩, -⟩
    rw [people_keys] at parts
    cases earlier with
    | nil =>
      cases parts
      rcases List.mem_pair.mp member with rfl | rfl
      · cases found
        exact inside
      · cases found
        exact (List.not_mem_nil inside).elim
    | cons other rest =>
      obtain ⟨-, more⟩ := List.cons.inj parts
      cases (List.append_eq_nil_iff.mp more.symm).2
  · intro listed
    exact ⟨_, List.mem_cons_self, ⟨[], _, [], people_keys, List.forall_mem_nil _, _, rfl, listed⟩,
      _, rfl, _, List.mem_cons_self, rfl⟩

end Teams

theorem teams_resolve_once :
    Plan.compile (.ofList [Teams.team, Teams.person]) .empty {} = .ok Teams.plan ∧
    Schedule Teams.plan Teams.records Teams.waiting.1 Teams.waiting.2 ∧
    Teams.waiting.2.progress Teams.people.place = .resolving [0, 1] ∧
    (∃ store, Teams.waiting.2.ledger.store? 0 = some store ∧ store.isSealed ∧
      ∀ key, .blankNode "bnode-ann" ∈ store.lookup key ↔ key ∈ Teams.annKeys) ∧
    Schedule Teams.plan Teams.records
      (Session.turns Teams.plan Teams.records Teams.order).1
      (Session.turns Teams.plan Teams.records Teams.order).2 ∧
    (Session.turns Teams.plan Teams.records Teams.order).2.Finished Teams.plan ∧
    Teams.plan.ledger.size = 2 ∧
    ∀ j < Teams.plan.ledger.size,
      (handedOut (Session.turns Teams.plan Teams.records Teams.order).1).count j = 1 ∧
      ∃ join, (Session.turns Teams.plan Teams.records Teams.order).2.ledger.join? j = some join ∧
        join.phase = .resolved ∧ join.buffered = [] := by
  have before : Schedule Teams.plan Teams.records Teams.waiting.1 Teams.waiting.2 :=
    Schedule.turns _ fun m taken => Teams.order_subset m (List.mem_of_mem_take taken)
  have schedule : Schedule Teams.plan Teams.records _ _ :=
    Schedule.turns Teams.order Teams.order_subset
  obtain ⟨-, -, -, resolved⟩ := Schedule.joins_resolve_once Teams.compiled schedule
  refine ⟨Teams.compiled, before, Teams.people_resolve, ?_, schedule, Teams.finished, rfl,
    resolved Teams.finished⟩
  obtain ⟨answers, -⟩ := Schedule.joins_resolve_once Teams.compiled before
  obtain ⟨⟨-, join, store, found, stored, isSealed, parent, member, place, holds⟩, -⟩ :=
    answers _ _ (.resolve (List.mem_of_getElem? (i := 1) rfl) Teams.people_resolve
      List.mem_cons_self)
  cases found
  cases Teams.people_of_place member place
  exact ⟨store, stored, isSealed, fun key => (holds key _).trans Teams.ann_inserted_iff⟩

end RdfMapping
