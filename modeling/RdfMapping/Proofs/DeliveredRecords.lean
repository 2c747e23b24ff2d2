import RdfMapping.Proofs.RunSchedules
import RdfMapping.Proofs.SameRecords
import RdfMapping.Proofs.SourceRequests

/-!
# Records are delivered once

A run over documents in memory hands every triples map the records of its source, each once
and in order. What a triples map gives is what it gives for all its records at once, so it
does not depend on the size of the batches, nor on the order in which triples maps take turns.
-/

namespace RdfMapping

/-- What a triples map gives for records, each mapped as the first, up to one that fails. -/
def Plan.mapAll (plan : Plan) (m : MapPlan) : List Record → List Quad × Option Fault
  | [] => ([], none)
  | record :: rest => match (m.process plan.emitClasses record plan.ledger).2 with
    | .ok quads => (quads ++ (plan.mapAll m rest).1, (plan.mapAll m rest).2)
    | .error f => ([], some f)

section

variable {plan : Plan} {m : MapPlan} {xs ys : List Record}

/-- Behind records without faults, the others are mapped as they are alone. -/
theorem Plan.mapAll_append (fine : (plan.mapAll m xs).2 = none) : plan.mapAll m (xs ++ ys) =
    ((plan.mapAll m xs).1 ++ (plan.mapAll m ys).1, (plan.mapAll m ys).2) := by
  induction xs with
  | nil => rfl
  | cons record xs ih =>
    rw [mapAll] at fine
    rw [List.cons_append, mapAll, mapAll]
    generalize (m.process plan.emitClasses record plan.ledger).2 = outcome at fine
    cases outcome with
    | error f => cases fine
    | ok quads =>
      dsimp only at fine ⊢
      rw [ih fine, List.append_assoc]

/-- Nothing behind a fault is mapped. -/
theorem Plan.mapAll_append_of_fault {f : Fault} (failed : (plan.mapAll m xs).2 = some f) :
    plan.mapAll m (xs ++ ys) = plan.mapAll m xs := by
  induction xs with
  | nil => cases failed
  | cons record xs ih =>
    rw [mapAll] at failed
    rw [List.cons_append, mapAll, mapAll]
    generalize (m.process plan.emitClasses record plan.ledger).2 = outcome at failed
    cases outcome with
    | error f => rfl
    | ok quads =>
      dsimp only at failed ⊢
      rw [ih failed]

theorem Plan.mapAll_prefix (plan : Plan) (m : MapPlan) (before : xs <+: ys) :
    (plan.mapAll m xs).1 <+: (plan.mapAll m ys).1 := by
  obtain ⟨rest, rfl⟩ := before
  cases ended : (plan.mapAll m xs).2 with
  | none =>
    rw [Plan.mapAll_append ended]
    exact List.prefix_append _ _
  | some f =>
    have same : plan.mapAll m (xs ++ rest) = plan.mapAll m xs := Plan.mapAll_append_of_fault ended
    exact same ▸ List.prefix_rfl

end

section

variable {g : RuleGraph} {functions : Registry} {config settings : Settings} {plan : Plan}
  {records : Nat → List Record} {calls : List Call} {s : Session} {m : MapPlan}
  {d : MemoryDocuments} {r : Run MemoryFeed}

theorem Plan.Realizes.process_fresh (realized : plan.Realizes g functions config)
    (member : m ∈ plan.maps) (record : Record) :
    (m.process plan.emitClasses record plan.ledger).2 =
      (m.survey plan.emitClasses record).outcome := by
  have start : (Session.start plan fun _ => []).Tells plan _ [] := Session.tells_start realized
  exact congrArg Prod.snd (start.process realized member List.not_mem_nil record)

theorem Plan.Realizes.mapAll_of_ok (realized : plan.Realizes g functions config)
    (member : m ∈ plan.maps) {xs : List Record}
    (fine : ∀ record ∈ xs, ∃ quads, (m.survey plan.emitClasses record).outcome = .ok quads) :
    plan.mapAll m xs = (xs.flatMap fun record =>
      foundIn (m.survey plan.emitClasses record).outcome, none) := by
  induction xs with
  | nil => rfl
  | cons record xs ih =>
    obtain ⟨⟨quads, ran⟩, later⟩ := List.forall_mem_cons.mp fine
    rw [mapAll, realized.process_fresh member, ran, List.flatMap_cons, ran, ih later]
    rfl

/-- Without faults, a triples map gave what the records mapped so far give. -/
theorem Schedule.mapAll_processed (realized : plan.Realizes g functions config)
    (schedule : Schedule plan records calls s) (succeed : ∀ call ∈ calls, call.succeeds)
    (member : m ∈ plan.maps) :
    plan.mapAll m (processed m.place calls) = (quadsOfRecords m.place calls, none) := by
  rw [schedule.quadsOfRecords_eq_processed realized member]
  refine realized.mapAll_of_ok member fun record mapped => ?_
  obtain ⟨n, outcome, made, here⟩ := mem_processed.mp mapped
  have same : n = m :=
    realized.place_inj ((schedule.tells realized).members _ made) member here
  exact same ▸ schedule.survey_ok realized succeed made

theorem Schedule.exists_before {call : Call}
    (schedule : Schedule plan records (calls ++ [call]) s) :
    ∃ earlier, Schedule plan records calls earlier ∧ Step plan earlier call s := by
  generalize whole : calls ++ [call] = all at schedule
  cases schedule with
  | start => simp at whole
  | step before last =>
    obtain ⟨rfl, same⟩ := List.append_inj' whole rfl
    cases same
    exact ⟨_, before, last⟩

theorem quadsOfRecords_concat (place : Nat) (calls : List Call) (call : Call) :
    quadsOfRecords place (calls ++ [call]) = quadsOfRecords place calls ++ call.given place := by
  rw [quadsOfRecords, List.flatMap_append, List.flatMap_singleton]
  rfl

/-- A triples map gave what the records mapped so far give, the fault included. -/
theorem Schedule.mapAll_of_end (realized : plan.Realizes g functions config)
    (schedule : Schedule plan records calls s) {failed : Option Fault}
    (ends : Call.End calls failed) :
    (∀ m ∈ plan.maps, ∃ own, plan.mapAll m (processed m.place calls) =
      (quadsOfRecords m.place calls, own)) ∧
    ∀ f, failed = some f → ∃ m ∈ plan.maps,
      plan.mapAll m (processed m.place calls) = (quadsOfRecords m.place calls, some f) := by
  cases ends with
  | fine succeed =>
    exact ⟨fun m member => ⟨_, schedule.mapAll_processed realized succeed member⟩, nofun⟩
  | @fault before succeed n record f =>
    have last : .process n record (.error f) ∈ before ++ [.process n record (.error f)] :=
      List.mem_append_right _ (List.mem_singleton_self _)
    have owner : n ∈ plan.maps := (schedule.tells realized).members _ last
    have alone : plan.mapAll n [record] = ([], some f) := by
      rw [Plan.mapAll, realized.process_fresh owner, ← schedule.outcome_eq realized last]
    obtain ⟨earlier, first, -⟩ := schedule.exists_before
    have own : plan.mapAll n (processed n.place (before ++ [.process n record (.error f)])) =
        (quadsOfRecords n.place (before ++ [.process n record (.error f)]), some f) := by
      have told := first.mapAll_processed realized succeed owner
      rw [processed_concat, quadsOfRecords_concat, Call.record?, Call.given, if_pos rfl,
        if_pos rfl, Option.toList_some, Plan.mapAll_append (congrArg Prod.snd told), told, alone]
      rfl
    constructor
    · intro m member
      by_cases same : n = m
      · exact ⟨some f, same ▸ own⟩
      · have other : ¬ n.place = m.place := fun here => same (realized.place_inj owner member here)
        refine ⟨none, ?_⟩
        rw [processed_concat, quadsOfRecords_concat, Call.record?, Call.given, if_neg other,
          if_neg other, Option.toList_none, List.append_nil, List.append_nil]
        exact first.mapAll_processed realized succeed member
    · rintro _ ⟨⟩
      exact ⟨n, owner, own⟩

/-- In a plan for a rule graph, each triples map has the records of its logical source. -/
theorem Plan.Realizes.recordsFrom (realized : plan.Realizes g functions config)
    (member : m ∈ plan.maps) (deliver : LogicalSource → List Record) :
    g.recordsFrom deliver m.place = deliver m.logicalSource := by
  obtain ⟨driven, listed, whole⟩ := realized.exists_driven member
  rw [whole.place, whole.logicalSource]
  exact RuleGraph.recordsFrom_of_get? (RuleGraph.mem_driven.mp listed).1 deliver

theorem Session.Tells.processed_prefix (tells : s.Tells plan records calls)
    (member : m ∈ plan.maps) : processed m.place calls <+: records m.place := by
  cases progress : s.progress m.place with
  | reading rest => exact ⟨rest, (tells.of_reading member progress).2⟩
  | resolving ready => exact (tells.of_resolving member progress).2.1 ▸ List.prefix_rfl

/-- With these calls a run handed out records and gave quads for them. What each triples map has
to give, its records mapped one after the other, knows nothing of batches and turns. -/
structure Run.HandsOut (d : MemoryDocuments) (plan : Plan) (r : Run MemoryFeed)
    (calls : List Call) : Prop where
  quads : r.quads = calls.flatMap Call.quads
  handed : ∀ m ∈ plan.maps, processed m.place calls <+: d.deliver m.logicalSource
  given : ∀ m ∈ plan.maps,
    quadsOfRecords m.place calls <+: (plan.mapAll m (d.deliver m.logicalSource)).1
  /-- Without a fault every record is handed out, once and in order. -/
  whole : r.failure = none → ∀ m ∈ plan.maps,
    processed m.place calls = d.deliver m.logicalSource ∧
    plan.mapAll m (d.deliver m.logicalSource) = (quadsOfRecords m.place calls, none)
  /-- A fault is one that a triples map has on all its records, and nothing before it is lost. -/
  failed : ∀ f, r.failure = some f → ∃ m ∈ plan.maps,
    plan.mapAll m (d.deliver m.logicalSource) = (quadsOfRecords m.place calls, some f)

theorem Run.Tracks.handsOut (realized : plan.Realizes g functions config)
    (reads : Run.Reads d plan records) (tracks : r.Tracks d settings plan records calls s)
    (isOver : r.isOver) : r.HandsOut d plan calls := by
  have tells := tracks.schedule.tells realized
  obtain ⟨each, faulty⟩ := tracks.schedule.mapAll_of_end realized tracks.ends
  have handed (m : MapPlan) (member : m ∈ plan.maps) :
      processed m.place calls <+: d.deliver m.logicalSource :=
    reads.delivers m member ▸ tells.processed_prefix member
  constructor
  · exact tracks.quads
  · exact handed
  · intro m member
    obtain ⟨own, told⟩ := each m member
    have before := plan.mapAll_prefix m (handed m member)
    rwa [told] at before
  · intro unfailed m member
    have finished : s.Finished plan := by
      have none : r.drivers = [] := by simpa [Run.isOver, unfailed] using isOver
      intro n listed
      refine (tracks.others unfailed n listed).resolve_left ?_
      rw [none]
      simp
    have all : processed m.place calls = d.deliver m.logicalSource :=
      (tells.processed_of_completed member (tells.completed_of_finished finished member)).trans
        (reads.delivers m member)
    have ends := tracks.ends
    rw [unfailed] at ends
    exact ⟨all, all ▸ tracks.schedule.mapAll_processed realized ends.succeed member⟩
  · intro f failure
    obtain ⟨m, member, told⟩ := faulty f failure
    obtain ⟨rest, whole⟩ := handed m member
    refine ⟨m, member, ?_⟩
    rw [← whole, Plan.mapAll_append_of_fault (congrArg Prod.snd told), told]

end

theorem Settings.maxSources_pos_of_check {settings : Settings} (passes : settings.check = .ok ()) :
    1 ≤ settings.maxSources := by
  by_contra closed
  have full : settings.maxSources = 0 := by omega
  rw [check, full] at passes
  by_cases batches : settings.batchSize = 0
  · rw [if_pos batches] at passes
    cases passes
  by_cases channels : settings.channelCapacity = 0
  · rw [if_neg batches, if_pos channels] at passes
    cases passes
  rw [if_neg batches, if_neg channels] at passes
  cases passes

/-- A plan is made under settings that let sources be open. -/
theorem Plan.maxSources_pos_of_compile {maps : List TriplesMap} {functions : Registry}
    {settings : Settings} {plan : Plan}
    (compiled : Plan.compile (.ofList maps) functions settings = .ok plan) :
    1 ≤ settings.maxSources := by
  rcases compile_cases (RuleGraph.ofList_placed maps) functions settings with
    ⟨-, failed⟩ | ⟨none, -⟩
  · rw [failed] at compiled
    cases compiled
  · have checked := (List.append_eq_nil_iff.mp (List.append_eq_nil_iff.mp none).1).1
    cases passes : settings.check with
    | ok _ => exact Settings.maxSources_pos_of_check passes
    | error f =>
      rw [passes] at checked
      cases checked

namespace League

def person (id : String) (teams : List String) : Json :=
  .object [("id", .text id), ("team", .array (teams.map .text)), ("site", .text "south")]

def documents : MemoryDocuments :=
  (MemoryDocuments.empty.add "teams" [.object [("id", .text "red"), ("site", .text "south")]]).add
    "people" [person "ann" ["blue", "red"], person "bob" [], person "cy" ["red"]]

/-- The teams of each person are records. -/
def memberships : LogicalSource := { source := "people", iterator := some "team" }

/-- Two records at a time, and seven turns. -/
def run : Run MemoryFeed :=
  Run.step^[7] (.start documents.resolver { batchSize := 2 } Teams.plan)

end League

end RdfMapping
