import Mathlib.Algebra.GroupWithZero.Nat
import Mathlib.Logic.Function.Iterate
import Mathlib.Order.RelClasses
import RdfMapping.Proofs.FinishedRuns
import RdfMapping.Proofs.SourceRequests
import RdfMapping.Run

/-!
# Runs are schedules

A run over documents in memory reads its sources batch by batch, with the turns of the triples
maps in any order. What it emits, and what it leaves in the ledger, are those of a schedule of
whole calls, in which every triples map has just the records of its source. Nothing else than
a record that cannot be mapped makes such a run fail.
-/

namespace RdfMapping

/-- The quads that a call gave. -/
def Call.quads : Call → List Quad
  | .process _ _ outcome | .resolve _ _ outcome => foundIn outcome
  | .complete .. => []

/-- Calls that all succeed, or up to a record that could not be mapped. -/
inductive Call.End : List Call → Option Fault → Prop where
  | fine {calls : List Call} (succeed : ∀ call ∈ calls, call.succeeds) : End calls none
  | fault {calls : List Call} (succeed : ∀ call ∈ calls, call.succeeds) (m : MapPlan)
      (record : Record) (f : Fault) : End (calls ++ [.process m record (.error f)]) (some f)

theorem Call.End.append {earlier made : List Call} {failed : Option Fault}
    (ends : Call.End made failed) (succeed : ∀ call ∈ earlier, call.succeeds) :
    Call.End (earlier ++ made) failed := by
  cases ends with
  | fine later => exact .fine (List.forall_mem_append.mpr ⟨succeed, later⟩)
  | fault later m record f =>
    rw [← List.append_assoc]
    exact .fault (List.forall_mem_append.mpr ⟨succeed, later⟩) m record f

theorem Call.End.succeed {calls : List Call} (ends : Call.End calls none) :
    ∀ call ∈ calls, call.succeeds := by
  cases ends with
  | fine succeed => exact succeed

namespace Run

variable {σ : Type}

/-- Turns are taken one after the other, each by whoever comes to the front. -/
inductive Reaches (start : Run σ) : Run σ → Prop where
  | start : Reaches start start
  | turn {r : Run σ} {order : List (Driver σ)} (earlier : Reaches start r)
      (same : order.Perm r.drivers) : Reaches start { r with drivers := order }.step

theorem reaches_iterate (start : Run σ) (n : Nat) : Reaches start (step^[n] start) := by
  induction n with
  | zero => exact .start
  | succ n ih =>
    rw [Function.iterate_succ_apply']
    exact .turn ih (.refl _)

/-- The run with what calls gave and with the ledger that they left. -/
def after (r : Run σ) (made : List Call) (s : Session) : Run σ :=
  { r with ledger := s.ledger, emitted := (made.flatMap Call.quads).reverse ++ r.emitted }

theorem after_nil {r : Run σ} {s : Session} (same : r.ledger = s.ledger) : r.after [] s = r := by
  rw [after, ← same]
  rfl

theorem after_cons (r : Run σ) (call : Call) (made : List Call) (s : Session) (ledger : Ledger) :
    ({ r with ledger }.emit call.quads).after made s = r.after (call :: made) s := by
  simp [after, emit]

section

variable {g : RuleGraph} {functions : Registry} {settings : Settings} {plan : Plan}
  {records : Nat → List Record} {calls : List Call} {s : Session} {m : MapPlan}

/-- Mapping a batch makes one call for each record, up to the first that fails. -/
theorem processBatch_schedule (member : m ∈ plan.maps) {r : Run σ} {batch rest : List Record}
    (schedule : Schedule plan records calls s) (ledger : r.ledger = s.ledger)
    (classes : r.settings.emitClasses = plan.emitClasses)
    (reading : s.progress m.place = .reading (batch ++ rest)) :
    ∃ made t failed, Schedule plan records (calls ++ made) t ∧
      r.processBatch m batch = (r.after made t, failed) ∧ Call.End made failed ∧
      (∀ p, p ≠ m.place → t.progress p = s.progress p) ∧
      (failed = none → t.progress m.place = .reading rest) := by
  induction batch generalizing r calls s with
  | nil =>
    refine ⟨[], s, none, ?_, ?_, .fine fun call made => ?_, fun _ _ => rfl, fun _ => reading⟩
    · rwa [List.append_nil]
    · rw [processBatch, after_nil ledger]
    · exact (List.not_mem_nil made).elim
  | cons record batch ih =>
    have step := schedule.step (Step.process member reading)
    rw [← ledger, ← classes] at step
    rw [processBatch]
    generalize m.process r.settings.emitClasses record r.ledger = answer at step
    obtain ⟨next, outcome⟩ := answer
    cases outcome with
    | error f =>
      refine ⟨_, _, some f, step, ?_, ?_, fun p other => Function.update_of_ne other _ _, nofun⟩
      · exact congrArg (·, some f) (after_cons r (.process m record (.error f)) []
          ⟨next, s.progress⟩ next)
      · exact .fault (fun call made => (List.not_mem_nil made).elim) m record f
    | ok quads =>
      obtain ⟨made, t, failed, onward, same, ends, others, left⟩ := ih
        (r := { r with ledger := next }.emit quads) step rfl classes (Function.update_self ..)
      refine ⟨.process m record (.ok quads) :: made, t, failed, ?_, ?_, ?_, ?_, left⟩
      · rwa [List.append_assoc] at onward
      · dsimp only
        rw [same]
        exact congrArg (·, failed) (after_cons r (.process m record (.ok quads)) made t next)
      · exact ends.append (List.forall_mem_singleton.mpr rfl)
      · exact fun p other => (others p other).trans (Function.update_of_ne other _ _)

/-- A triples map that is complete resolves all the joins handed to it. -/
theorem resolveAll_schedule (realized : plan.Realizes g functions settings)
    (member : m ∈ plan.maps) {r : Run σ} {ready : List Nat}
    (schedule : Schedule plan records calls s) (ledger : r.ledger = s.ledger)
    (resolving : s.progress m.place = .resolving ready) :
    ∃ made t, Schedule plan records (calls ++ made) t ∧
      r.resolveAll ready = (r.after made t, none) ∧
      (∀ p, p ≠ m.place → t.progress p = s.progress p) ∧
      t.progress m.place = .resolving [] ∧ ∀ call ∈ made, call.succeeds := by
  induction ready generalizing r calls s with
  | nil =>
    refine ⟨[], s, ?_, ?_, fun _ _ => rfl, resolving, fun call made => ?_⟩
    · rwa [List.append_nil]
    · rw [resolveAll, after_nil ledger]
    · exact (List.not_mem_nil made).elim
  | cons join ready ih =>
    obtain ⟨quads, next, ran⟩ : ∃ quads next, s.ledger.resolve join = (.ok quads, next) := by
      obtain ⟨_, -, -, -, -, ran⟩ :=
        (schedule.tells realized).resolve realized member resolving List.mem_cons_self
      exact ⟨_, _, ran⟩
    have step := schedule.step (Step.resolve member resolving List.mem_cons_self)
    rw [ran, List.erase_cons_head] at step
    rw [resolveAll, ledger, ran]
    obtain ⟨made, t, onward, same, others, ends, succeed⟩ := ih
      (r := { r with ledger := next }.emit quads) step rfl (Function.update_self ..)
    refine ⟨.resolve m join (.ok quads) :: made, t, ?_, ?_, ?_, ends, ?_⟩
    · rwa [List.append_assoc] at onward
    · dsimp only
      rw [same]
      exact congrArg (·, none) (after_cons r (.resolve m join (.ok quads)) made t next)
    · exact fun p other => (others p other).trans (Function.update_of_ne other _ _)
    · exact List.forall_mem_cons.mpr ⟨rfl, succeed⟩

end

end Run

namespace Driver

/-- The records that were not handed out yet. -/
def left (records : Nat → List Record) : Driver MemoryFeed → List Record
  | ⟨m, none⟩ => records m.place
  | ⟨_, some feed⟩ => feed.records

/-- A source is opened, read record by record, and found to be at its end. -/
def work (records : Nat → List Record) (v : Driver MemoryFeed) : Nat :=
  (v.left records).length + if v.source.isSome then 1 else 2

/-- A driver stands where its triples map stands in a session. -/
structure Follows (plan : Plan) (records : Nat → List Record) (s : Session)
    (v : Driver MemoryFeed) : Prop where
  member : v.plan ∈ plan.maps
  reading : s.progress v.plan.place = .reading (v.left records)
  isOpen : ∀ feed ∈ v.source, feed.isOpen

end Driver

namespace Run

/-- The run is the one that made these calls, and led to this session. -/
structure Tracks (d : MemoryDocuments) (settings : Settings) (plan : Plan)
    (records : Nat → List Record) (r : Run MemoryFeed) (calls : List Call) (s : Session) :
    Prop where
  schedule : Schedule plan records calls s
  ledger : r.ledger = s.ledger
  quads : r.quads = calls.flatMap Call.quads
  resolver : r.resolver = d.resolver
  settings : r.settings = { settings with emitClasses := plan.emitClasses }
  ends : Call.End calls r.failure
  stopped : ∀ f, r.failure = some f → r.drivers = []
  follows : ∀ v ∈ r.drivers, v.Follows plan records s
  apart : (r.drivers.map (·.plan.place)).Nodup
  others : r.failure = none → ∀ m ∈ plan.maps,
    (∃ v ∈ r.drivers, v.plan = m) ∨ s.progress m.place = .resolving []

/-- What comes of a run while the driver in front takes its turn. -/
inductive Turn (plan : Plan) (records : Nat → List Record) (r : Run MemoryFeed) (s : Session)
    (v : Driver MemoryFeed) (rest : List (Driver MemoryFeed)) :
    List Call → Session → Run MemoryFeed → Prop where
  | waits (closed : v.source = none) (full : r.settings.maxSources ≤ r.openCount) :
      Turn plan records r s v rest [] s { r with drivers := rest ++ [v] }
  /-- There is less to do, or nothing. -/
  | goes {made : List Call} {t : Session} (more : Option (Driver MemoryFeed)) (opened closed : Nat)
      (succeed : ∀ call ∈ made, call.succeeds)
      (kept : ∀ p, p ≠ v.plan.place → t.progress p = s.progress p)
      (same : ∀ w ∈ more, w.plan = v.plan ∧ w.Follows plan records t)
      (less : ∀ w ∈ more, w.work records < v.work records)
      (done : more = none → t.progress v.plan.place = .resolving []) :
      Turn plan records r s v rest made t
        { r.after made t with drivers := rest ++ more.toList, opened := opened, closed := closed }
  | fails {made : List Call} {t : Session} {f : Fault} (ends : Call.End made (some f))
      (closed : Nat) :
      Turn plan records r s v rest made t
        { r.after made t with drivers := [], closed := closed, failure := some f }

section

variable {d : MemoryDocuments} {settings : Settings} {plan : Plan} {records : Nat → List Record}
  {r next : Run MemoryFeed} {calls made : List Call} {s t : Session} {v : Driver MemoryFeed}
  {rest : List (Driver MemoryFeed)} {g : RuleGraph} {functions : Registry} {config : Settings}

theorem tracks_start (realized : plan.Realizes g functions config) :
    (Run.start d.resolver settings plan).Tracks d settings plan records []
      (.start plan records) where
  schedule := .start
  ledger := rfl
  quads := rfl
  resolver := rfl
  settings := rfl
  ends := .fine fun _ member => (List.not_mem_nil member).elim
  stopped := nofun
  follows v member := by
    obtain ⟨m, listed, rfl⟩ := List.mem_map.mp member
    exact ⟨listed, rfl, nofun⟩
  apart := by
    rw [Run.start, List.map_map]
    exact realized.places ▸ g.nodup_driven_places
  others _ m member := .inl ⟨_, List.mem_map_of_mem member, rfl⟩

theorem Tracks.perm (tracks : r.Tracks d settings plan records calls s)
    {order : List (Driver MemoryFeed)} (same : order.Perm r.drivers) :
    { r with drivers := order }.Tracks d settings plan records calls s where
  schedule := tracks.schedule
  ledger := tracks.ledger
  quads := tracks.quads
  resolver := tracks.resolver
  settings := tracks.settings
  ends := tracks.ends
  stopped f failed := List.perm_nil.mp (tracks.stopped f failed ▸ same)
  follows v member := tracks.follows v (same.mem_iff.mp member)
  apart := (same.map _).nodup_iff.mpr tracks.apart
  others unfailed m member := (tracks.others unfailed m member).imp_left
    fun ⟨v, listed, here⟩ => ⟨v, same.mem_iff.mpr listed, here⟩

theorem Tracks.unfailed (tracks : r.Tracks d settings plan records calls s)
    (front : r.drivers = v :: rest) : r.failure = none := by
  cases failed : r.failure with
  | none => rfl
  | some f =>
    have none := tracks.stopped f failed
    rw [front] at none
    cases none

theorem Tracks.quads_after (tracks : r.Tracks d settings plan records calls s) (t : Session) :
    (r.after made t).quads = (calls ++ made).flatMap Call.quads := by
  rw [List.flatMap_append, ← tracks.quads]
  exact List.reverse_append.trans (by rw [List.reverse_reverse]; rfl)

/-- The drivers behind the first one stand where they stood. -/
theorem Tracks.follows_rest (tracks : r.Tracks d settings plan records calls s)
    (front : r.drivers = v :: rest)
    (kept : ∀ p, p ≠ v.plan.place → t.progress p = s.progress p) {w : Driver MemoryFeed}
    (member : w ∈ rest) : w.plan.place ≠ v.plan.place ∧ w.Follows plan records t := by
  have apart := tracks.apart
  rw [front] at apart
  have other : w.plan.place ≠ v.plan.place := fun same =>
    (List.nodup_cons.mp apart).1 (List.mem_map.mpr ⟨w, member, same⟩)
  have follows := tracks.follows w (front ▸ List.mem_cons_of_mem _ member)
  exact ⟨other, follows.member, (kept _ other).trans follows.reading, follows.isOpen⟩

theorem Tracks.others_rest (tracks : r.Tracks d settings plan records calls s)
    (front : r.drivers = v :: rest)
    (kept : ∀ p, p ≠ v.plan.place → t.progress p = s.progress p) {m : MapPlan}
    (member : m ∈ plan.maps) :
    m = v.plan ∨ (∃ w ∈ rest, w.plan = m) ∨ t.progress m.place = .resolving [] := by
  rcases tracks.others (tracks.unfailed front) m member with ⟨w, listed, rfl⟩ | finished
  · rcases List.mem_cons.mp (front ▸ listed) with rfl | listed
    · exact .inl rfl
    · exact .inr (.inl ⟨w, listed, rfl⟩)
  · have other : m.place ≠ v.plan.place := by
      intro own
      have reading := (tracks.follows v (front ▸ List.mem_cons_self)).reading
      rw [← own, finished] at reading
      cases reading
    exact .inr (.inr ((kept _ other).trans finished))

/-- A turn keeps a run on its schedule. -/
theorem Turn.tracks (turn : Turn plan records r s v rest made t next)
    (tracks : r.Tracks d settings plan records calls s) (front : r.drivers = v :: rest)
    (schedule : Schedule plan records (calls ++ made) t) :
    next.Tracks d settings plan records (calls ++ made) t := by
  have unfailed := tracks.unfailed front
  have earlier := tracks.ends
  rw [unfailed] at earlier
  cases turn with
  | waits closed full =>
    rw [List.append_nil]
    refine tracks.perm ?_
    rw [front]
    exact List.perm_append_singleton v rest
  | fails ends closed =>
    exact {
      schedule := schedule
      ledger := rfl
      quads := tracks.quads_after t
      resolver := tracks.resolver
      settings := tracks.settings
      ends := ends.append earlier.succeed
      stopped := fun _ _ => rfl
      follows := fun _ member => (List.not_mem_nil member).elim
      apart := List.nodup_nil
      others := nofun }
  | goes more opened closed succeed kept same less done =>
    have here (w : Driver MemoryFeed) (member : w ∈ more.toList) :
        w.plan = v.plan ∧ w.Follows plan records t := same w (Option.mem_toList.mp member)
    refine {
      schedule := schedule
      ledger := rfl
      quads := tracks.quads_after t
      resolver := tracks.resolver
      settings := tracks.settings
      ends := by
        rw [after, unfailed]
        exact .fine (List.forall_mem_append.mpr ⟨earlier.succeed, succeed⟩)
      stopped := fun f failed => nomatch unfailed.symm.trans failed
      follows := ?_
      apart := ?_
      others := ?_ }
    · exact List.forall_mem_append.mpr ⟨fun w member => (tracks.follows_rest front kept member).2,
        fun w member => (here w member).2⟩
    · have apart := tracks.apart
      rw [front] at apart
      rw [List.map_append]
      refine (List.nodup_cons.mp apart).2.append ?_ ?_
      · cases more <;> simp
      · intro p member again
        obtain ⟨x, behind, rfl⟩ := List.mem_map.mp member
        obtain ⟨w, listed, place⟩ := List.mem_map.mp again
        rw [(here w listed).1] at place
        exact (tracks.follows_rest front kept behind).1 place.symm
    · intro _ m member
      rcases tracks.others_rest front kept member with rfl | ⟨w, behind, rfl⟩ | finished
      · cases more with
        | none => exact .inr (done rfl)
        | some w =>
          have last : w ∈ rest ++ [w] := List.mem_append_right _ (List.mem_singleton_self w)
          exact .inl ⟨w, last, (here w (List.mem_singleton_self w)).1⟩
      · exact .inl ⟨w, List.mem_append_left _ behind, rfl⟩
      · exact .inr finished

/-- A feed hands out its next records, or it is at its end. -/
theorem Tracks.request_eq (tracks : r.Tracks d settings plan records calls s) {feed : MemoryFeed}
    (isOpen : feed.isOpen) : r.resolver.request feed r.settings.batchSize =
      .ok (feed.records.take settings.batchSize,
        { feed with remaining := feed.remaining.drop settings.batchSize }) := by
  rw [tracks.resolver, tracks.settings]
  exact feed.request_of_isOpen isOpen _

/-- A source that is at its end is closed, and then no joins are left to its triples map. -/
theorem Tracks.finish (realized : plan.Realizes g functions config)
    (tracks : r.Tracks d settings plan records calls s) {m : MapPlan} {feed : MemoryFeed}
    (front : r.drivers = ⟨m, some feed⟩ :: rest) (ending : feed.records = [])
    (source : MemoryFeed) : ∃ made t, Schedule plan records (calls ++ made) t ∧
      Turn plan records r s ⟨m, some feed⟩ rest made t
        ({ r with drivers := rest }.finish m source) := by
  have follows := tracks.follows _ (front ▸ List.mem_cons_self)
  have member : m ∈ plan.maps := follows.member
  have reading : s.progress m.place = .reading [] := follows.reading.trans (congrArg _ ending)
  have closes : r.resolver.close source = .ok () := by
    rw [tracks.resolver]
    rfl
  have step := tracks.schedule.step (Step.complete member reading)
  rw [Run.finish]
  dsimp only
  rw [closes, tracks.ledger]
  generalize s.ledger.markComplete m.place = answer at step
  obtain ⟨ready, ledger⟩ := answer
  -- the joins are resolved on the ledger on which the triples map is complete
  have step : Schedule plan records (calls ++ [.complete m ready])
      (s.advance m.place (.resolving ready) ledger) := step
  obtain ⟨made, t, onward, same, others, done, succeed⟩ := resolveAll_schedule realized member
    (r := { r with drivers := rest, closed := r.closed + 1, ledger }) step rfl
    (Function.update_self ..)
  rw [List.append_assoc, List.singleton_append] at onward
  refine ⟨.complete m ready :: made, t, onward, ?_⟩
  dsimp only
  rw [same]
  have kept (p : Nat) (other : p ≠ m.place) : t.progress p = s.progress p :=
    (others p other).trans (Function.update_of_ne other _ _)
  have all : ∀ call ∈ Call.complete m ready :: made, call.succeeds :=
    List.forall_mem_cons.mpr ⟨rfl, succeed⟩
  have turn : Turn plan records r s ⟨m, some feed⟩ rest _ t _ :=
    .goes none r.opened (r.closed + 1) all kept (fun w more => (Option.not_mem_none w more).elim)
      (fun w more => (Option.not_mem_none w more).elim) fun _ => done
  rw [Option.toList_none, List.append_nil] at turn
  exact turn

/-- A batch is mapped, up to a record that cannot be mapped. -/
theorem Tracks.readBatch (realized : plan.Realizes g functions config)
    (tracks : r.Tracks d settings plan records calls s) (positive : 1 ≤ settings.batchSize)
    {m : MapPlan} {feed : MemoryFeed} (front : r.drivers = ⟨m, some feed⟩ :: rest) :
    ∃ made t, Schedule plan records (calls ++ made) t ∧
      Turn plan records r s ⟨m, some feed⟩ rest made t
        ({ r with drivers := rest }.readBatch m feed) := by
  have follows := tracks.follows _ (front ▸ List.mem_cons_self)
  have member : m ∈ plan.maps := follows.member
  have reading : s.progress m.place = .reading feed.records := follows.reading
  have isOpen : feed.isOpen := follows.isOpen feed rfl
  rw [Run.readBatch]
  dsimp only
  rw [tracks.request_eq isOpen]
  rw [← List.take_append_drop settings.batchSize feed.records] at reading
  cases batch : feed.records.take settings.batchSize with
  | nil =>
    -- a batch without records ends a source only because records were asked for
    have ending : feed.records = [] := by
      rcases List.take_eq_nil_iff.mp batch with none | ending
      · omega
      · exact ending
    exact tracks.finish realized front ending _
  | cons record more =>
    rw [batch] at reading
    obtain ⟨made, t, failed, schedule, same, ends, kept, left⟩ := processBatch_schedule member
      (r := { r with drivers := rest }) tracks.schedule tracks.ledger
      (congrArg Settings.emitClasses tracks.settings) reading
    refine ⟨made, t, schedule, ?_⟩
    dsimp only
    rw [same]
    cases failed with
    | some f => exact .fails ends (r.closed + 1 + openCount { r with drivers := rest })
    | none =>
      have after : MemoryFeed.records
          { feed with remaining := feed.remaining.drop settings.batchSize } =
            feed.records.drop settings.batchSize := List.map_drop
      refine .goes (some ⟨m, some _⟩) r.opened r.closed ends.succeed kept ?_ ?_ nofun
      · rintro w ⟨⟩
        refine ⟨rfl, member, ?_, ?_⟩
        · exact (left rfl).trans (congrArg _ after.symm)
        · rintro feed ⟨⟩
          exact isOpen
      · rintro w ⟨⟩
        have nonempty : 0 < feed.records.length := by
          rw [← List.take_append_drop settings.batchSize feed.records, batch]
          simp
        simp [Driver.work, Driver.left, after]
        omega

/-- The triples maps of the plan read documents, and `records` has those of each place. -/
structure Reads (d : MemoryDocuments) (plan : Plan) (records : Nat → List Record) : Prop where
  known : ∀ m ∈ plan.maps, (d.sources.lookup m.logicalSource.source).isSome
  delivers : ∀ m ∈ plan.maps, records m.place = d.deliver m.logicalSource

/-- Every turn is one of those that keep a run on its schedule. -/
theorem Tracks.turn (realized : plan.Realizes g functions config) (reads : Reads d plan records)
    (positive : 1 ≤ settings.batchSize) (tracks : r.Tracks d settings plan records calls s)
    (front : r.drivers = v :: rest) : ∃ made t, Schedule plan records (calls ++ made) t ∧
      Turn plan records r s v rest made t r.step := by
  obtain ⟨m, source⟩ := v
  rw [step, front]
  cases source with
  | some feed => exact tracks.readBatch realized positive front
  | none =>
    have still : Schedule plan records (calls ++ []) s := by
      rw [List.append_nil]
      exact tracks.schedule
    refine ⟨[], s, still, ?_⟩
    have follows := tracks.follows _ (front ▸ List.mem_cons_self)
    have member : m ∈ plan.maps := follows.member
    dsimp only
    by_cases room : r.openCount < r.settings.maxSources
    · obtain ⟨feed, opens, isOpen, -, delivered⟩ :=
        MemoryDocuments.openFeed_of_known (reads.known m member)
      have same : feed.records = records m.place := delivered.trans (reads.delivers m member).symm
      have answer : r.resolver.openSource m.logicalSource = .ok feed := by
        rw [tracks.resolver]
        exact opens
      rw [if_pos room, answer]
      have turn : Turn plan records r s ⟨m, none⟩ rest [] s _ :=
        .goes (some ⟨m, some feed⟩) (r.opened + 1) r.closed
          (fun _ none => (List.not_mem_nil none).elim) (fun _ _ => rfl) ?_ ?_ nofun
      · rwa [after_nil tracks.ledger] at turn
      · rintro w ⟨⟩
        refine ⟨rfl, member, ?_, ?_⟩
        · exact follows.reading.trans (congrArg _ same.symm)
        · rintro other ⟨⟩
          exact isOpen
      · rintro w ⟨⟩
        simp [Driver.work, Driver.left, same]
    · rw [if_neg room]
      exact .waits rfl (Nat.not_lt.mp room)

theorem Reaches.tracks (realized : plan.Realizes g functions config) (reads : Reads d plan records)
    (positive : 1 ≤ settings.batchSize)
    (reaches : (Run.start d.resolver settings plan).Reaches r) :
    ∃ calls s, r.Tracks d settings plan records calls s := by
  induction reaches with
  | start => exact ⟨[], _, tracks_start realized⟩
  | @turn r order earlier same ih =>
    obtain ⟨calls, s, tracks⟩ := ih
    have tracks := tracks.perm same
    cases front : order with
    | nil =>
      subst front
      exact ⟨calls, s, tracks⟩
    | cons v rest =>
      subst front
      obtain ⟨made, t, schedule, turn⟩ := tracks.turn realized reads positive rfl
      exact ⟨_, t, turn.tracks tracks rfl schedule⟩

def work (records : Nat → List Record) (r : Run MemoryFeed) : Nat :=
  (r.drivers.map (Driver.work records)).sum

/-- The drivers in front of the first that is open. -/
def waiting (r : Run MemoryFeed) : Nat := r.drivers.findIdx (·.source.isSome)

/-- With each turn there is less work, or fewer drivers wait in front of one that is open. -/
theorem Turn.lt (turn : Turn plan records r s v rest made t next) (front : r.drivers = v :: rest)
    (room : 1 ≤ r.settings.maxSources) :
    Prod.Lex (· < ·) (· < ·) (next.work records, next.waiting) (r.work records, r.waiting) := by
  have whole : r.work records = v.work records + (rest.map (Driver.work records)).sum := by
    rw [work, front, List.map_cons, List.sum_cons]
  have positive : 0 < v.work records := by
    rw [Driver.work]
    split <;> omega
  cases turn with
  | waits closed full =>
    have same : work records { r with drivers := rest ++ [v] } = r.work records := by
      rw [whole]
      simp [work, Nat.add_comm]
    rw [same]
    refine .right _ ?_
    -- as many sources are open as may be, and the one in front is not among them
    have other : ∃ w ∈ rest, w.source.isSome := by
      rw [openCount, front, List.countP_cons_of_neg (by simp [closed])] at full
      exact List.countP_pos_iff.mp (Nat.lt_of_lt_of_le room full)
    have inside := List.findIdx_lt_length_of_exists other
    rw [waiting, waiting, front, List.findIdx_append, if_pos inside, List.findIdx_cons, closed]
    exact Nat.lt_succ_self _
  | goes more opened closed succeed kept same less done =>
    refine .left _ _ ?_
    rw [whole]
    cases more with
    | none => simpa [work] using positive
    | some w =>
      have less := less w rfl
      simp [work]
      omega
  | fails ends closed =>
    refine .left _ _ ?_
    rw [whole]
    exact Nat.add_pos_left positive _

/-- A run in which triples maps take their turns in order comes to its end. -/
theorem Tracks.exists_isOver (realized : plan.Realizes g functions config)
    (reads : Reads d plan records) (positive : 1 ≤ settings.batchSize)
    (room : 1 ≤ settings.maxSources) (tracks : r.Tracks d settings plan records calls s) :
    ∃ n, (step^[n] r).isOver := by
  have wf := WellFounded.prod_lex Nat.lt_wfRel.wf Nat.lt_wfRel.wf
  generalize rank : (r.work records, r.waiting) = k
  induction k using wf.induction generalizing r calls s with
  | _ k ih =>
    cases front : r.drivers with
    | nil => exact ⟨0, by simp [isOver, front]⟩
    | cons v rest =>
      obtain ⟨made, t, schedule, turn⟩ := tracks.turn realized reads positive front
      have less := turn.lt front (tracks.settings ▸ room)
      rw [rank] at less
      obtain ⟨n, isOver⟩ := ih _ less (turn.tracks tracks front schedule) rfl
      exact ⟨n + 1, isOver⟩

end

end Run

end RdfMapping
