import RdfMapping.Proofs.ProducedTerms
import RdfMapping.Proofs.Schedules

/-!
# Quads are well-formed

The quads of a compiled plan are well-formed, whatever the records hold and the
functions return. The ledger keeps the terms of earlier records for the joins, so
that its stores and entries fit their positions is an invariant of all calls.
-/

namespace RdfMapping

def Quad.terms (q : Quad) : List Term :=
  [q.subject.term, q.predicate.term, q.object.term] ++ (q.graph.map RoutedTerm.term).toList

/-- A quad of RDF. Its IRIs and labels are written in the rule graph or well-formed. -/
structure Quad.WellFormed (g : RuleGraph) (q : Quad) : Prop where
  subject : q.subject.term.kind = .iri ∨ q.subject.term.kind = .blankNode
  predicate : q.predicate.term.kind = .iri
  graph : ∀ name, q.graph = some name → ∃ iri, name.term = .iri iri ∧
    iri ≠ Vocabulary.defaultGraph ∧ iri ≠ Vocabulary.r2rmlDefaultGraph
  terms : ∀ t ∈ q.terms, g.Grants t

section

variable {g : RuleGraph}

theorem Position.kind_of_allows_subject {kind : TermKind} (allowed : Position.subject.allows kind) :
    kind = .iri ∨ kind = .blankNode := by
  cases kind with
  | iri => exact .inl rfl
  | blankNode => exact .inr rfl
  | literal => cases allowed

/-- A graph that is not taken for the default graph does not name it. -/
theorem graphSlot_apart {graph : RoutedTerm} {iri : String} (named : graph.term = .iri iri)
    (kept : graphSlot graph = some graph) :
    iri ≠ Vocabulary.defaultGraph ∧ iri ≠ Vocabulary.r2rmlDefaultGraph := by
  have other : ¬ Vocabulary.isDefaultGraph iri := by
    intro default
    rw [graphSlot, named] at kept
    simp only [Term.iri?, default, if_true] at kept
    cases kept
  simpa [Vocabulary.isDefaultGraph] using other

theorem Quad.Fits.wellFormed {q : Quad} (fits : q.Fits g.roles) : q.WellFormed g := by
  have predicate : q.predicate.term.kind = .iri := of_decide_eq_true fits.predicate.1
  refine ⟨Position.kind_of_allows_subject fits.subject.1, predicate, ?_, ?_⟩
  · intro name named
    obtain ⟨role, kept⟩ := fits.graph name named
    have kind : name.term.kind = .iri := of_decide_eq_true role.1
    cases term : name.term with
    | iri iri => exact ⟨iri, rfl, graphSlot_apart term kept⟩
    | blankNode label =>
      rw [term] at kind
      cases kind
    | literal value datatype language =>
      rw [term] at kind
      cases kind
  · intro t member
    rcases List.mem_append.mp member with position | graph
    · simp only [List.mem_cons, List.not_mem_nil, or_false] at position
      rcases position with rfl | rfl | rfl
      · exact fits.subject.2
      · exact fits.predicate.2
      · exact fits.object.2
    · obtain ⟨name, named, rfl⟩ := Option.map_eq_some_iff.mp (Option.mem_toList.mp graph)
      exact (fits.graph name named).1.2

end

/-- Stored subjects and waiting entries fit their positions. -/
structure Ledger.Fits (roles : Roles) (l : Ledger) : Prop where
  stores : ∀ slot ∈ l.stores, ∀ key, ∀ t ∈ slot.store.lookup key, roles .subject t
  joins : ∀ join ∈ l.joins, ∀ entry ∈ join.buffered, entry.Fits roles

/-- An entry that meets stored subjects gives quads that fit. -/
theorem ChildEntry.Fits.entryQuads_fit {roles : Roles} {store : ParentStore}
    {entry : ChildEntry} (fits : entry.Fits roles)
    (stored : ∀ key, ∀ t ∈ store.lookup key, roles .object t) (targets : Targets) :
    ∀ q ∈ Ledger.entryQuads store targets entry, q.Fits roles := by
  intro q member
  simp only [Ledger.entryQuads, List.mem_flatMap, List.mem_map] at member
  obtain ⟨parent, matched, s, subject, p, predicate, name, graph, rfl⟩ := member
  obtain ⟨key, -, held⟩ := Ledger.mem_matchedParents.mp matched
  exact ⟨fits.subjects s subject, fits.predicates p predicate, stored key parent held,
    fits.graphs name graph⟩

namespace Ledger

variable {roles : Roles} {l : Ledger}

theorem Fresh.fits (fresh : l.Fresh) : l.Fits roles := by
  constructor
  · intro slot member key t held
    rw [fresh.stores slot member] at held
    exact (List.not_mem_nil held).elim
  · intro join member entry waiting
    rw [fresh.joins join member] at waiting
    exact (List.not_mem_nil waiting).elim

namespace Fits

theorem take (fits : l.Fits roles) {postings : List Posting}
    (each : ∀ posting ∈ postings, posting.Fits roles) : (l.take postings).Fits roles := by
  constructor
  · intro slot member key t held
    obtain ⟨i, inside, rfl⟩ := List.mem_mapIdx.mp member
    rcases (ParentStore.mem_lookup_fill _ _ key t).mp held with before | posted
    · exact fits.stores _ (List.getElem_mem inside) key t before
    · exact each _ (mem_pairsFor.mp posted)
  · intro join member entry waiting
    obtain ⟨i, inside, rfl⟩ := List.mem_mapIdx.mp member
    rw [Join.buffered_receive] at waiting
    rcases List.mem_append.mp waiting with before | posted
    · exact fits.joins _ (List.getElem_mem inside) entry before
    · exact each _ (mem_entriesFor.mp posted)

theorem markComplete (fits : l.Fits roles) (map : Nat) : (l.markComplete map).2.Fits roles := by
  constructor
  · intro slot member key t held
    obtain ⟨before, inside, rfl⟩ := List.mem_map.mp member
    refine fits.stores before inside key t ?_
    split at held
    · exact held
    · exact held
  · intro join member entry waiting
    obtain ⟨between, inside, rfl⟩ := List.mem_map.mp member
    obtain ⟨before, first, rfl⟩ := List.mem_map.mp inside
    refine fits.joins before first entry ?_
    split at waiting
    · exact waiting
    · exact waiting

theorem setJoin (fits : l.Fits roles) {i : Nat} {join : Join} (emptied : join.buffered = []) :
    (l.setJoin i join).Fits roles := by
  refine ⟨fits.stores, fun held member entry waiting => ?_⟩
  rcases List.mem_or_eq_of_mem_set member with before | rfl
  · exact fits.joins held before entry waiting
  · rw [emptied] at waiting
    exact (List.not_mem_nil waiting).elim

/-- A store that was never opened has no subjects. -/
theorem lookup (fits : l.Fits roles) (store : Nat) (key : JoinKey) :
    ∀ t ∈ ((l.store? store).getD .empty).lookup key, roles .subject t := by
  intro t held
  cases opened : l.stores[store]? with
  | none =>
    simp only [store?, opened, Option.map_none, Option.getD_none] at held
    exact (List.not_mem_nil held).elim
  | some slot =>
    simp only [store?, opened, Option.map_some, Option.getD_some] at held
    exact fits.stores slot (List.mem_of_getElem? opened) key t held

/-- Resolving a join leaves a ledger that fits, whether it succeeds or not. -/
theorem resolve (fits : l.Fits roles) (j : Nat) : (l.resolve j).2.Fits roles := by
  rcases l.resolve_cases j with ⟨join, -, -, -, ran⟩ | ⟨f, refused⟩
  · rw [ran]
    exact fits.setJoin rfl
  · rw [refused]
    exact fits

/-- A join that is resolved gives quads that fit. -/
theorem resolve_quads (fits : l.Fits roles)
    (subjectsAreObjects : ∀ t, roles .subject t → roles .object t) {j : Nat} {quads : List Quad}
    (resolved : (l.resolve j).1 = .ok quads) : ∀ q ∈ quads, q.Fits roles := by
  obtain ⟨join, found, -, -, rfl, -⟩ := resolve_ok resolved
  intro q member
  obtain ⟨entry, waiting, member⟩ := List.mem_flatMap.mp member
  have entryFits := fits.joins join (List.mem_of_getElem? found) entry waiting
  have stored := fun key t held => subjectsAreObjects t (fits.lookup join.spec.store key t held)
  exact entryFits.entryQuads_fit stored _ q member

end Fits

end Ledger

/-- The ledgers that calls lead to, for whatever records and in whatever order. -/
inductive Plan.Reaches (plan : Plan) : Ledger → Prop where
  | start : Reaches plan plan.ledger
  | process {l : Ledger} {m : MapPlan} (before : Reaches plan l) (member : m ∈ plan.maps)
      (emitClasses : Bool) (record : Record) : Reaches plan (m.process emitClasses record l).1
  | complete {l : Ledger} (before : Reaches plan l) (map : Nat) :
      Reaches plan (l.markComplete map).2
  | resolve {l : Ledger} (before : Reaches plan l) (join : Nat) :
      Reaches plan (l.resolve join).2

theorem Schedule.reaches {plan : Plan} {records : Nat → List Record} {calls : List Call}
    {s : Session} (schedule : Schedule plan records calls s) : plan.Reaches s.ledger := by
  induction schedule with
  | start => exact .start
  | step _ last ih =>
    cases last with
    | process member _ => exact .process ih member _ _
    | complete _ _ => exact .complete ih _
    | resolve _ _ _ => exact .resolve ih _

section

variable {g : RuleGraph} {functions : Registry} {settings : Settings} {plan : Plan}

theorem Plan.Realizes.fits (realized : plan.Realizes g functions settings) {l : Ledger}
    (reached : plan.Reaches l) : l.Fits g.roles := by
  induction reached with
  | start => exact realized.fresh.fits
  | @process l m _ member emitClasses record ih =>
    obtain ⟨⟨taken, earlier, ran⟩, -⟩ := m.process_takes emitClasses record l
    have meets := realized.survey_meets member emitClasses record
    rw [ran]
    exact ih.take fun posting inside => (meets.postings posting (earlier.subset inside)).2
  | complete _ map ih => exact ih.markComplete map
  | resolve _ join ih => exact ih.resolve join

end

/--
Every quad that a compiled plan gives is well-formed: for each record at once, and
for each join whenever it is resolved.
-/
theorem Plan.gives_wellFormed {maps : List TriplesMap} {functions : Registry}
    {settings : Settings} {plan : Plan}
    (compiled : compile (.ofList maps) functions settings = .ok plan) {l : Ledger}
    (reached : plan.Reaches l) :
    (∀ m ∈ plan.maps, ∀ emitClasses record quads,
      (m.process emitClasses record l).2 = .ok quads →
        ∀ q ∈ quads, q.WellFormed (.ofList maps)) ∧
    ∀ join quads, (l.resolve join).1 = .ok quads →
      ∀ q ∈ quads, q.WellFormed (.ofList maps) := by
  have realized := realizes_of_compile compiled
  constructor
  · intro m member emitClasses record quads given q inside
    have outcome := (realized.survey_meets member emitClasses record).outcome
    rw [(m.process_takes emitClasses record l).2 quads given] at outcome
    exact (outcome q inside).wellFormed
  · intro join quads resolved q inside
    have fits := (realized.fits reached).resolve_quads
      (fun _ => RuleGraph.roles_object_of_subject) resolved
    exact (fits q inside).wellFormed

namespace Staff

def person : TriplesMap :=
  { iri := "urn:person", logicalSource := { source := "people" },
    subjectMap := some {
      termMap := { reference := some "id" }, classes := ["urn:Person"],
      graphMaps := [.ofConstant (.iri Vocabulary.defaultGraph)] },
    predicateObjectMaps := [{
      predicateMaps := [.ofConstant (.iri "urn:head")],
      objectMaps := [.reference { parent := "urn:person", conditions := [⟨"head", "id"⟩] }] }] }

def plan : Plan := ((Plan.compile (.ofList [person]) .empty {}).toOption).get rfl

theorem compiled : Plan.compile (.ofList [person]) .empty {} = .ok plan := rfl

def map : MapPlan := plan.maps[0]

/-- Ann is her own head. -/
def ann : Record := Teams.record [("id", ["urn:ann"]), ("head", ["urn:ann"])]

def classQuad : Quad :=
  ⟨(Term.iri "urn:ann").unrouted, (Term.iri Vocabulary.rdfType).unrouted,
    (Term.iri "urn:Person").unrouted, none⟩

def headQuad : Quad :=
  ⟨(Term.iri "urn:ann").unrouted, (Term.iri "urn:head").unrouted,
    (Term.iri "urn:ann").unrouted, none⟩

theorem processed : (map.process true ann plan.ledger).2 = .ok [classQuad] := by
  refine ok_of_toOption ?_
  decide +kernel

/-- The ledger after Ann, when no one else comes. -/
def ledger : Ledger := ((map.process true ann plan.ledger).1.markComplete 0).2

theorem resolved : (ledger.resolve 0).1 = .ok [headQuad] := by
  refine ok_of_toOption ?_
  decide +kernel

end Staff

theorem staff_gives_wellFormed :
    Plan.compile (.ofList [Staff.person]) .empty {} = .ok Staff.plan ∧
    Staff.plan.Reaches Staff.plan.ledger ∧ Staff.plan.Reaches Staff.ledger ∧
    ((Staff.map.process true Staff.ann Staff.plan.ledger).2 = .ok [Staff.classQuad] ∧
      Staff.classQuad.WellFormed (.ofList [Staff.person])) ∧
    (Staff.ledger.resolve 0).1 = .ok [Staff.headQuad] ∧
      Staff.headQuad.WellFormed (.ofList [Staff.person]) := by
  have member : Staff.map ∈ Staff.plan.maps := List.getElem_mem _
  have reached : Staff.plan.Reaches Staff.ledger :=
    .complete (.process .start member true Staff.ann) 0
  obtain ⟨atOnce, -⟩ := Plan.gives_wellFormed Staff.compiled .start
  obtain ⟨-, later⟩ := Plan.gives_wellFormed Staff.compiled reached
  have first := atOnce Staff.map member true Staff.ann [Staff.classQuad] Staff.processed
  have second := later 0 [Staff.headQuad] Staff.resolved
  exact ⟨Staff.compiled, .start, reached, ⟨Staff.processed, first _ (List.mem_singleton_self _)⟩,
    Staff.resolved, second _ (List.mem_singleton_self _)⟩

end RdfMapping
