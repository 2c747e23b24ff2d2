import RdfMapping.Proofs.CheckedTermMaps
import RdfMapping.Proofs.RecordQuads

/-!
# Targets of quads

A quad goes wherever one of its terms goes. For each choice of a subject, a
predicate, an object and a graph that the term maps of a predicate-object map make on
a record there is a quad, and it should go wherever one of these maps sends it. Some
targets are missing: terms are collected without regard to their targets, so that a
predicate map or a graph map loses its own when one before it made the same term. The
default graph is no term of a quad and brings no targets.
-/

namespace RdfMapping

instance : HasSubset Targets := ⟨fun these those => ∀ a ∈ these, a ∈ those⟩

instance (these those : Targets) : Decidable (these ⊆ those) :=
  inferInstanceAs (Decidable (∀ a ∈ these.toList, a ∈ those.toList))

theorem Quad.mem_targets {q : Quad} {a : String} :
    a ∈ q.targets ↔ a ∈ q.subject.targets ∨ a ∈ q.predicate.targets ∨ a ∈ q.object.targets ∨
      ∃ graph, q.graph = some graph ∧ a ∈ graph.targets := by
  cases named : q.graph <;> simp [targets, named, OrderedSet.mem_union, or_assoc]

namespace TermMap

variable {ctx : Context} {record : Record} {position : Position} {m : TermMap}

/-- The term is one of those that the term map makes on the record. -/
def Yields (ctx : Context) (record : Record) (position : Position) (m : TermMap) (t : Term) :
    Prop :=
  ∃ p, m.Becomes ctx position p ∧ p.Gives record t

theorem Becomes.targets {p : Producer} (becomes : m.Becomes ctx position p) :
    p.targets = m.targets := by
  obtain ⟨label, compiled⟩ := becomes
  obtain ⟨-, source, -, rfl⟩ := Producer.compile_ok_iff.mp compiled
  rfl

/-- The name that a term map has in faults does not matter where there are none. -/
theorem source_relabel {call : String → Except Fault ValueSource} {label other : String}
    {source : ValueSource} (found : m.source call label position = .ok source) :
    m.source call other position = .ok source := by
  unfold TermMap.source at found ⊢
  split at found
  · exact found
  · exact found
  · exact found
  · exact found
  · cases found

theorem Becomes.apply_eq {p q : Producer} (one : m.Becomes ctx position p)
    (other : m.Becomes ctx position q) : p.apply = q.apply := by
  obtain ⟨_, one⟩ := one
  obtain ⟨label, other⟩ := other
  obtain ⟨-, source, found, rfl⟩ := Producer.compile_ok_iff.mp one
  obtain ⟨-, _, again, rfl⟩ := Producer.compile_ok_iff.mp other
  cases (source_relabel found).symm.trans again
  rfl

theorem Becomes.gives_iff {p : Producer} (becomes : m.Becomes ctx position p) {t : Term} :
    m.Yields ctx record position t ↔ p.Gives record t := by
  constructor
  · rintro ⟨q, other, gives⟩
    rw [Producer.Gives, becomes.apply_eq other]
    exact gives
  · exact fun gives => ⟨p, becomes, gives⟩

theorem yields_constant {constant : Term} (declared : m.constant = some constant)
    (checked : m.check "" position = .ok ()) :
    m.Yields ctx record position (m.constantTerm constant) := by
  have source : m.source (ctx.compileCall []) "" position =
      .ok (.constant (m.constantTerm constant)) := by
    simp only [TermMap.source, declared]
    rfl
  exact ⟨_, ⟨"", Producer.compile_ok_iff.mpr ⟨checked, _, source, rfl⟩⟩, _, rfl, _,
    List.mem_singleton_self _, rfl⟩

end TermMap

section

variable {ctx : Context} {label : String} {position : Position} {maps : List TermMap}
  {producers : List Producer} {record : Record} {terms : List RoutedTerm}

/-- A term stands among those of several term maps with the targets of the first that yields it. -/
theorem Producer.RealizeAll.mem_applyAll
    (realized : RealizeAll ctx label position maps producers)
    (ran : applyAll producers record = .ok terms) {m : TermMap} {t : Term}
    (first : IsFirst (·.Yields ctx record position t) maps m) : ⟨t, m.targets⟩ ∈ terms := by
  obtain ⟨p, becomes, first⟩ :=
    first.of_forall₂ realized.becomes fun m p becomes => becomes.gives_iff
  rw [← becomes.targets]
  exact mem_applyAll_of_first ran first

theorem Producer.RealizeAll.exists_yields
    (realized : RealizeAll ctx label position maps producers)
    (ran : applyAll producers record = .ok terms) {routed : RoutedTerm} (member : routed ∈ terms) :
    ∃ m ∈ maps, m.Yields ctx record position routed.term := by
  obtain ⟨p, supplied, gives⟩ := gives_of_mem_applyAll ran member
  obtain ⟨m, listed, becomes⟩ := exists_left_of_forall₂ realized.becomes supplied
  exact ⟨m, listed, becomes.gives_iff.mpr gives⟩

end

/--
An object of the record and its targets. A reference without conditions, to a triples
map that reads the same records, gives the subjects there, with targets of its own.
-/
inductive ObjectMap.Yields (ctx : Context) (record : Record) (map : TriplesMap) :
    ObjectMap → Term → Targets → Prop where
  | term {m : TermMap} {o : Term} (yields : m.Yields ctx record .object o) :
      Yields ctx record map (.term m) o m.targets
  | sameRecord {reference : ReferencingMap} {parent : TriplesMap} {subjectMap : SubjectMap}
      {o : Term} (found : ctx.graph.find? reference.parent = some parent)
      (driven : parent.subjectMap = some subjectMap)
      (shared : reference.conditions = [] ∧ parent.logicalSource = map.logicalSource)
      (yields : subjectMap.termMap.Yields ctx record .subject o) :
      Yields ctx record map (.reference reference) o reference.targets

theorem ObjectPlan.Realizes.mem_objectValues {ctx : Context} {ledger : Ledger} {place : Nat}
    {map : TriplesMap} {label : String} {object : ObjectMap} {plan : ObjectPlan}
    (realized : plan.Realizes ctx ledger place map label object) {record : Record}
    {values : List RoutedTerm} (found : MapPlan.objectValues record plan = .ok values) {o : Term}
    {targets : Targets} (yields : object.Yields ctx record map o targets) :
    ⟨o, targets⟩ ∈ values := by
  cases realized with
  | term compiled =>
    cases yields with
    | term yields =>
      have becomes : TermMap.Becomes ctx .object _ _ := ⟨_, compiled⟩
      rw [← becomes.targets]
      exact (becomes.gives_iff.mp yields).mem found
  | sameRecord known driven shared compiled =>
    cases yields with
    | sameRecord known' driven' shared' yields =>
      cases known.symm.trans known'
      cases driven.symm.trans driven'
      have becomes : TermMap.Becomes ctx .subject _ _ := ⟨_, compiled⟩
      obtain ⟨subjects, applied, rfl⟩ := map_eq_ok_iff.mp found
      have subject := (becomes.gives_iff.mp yields).mem applied
      exact List.mem_map.mpr ⟨_, subject, rfl⟩
  | join placed stands driven apart registered stored =>
    cases yields with
    | sameRecord known driven' shared yields =>
      obtain ⟨_, placed', stands'⟩ := Option.bind_eq_some_iff.mp known
      cases placed.symm.trans placed'
      cases stands.symm.trans stands'
      exact (apart shared).elim

/-- The term names the default graph. -/
def Term.IsDefaultGraph (t : Term) : Prop := ∃ iri, t = .iri iri ∧ Vocabulary.isDefaultGraph iri

/--
A graph that statements of the record stand in, and the term maps whose targets stay with it:
of those of the subject map, or of the predicate-object map, the first that yields it. With the
default graph none stay.
-/
inductive GraphChoice (ctx : Context) (record : Record) (subjectMaps maps : List TermMap) :
    Option Term → (TermMap → Prop) → Prop where
  | named {list : List TermMap} {m : TermMap} {g : Term}
      (own : list = subjectMaps ∨ list = maps) (listed : m ∈ list)
      (yields : m.Yields ctx record .graph g) (apart : ¬ g.IsDefaultGraph) :
      GraphChoice ctx record subjectMaps maps (some g)
        (IsFirst (·.Yields ctx record .graph g) list)
  | default {list : List TermMap} {m : TermMap} {g : Term}
      (own : list = subjectMaps ∨ list = maps) (listed : m ∈ list)
      (yields : m.Yields ctx record .graph g) (default : g.IsDefaultGraph) :
      GraphChoice ctx record subjectMaps maps none fun _ => False
  | absent (silent : ∀ m ∈ subjectMaps ++ maps, ∀ g, ¬ m.Yields ctx record .graph g) :
      GraphChoice ctx record subjectMaps maps none fun _ => False

theorem graphSlot_of_isDefaultGraph {graph : RoutedTerm} (default : graph.term.IsDefaultGraph) :
    graphSlot graph = none := by
  obtain ⟨iri, same, default⟩ := default
  simp [graphSlot, same, Term.iri?, default]

theorem graphSlot_of_not_isDefaultGraph {graph : RoutedTerm}
    (apart : ¬ graph.term.IsDefaultGraph) : graphSlot graph = some graph := by
  unfold graphSlot
  split
  · rename_i iri named
    have same : graph.term = .iri iri := by
      cases shape : graph.term with
      | iri other =>
        rw [shape] at named
        cases named
        rfl
      | _ =>
        rw [shape] at named
        cases named
    rw [if_neg fun default => apart ⟨iri, same, default⟩]
  · rfl

/-- A chosen graph is among those of the statements, with the targets of its supplier. -/
theorem GraphChoice.mem_graphSlots {ctx : Context} {record : Record}
    {subjectMaps maps : List TermMap} {g : Option Term} {supplies : TermMap → Prop}
    (choice : GraphChoice ctx record subjectMaps maps g supplies) {subjectLabel label : String}
    {subjectProducers producers : List Producer}
    (forSubject : Producer.RealizeAll ctx subjectLabel .graph subjectMaps subjectProducers)
    (forStatements : Producer.RealizeAll ctx label .graph maps producers)
    {subjectGraphs graphs : List RoutedTerm}
    (ranSubject : applyAll subjectProducers record = .ok subjectGraphs)
    (ran : applyAll producers record = .ok graphs) :
    ∃ slot ∈ graphSlots (subjectGraphs ++ graphs), slot.map RoutedTerm.term = g ∧
      ∀ m, supplies m → ∃ graph, slot = some graph ∧ graph.targets = m.targets := by
  -- Both lists of graph maps supply the graphs of a statement.
  have supplied {list : List TermMap} (own : list = subjectMaps ∨ list = maps) {m : TermMap}
      {t : Term} (first : IsFirst (·.Yields ctx record .graph t) list m) :
      ⟨t, m.targets⟩ ∈ subjectGraphs ++ graphs := by
    rcases own with rfl | rfl
    · exact List.mem_append_left _ (forSubject.mem_applyAll ranSubject first)
    · exact List.mem_append_right _ (forStatements.mem_applyAll ran first)
  cases choice with
  | @named list m g own listed yields apart =>
    obtain ⟨m, first⟩ : ∃ m, IsFirst (·.Yields ctx record .graph g) list m :=
      IsFirst.exists_of_mem listed yields
    refine ⟨_, RdfMapping.mem_graphSlots.mpr (.inr ⟨_, supplied own first,
      graphSlot_of_not_isDefaultGraph apart⟩), rfl, fun other another => ?_⟩
    rw [first.unique another]
    exact ⟨_, rfl, rfl⟩
  | @default list m g own listed yields default =>
    obtain ⟨m, first⟩ : ∃ m, IsFirst (·.Yields ctx record .graph g) list m :=
      IsFirst.exists_of_mem listed yields
    exact ⟨none, RdfMapping.mem_graphSlots.mpr (.inr ⟨_, supplied own first,
      graphSlot_of_isDefaultGraph default⟩), rfl, fun _ impossible => impossible.elim⟩
  | absent silent =>
    have nothing : subjectGraphs ++ graphs = [] := by
      refine List.eq_nil_iff_forall_not_mem.mpr fun graph member => ?_
      rcases List.mem_append.mp member with inside | inside
      · obtain ⟨m, listed, yields⟩ := forSubject.exists_yields ranSubject inside
        exact silent m (List.mem_append_left _ listed) _ yields
      · obtain ⟨m, listed, yields⟩ := forStatements.exists_yields ran inside
        exact silent m (List.mem_append_right _ listed) _ yields
    exact ⟨none, RdfMapping.mem_graphSlots.mpr (.inl ⟨nothing, rfl⟩), rfl,
      fun _ impossible => impossible.elim⟩

/--
What the subject map, a predicate-object map and the graph maps make of a record stands
together in a quad, each term with the targets of the map that supplies it.
-/
theorem MapPlan.Realizes.exists_quad {ctx : Context} {ledger : Ledger} {d : Driven}
    {plan : MapPlan} (realized : plan.Realizes ctx ledger d) {emitClasses : Bool} {record : Record}
    {quads : List Quad} (ran : (plan.survey emitClasses record).outcome = .ok quads) {s p o : Term}
    (subject : d.subjectMap.termMap.Yields ctx record .subject s) {pom : PredicateObjectMap}
    (listed : pom ∈ d.map.predicateObjectMaps) {first : TermMap}
    (predicate : IsFirst (·.Yields ctx record .predicate p) pom.predicateMaps first)
    {object : ObjectMap} (inside : object ∈ pom.objectMaps) {targets : Targets}
    (yields : object.Yields ctx record d.map o targets) {g : Option Term}
    {supplies : TermMap → Prop}
    (choice : GraphChoice ctx record d.subjectMap.graphMaps pom.graphMaps g supplies) :
    ∃ slot, ⟨⟨s, d.subjectMap.termMap.targets⟩, ⟨p, first.targets⟩, ⟨o, targets⟩, slot⟩ ∈ quads ∧
      slot.map RoutedTerm.term = g ∧
      ∀ m, supplies m → ∃ graph, slot = some graph ∧ graph.targets = m.targets := by
  -- Each position in turn: its terms are collected only where the positions before it have some,
  -- and the given term shows that they do.
  obtain ⟨subjects, applied, parts⟩ := MapPlan.survey_quads ran
  have becomes : d.subjectMap.termMap.Becomes ctx .subject plan.subject := ⟨_, realized.subject⟩
  have madeSubject := (becomes.gives_iff.mp subject).mem applied
  rw [becomes.targets] at madeSubject
  rcases parts with ⟨rfl, -⟩ | ⟨-, subjectGraphs, ranGraphs, each, members⟩
  · exact (List.not_mem_nil madeSubject).elim
  obtain ⟨i, pomPlan, planned, whole⟩ := realized.exists_predicateObject listed
  obtain ⟨statements, stated⟩ := each pomPlan planned
  obtain ⟨predicates, ranPredicates, parts⟩ := MapPlan.surveyPredicateObject_quads stated
  have madePredicate := whole.predicates.mem_applyAll ranPredicates predicate
  rcases parts with ⟨rfl, -⟩ | ⟨-, graphs, ran, found, combined⟩
  · exact (List.not_mem_nil madePredicate).elim
  obtain ⟨_, objectPlan, planned', realizes⟩ := whole.exists_object inside
  obtain ⟨values, given⟩ := found objectPlan planned'
  have madeObject := realizes.mem_objectValues given yields
  obtain ⟨slot, stands, named, supplied⟩ :=
    choice.mem_graphSlots realized.subjectGraphs whole.graphs ranGraphs ran
  refine ⟨slot, ?_, named, supplied⟩
  refine (members _).mpr (.inr ⟨pomPlan, planned, statements, stated, ?_⟩)
  refine (combined _).mpr ⟨objectPlan, planned', values, given, ?_⟩
  exact mem_allQuads.mpr ⟨madeSubject, madePredicate, madeObject, stands⟩

/--
No choice of terms is lost. When a record is mapped without a fault, each subject,
predicate, object and graph that the maps make of it stand together in a quad. Its targets
include those of the subject map and of the object map, and those of each predicate map
and graph map that makes its term before the others beside it do.
-/
theorem Plan.quads_keep_targets {maps : List TriplesMap} {functions : Registry}
    {settings : Settings} {plan : Plan}
    (compiled : compile (.ofList maps) functions settings = .ok plan) {m : MapPlan}
    (member : m ∈ plan.maps) :
    let ctx : Context := ⟨.ofList maps, functions, settings.base⟩
    ∃ map subjectMap, maps[m.place]? = some map ∧ map.subjectMap = some subjectMap ∧
      ∀ emitClasses record l quads, (m.process emitClasses record l).2 = .ok quads →
        ∀ s, subjectMap.termMap.Yields ctx record .subject s →
        ∀ pom ∈ map.predicateObjectMaps,
        ∀ p, (∃ P ∈ pom.predicateMaps, P.Yields ctx record .predicate p) →
        ∀ object ∈ pom.objectMaps, ∀ o targets, object.Yields ctx record map o targets →
        ∀ g supplies, GraphChoice ctx record subjectMap.graphMaps pom.graphMaps g supplies →
          ∃ q ∈ quads,
            q.subject.term = s ∧ q.predicate.term = p ∧ q.object.term = o ∧
            q.graph.map RoutedTerm.term = g ∧
            subjectMap.termMap.targets ⊆ q.targets ∧ targets ⊆ q.targets ∧
            (∀ P, IsFirst (·.Yields ctx record .predicate p) pom.predicateMaps P →
              P.targets ⊆ q.targets) ∧
            ∀ G, supplies G → G.targets ⊆ q.targets := by
  intro ctx
  have realized := realizes_of_compile compiled
  obtain ⟨d, listed, whole⟩ := realized.exists_driven member
  obtain ⟨found, driven⟩ := RuleGraph.mem_driven.mp listed
  refine ⟨d.map, d.subjectMap, ?_, driven, ?_⟩
  · rw [whole.place, ← RuleGraph.maps_ofList maps]
    exact found
  intro emitClasses record l quads processed s subject pom inMap p exists_predicate object inPom o
    targets yields g supplies choice
  have ran := (m.process_takes emitClasses record l).2 quads processed
  obtain ⟨P, predicateMap, made⟩ := exists_predicate
  obtain ⟨first, predicate⟩ :
      ∃ first, IsFirst (·.Yields ctx record .predicate p) pom.predicateMaps first :=
    IsFirst.exists_of_mem predicateMap made
  obtain ⟨slot, inside, named, supplied⟩ :=
    whole.exists_quad ran subject inMap predicate inPom yields choice
  refine ⟨_, inside, rfl, rfl, rfl, named, ?_, ?_, ?_, ?_⟩
  · exact fun a held => Quad.mem_targets.mpr (.inl held)
  · exact fun a held => Quad.mem_targets.mpr (.inr (.inr (.inl held)))
  · intro other another a held
    rw [another.unique predicate] at held
    exact Quad.mem_targets.mpr (.inr (.inl held))
  · intro G supplies a held
    obtain ⟨graph, here, same⟩ := supplied G supplies
    rw [← same] at held
    exact Quad.mem_targets.mpr (.inr (.inr (.inr ⟨graph, here, held⟩)))

namespace Orders

def constant (iri target : String) : TermMap :=
  { constant := some (.iri iri), targets := .ofList [target] }

/-- Its predicate and its first graph are each named by two maps. -/
def item : PredicateObjectMap where
  predicateMaps := [constant "urn:item" "first", constant "urn:item" "second"]
  objectMaps := [.term (constant "urn:pen" "goods")]
  graphMaps := [constant "urn:g" "third", constant "urn:g" "fourth",
    constant Vocabulary.defaultGraph "fifth"]

def order : TriplesMap where
  iri := "urn:orders"
  logicalSource := { source := "orders" }
  subjectMap := some { termMap := constant "urn:order" "shop" }
  predicateObjectMaps := [item]

def context : Context := ⟨.ofList [order], .empty, none⟩

def plan : Plan := ((Plan.compile (.ofList [order]) .empty {}).toOption).get rfl

theorem compiled : Plan.compile (.ofList [order]) .empty {} = .ok plan := rfl

def map : MapPlan := plan.maps[0]

def record : Record := ⟨fun _ => .ok [], fun _ => none⟩

def routed (iri target : String) : RoutedTerm := ⟨.iri iri, .ofList [target]⟩

def quads : List Quad :=
  [some (routed "urn:g" "third"), none].map fun graph =>
    ⟨routed "urn:order" "shop", routed "urn:item" "first", routed "urn:pen" "goods", graph⟩

theorem processed : (map.process true record plan.ledger).2 = .ok quads := by
  refine ok_of_toOption ?_
  decide +kernel

theorem yields (iri target : String) {position : Position}
    (checked : (constant iri target).check "" position = .ok ()) :
    (constant iri target).Yields context record position (.iri iri) :=
  TermMap.yields_constant rfl checked

theorem subject_yields :
    (constant "urn:order" "shop").Yields context record .subject (.iri "urn:order") :=
  yields _ _ rfl

theorem object_yields : ObjectMap.Yields context record order (.term (constant "urn:pen" "goods"))
    (.iri "urn:pen") (.ofList ["goods"]) :=
  .term (yields _ _ rfl)

/-- The graph maps choose the graph that the first of them names. -/
theorem choice : GraphChoice context record [] item.graphMaps (some (.iri "urn:g"))
    (IsFirst (·.Yields context record .graph (.iri "urn:g")) item.graphMaps) := by
  have listed : constant "urn:g" "third" ∈ item.graphMaps := by decide
  refine .named (.inr rfl) listed (yields _ _ rfl) ?_
  rintro ⟨iri, same, default⟩
  cases same
  cases default

end Orders

theorem orders_keep_targets :
    Plan.compile (.ofList [Orders.order]) .empty {} = .ok Orders.plan ∧
    (Orders.map.process true Orders.record Orders.plan.ledger).2 = .ok Orders.quads ∧
    ∃ q ∈ Orders.quads, q.subject.term = .iri "urn:order" ∧ q.predicate.term = .iri "urn:item" ∧
      q.object.term = .iri "urn:pen" ∧ q.graph.map RoutedTerm.term = some (.iri "urn:g") ∧
      OrderedSet.ofList ["shop"] ⊆ q.targets ∧ OrderedSet.ofList ["first"] ⊆ q.targets ∧
      OrderedSet.ofList ["goods"] ⊆ q.targets ∧ OrderedSet.ofList ["third"] ⊆ q.targets := by
  have member : Orders.map ∈ Orders.plan.maps := List.getElem_mem _
  obtain ⟨map, subjectMap, found, driven, keep⟩ :=
    Plan.quads_keep_targets Orders.compiled member
  cases found
  cases driven
  have item : Orders.item ∈ Orders.order.predicateObjectMaps := List.mem_singleton_self _
  have predicate : Orders.constant "urn:item" "first" ∈ Orders.item.predicateMaps :=
    List.mem_cons_self
  have object : .term (Orders.constant "urn:pen" "goods") ∈ Orders.item.objectMaps :=
    List.mem_singleton_self _
  obtain ⟨q, inside, s, p, o, g, fromSubject, fromObject, fromPredicate, fromGraph⟩ :=
    keep _ _ _ _ Orders.processed _ Orders.subject_yields _ item _
      ⟨_, predicate, Orders.yields _ _ rfl⟩ _ object _ _ Orders.object_yields _ _ Orders.choice
  refine ⟨Orders.compiled, Orders.processed, q, inside, s, p, o, g, fromSubject, ?_, fromObject, ?_⟩
  · exact fromPredicate _ (IsFirst.cons_iff.mpr ⟨Orders.yields "urn:item" "first" rfl, .inl rfl⟩)
  · exact fromGraph _ (IsFirst.cons_iff.mpr ⟨Orders.yields "urn:g" "third" rfl, .inl rfl⟩)

/-- The predicate and the graph of the order are each named by two maps, and no quad has the
targets of the later one. None has those of the map that names the default graph. -/
theorem orders_lose_targets :
    Plan.compile (.ofList [Orders.order]) .empty {} = .ok Orders.plan ∧
    Orders.map ∈ Orders.plan.maps ∧
    (Orders.map.process true Orders.record Orders.plan.ledger).2 = .ok Orders.quads ∧
    (Orders.constant "urn:order" "shop").Yields Orders.context Orders.record .subject
      (.iri "urn:order") ∧
    (.term (Orders.constant "urn:pen" "goods") ∈ Orders.item.objectMaps ∧
      ObjectMap.Yields Orders.context Orders.record Orders.order
        (.term (Orders.constant "urn:pen" "goods")) (.iri "urn:pen") (.ofList ["goods"])) ∧
    (∃ P ∈ Orders.item.predicateMaps, P.Yields Orders.context Orders.record .predicate
      (.iri "urn:item") ∧ ∀ q ∈ Orders.quads, ¬ P.targets ⊆ q.targets) ∧
    (∃ G ∈ Orders.item.graphMaps, G.Yields Orders.context Orders.record .graph (.iri "urn:g") ∧
      ∀ q ∈ Orders.quads, ¬ G.targets ⊆ q.targets) ∧
    ∃ G ∈ Orders.item.graphMaps, G.Yields Orders.context Orders.record .graph
      (.iri Vocabulary.defaultGraph) ∧ ∀ q ∈ Orders.quads, ¬ G.targets ⊆ q.targets := by
  refine ⟨Orders.compiled, List.getElem_mem _, Orders.processed, Orders.subject_yields,
    ⟨List.mem_singleton_self _, Orders.object_yields⟩,
    ⟨Orders.constant "urn:item" "second", by decide, Orders.yields _ _ rfl, by decide +kernel⟩,
    ⟨Orders.constant "urn:g" "fourth", by decide, Orders.yields _ _ rfl, by decide +kernel⟩,
    ⟨Orders.constant Vocabulary.defaultGraph "fifth", by decide, Orders.yields _ _ rfl,
      by decide +kernel⟩⟩

end RdfMapping
