import RdfMapping.Json.DotPath
import RdfMapping.Proofs.Targets

/-!
# The statements of a record

A triples map prescribes statements for a record: each subject with its classes, and with
every predicate and object that one predicate-object map has on the record, in every graph
of the two. A record that is mapped without a fault gives these statements and no others.
-/

namespace RdfMapping

/-- What a quad says, wherever it goes. -/
structure Statement where
  subject : Term
  predicate : Term
  object : Term
  graph : Option Term
  deriving DecidableEq

def Quad.statement (q : Quad) : Statement :=
  ⟨q.subject.term, q.predicate.term, q.object.term, q.graph.map RoutedTerm.term⟩

/--
A graph of statements that have these graph terms. A term that names the default graph
stands for it, and without any term it is the only one.
-/
inductive IsSlot (graphs : Term → Prop) : Option Term → Prop where
  | named {g : Term} (held : graphs g) (apart : ¬ g.IsDefaultGraph) : IsSlot graphs (some g)
  | default {g : Term} (held : graphs g) (default : g.IsDefaultGraph) : IsSlot graphs none
  | absent (silent : ∀ g, ¬ graphs g) : IsSlot graphs none

/-- The term is one of those that the term maps make on the record. -/
def YieldAny (ctx : Context) (record : Record) (position : Position) (maps : List TermMap)
    (t : Term) : Prop :=
  ∃ m ∈ maps, m.Yields ctx record position t

/-- The statements of a triples map for a record. -/
inductive Prescribes (ctx : Context) (record : Record) (emitClasses : Bool) (map : TriplesMap)
    (subjectMap : SubjectMap) : Statement → Prop where
  | classOf {s : Term} {c : String} {g : Option Term} (emits : emitClasses = true)
      (subject : subjectMap.termMap.Yields ctx record .subject s) (listed : c ∈ subjectMap.classes)
      (slot : IsSlot (YieldAny ctx record .graph subjectMap.graphMaps) g) :
      Prescribes ctx record emitClasses map subjectMap
        ⟨s, .iri Vocabulary.rdfType, .iri c, g⟩
  | ofMap {s p o : Term} {g : Option Term} {targets : Targets} {pom : PredicateObjectMap}
      {object : ObjectMap} (subject : subjectMap.termMap.Yields ctx record .subject s)
      (listed : pom ∈ map.predicateObjectMaps)
      (predicate : YieldAny ctx record .predicate pom.predicateMaps p)
      (inside : object ∈ pom.objectMaps) (yields : object.Yields ctx record map o targets)
      (slot : IsSlot (YieldAny ctx record .graph (subjectMap.graphMaps ++ pom.graphMaps)) g) :
      Prescribes ctx record emitClasses map subjectMap ⟨s, p, o, g⟩

theorem IsSlot.congr {graphs others : Term → Prop} (same : ∀ t, graphs t ↔ others t)
    (g : Option Term) : IsSlot graphs g ↔ IsSlot others g := by
  rw [funext fun t => propext (same t)]

theorem mem_slots_iff {graphs : List RoutedTerm} {g : Option Term} :
    g ∈ (graphSlots graphs).map (·.map RoutedTerm.term) ↔
      IsSlot (· ∈ graphs.map RoutedTerm.term) g := by
  rw [List.mem_map]
  constructor
  · rintro ⟨slot, stands, rfl⟩
    rcases mem_graphSlots.mp stands with ⟨rfl, rfl⟩ | ⟨graph, member, rfl⟩
    · exact .absent fun g member => List.not_mem_nil member
    · have held := List.mem_map_of_mem (f := RoutedTerm.term) member
      by_cases default : graph.term.IsDefaultGraph
      · rw [graphSlot_of_isDefaultGraph default]
        exact .default held default
      · rw [graphSlot_of_not_isDefaultGraph default]
        exact .named held default
  · intro slot
    cases slot with
    | named held apart =>
      obtain ⟨graph, member, rfl⟩ := List.mem_map.mp held
      have stands := graphSlot_of_not_isDefaultGraph apart
      exact ⟨_, mem_graphSlots.mpr (.inr ⟨graph, member, stands⟩), rfl⟩
    | default held default =>
      obtain ⟨graph, member, rfl⟩ := List.mem_map.mp held
      have stands := graphSlot_of_isDefaultGraph default
      exact ⟨_, mem_graphSlots.mpr (.inr ⟨graph, member, stands⟩), rfl⟩
    | absent silent =>
      have nothing : graphs = [] := by
        refine List.eq_nil_iff_forall_not_mem.mpr fun graph member => ?_
        exact silent _ (List.mem_map_of_mem member)
      exact ⟨none, mem_graphSlots.mpr (.inl ⟨nothing, rfl⟩), rfl⟩

/-- All combinations of the terms are stated. -/
theorem mem_statements_allQuads {subjects predicates objects : List RoutedTerm}
    {graphs : List (Option RoutedTerm)} {st : Statement} :
    st ∈ (allQuads subjects predicates objects graphs).map Quad.statement ↔
      st.subject ∈ subjects.map RoutedTerm.term ∧
      st.predicate ∈ predicates.map RoutedTerm.term ∧
      st.object ∈ objects.map RoutedTerm.term ∧
      st.graph ∈ graphs.map (·.map RoutedTerm.term) := by
  simp only [List.mem_map, mem_allQuads]
  constructor
  · rintro ⟨q, ⟨subject, predicate, object, graph⟩, rfl⟩
    exact ⟨⟨_, subject, rfl⟩, ⟨_, predicate, rfl⟩, ⟨_, object, rfl⟩, ⟨_, graph, rfl⟩⟩
  · obtain ⟨s, p, o, g⟩ := st
    rintro ⟨⟨subject, inS, rfl⟩, ⟨predicate, inP, rfl⟩, ⟨object, inO, rfl⟩, ⟨graph, inG, rfl⟩⟩
    exact ⟨⟨subject, predicate, object, graph⟩, ⟨inS, inP, inO, inG⟩, rfl⟩

section

variable {ctx : Context} {record : Record} {terms : List RoutedTerm} {t : Term}

theorem TermMap.Becomes.mem_terms_iff {position : Position} {m : TermMap} {p : Producer}
    (becomes : m.Becomes ctx position p) (applied : p.apply record = .ok terms) :
    t ∈ terms.map RoutedTerm.term ↔ m.Yields ctx record position t := by
  rw [becomes.gives_iff, List.mem_map]
  constructor
  · exact fun given => ⟨terms, applied, given⟩
  · rintro ⟨found, again, given⟩
    cases applied.symm.trans again
    exact given

theorem Producer.RealizeAll.mem_terms_iff {label : String} {position : Position}
    {maps : List TermMap} {producers : List Producer}
    (realized : RealizeAll ctx label position maps producers)
    (ran : applyAll producers record = .ok terms) :
    t ∈ terms.map RoutedTerm.term ↔ YieldAny ctx record position maps t := by
  constructor
  · intro member
    obtain ⟨routed, inside, rfl⟩ := List.mem_map.mp member
    exact realized.exists_yields ran inside
  · rintro ⟨m, listed, yields⟩
    obtain ⟨first, found⟩ : ∃ first, IsFirst (·.Yields ctx record position t) maps first :=
      IsFirst.exists_of_mem listed yields
    exact List.mem_map.mpr ⟨_, realized.mem_applyAll ran found, rfl⟩

theorem ObjectPlan.Realizes.mem_values_iff {ledger : Ledger} {place : Nat} {map : TriplesMap}
    {label : String} {object : ObjectMap} {plan : ObjectPlan}
    (realized : plan.Realizes ctx ledger place map label object) {values : List RoutedTerm}
    (found : MapPlan.objectValues record plan = .ok values) :
    t ∈ values.map RoutedTerm.term ↔ ∃ targets, object.Yields ctx record map t targets := by
  constructor
  · intro member
    cases realized with
    | term compiled =>
      have becomes : TermMap.Becomes ctx .object _ _ := ⟨_, compiled⟩
      exact ⟨_, .term ((becomes.mem_terms_iff found).mp member)⟩
    | sameRecord known driven shared compiled =>
      have becomes : TermMap.Becomes ctx .subject _ _ := ⟨_, compiled⟩
      obtain ⟨subjects, applied, rfl⟩ := map_eq_ok_iff.mp found
      rw [List.map_map] at member
      exact ⟨_, .sameRecord known driven shared ((becomes.mem_terms_iff applied).mp member)⟩
    | join placed stands driven apart registered stored =>
      cases found
      exact (List.not_mem_nil member).elim
  · rintro ⟨targets, yields⟩
    exact List.mem_map.mpr ⟨_, realized.mem_objectValues found yields, rfl⟩

end

/-- Two lists of maps have together the terms of both. -/
theorem mem_terms_append_iff {ctx : Context} {record : Record} {position : Position}
    {label other : String} {maps more : List TermMap} {producers others : List Producer}
    {terms further : List RoutedTerm} {t : Term}
    (realized : Producer.RealizeAll ctx label position maps producers)
    (realizedOthers : Producer.RealizeAll ctx other position more others)
    (ran : applyAll producers record = .ok terms)
    (ranOthers : applyAll others record = .ok further) :
    t ∈ (terms ++ further).map RoutedTerm.term ↔ YieldAny ctx record position (maps ++ more) t := by
  rw [List.map_append, List.mem_append, realized.mem_terms_iff ran,
    realizedOthers.mem_terms_iff ranOthers]
  constructor
  · rintro (⟨m, listed, yields⟩ | ⟨m, listed, yields⟩)
    · exact ⟨m, List.mem_append_left _ listed, yields⟩
    · exact ⟨m, List.mem_append_right _ listed, yields⟩
  · rintro ⟨m, listed, yields⟩
    rcases List.mem_append.mp listed with first | second
    · exact .inl ⟨m, first, yields⟩
    · exact .inr ⟨m, second, yields⟩

/-- Without a subject a record gives nothing, and the ledger stays as it was. -/
theorem MapPlan.process_of_no_subject {plan : MapPlan} {record : Record}
    (none : plan.subject.apply record = .ok []) (emitClasses : Bool) (l : Ledger) :
    plan.process emitClasses record l = (l, .ok []) := by
  have survey : plan.survey emitClasses record = ⟨[], .ok []⟩ := by
    rw [MapPlan.survey, none]
    rfl
  rw [process, survey]
  rfl

section

variable {ctx : Context} {ledger : Ledger} {d : Driven} {plan : MapPlan} {record : Record}
  {emitClasses : Bool} {subjects subjectGraphs : List RoutedTerm} {st : Statement}

theorem MapPlan.Realizes.mem_classStatements_iff (realized : plan.Realizes ctx ledger d)
    (applied : plan.subject.apply record = .ok subjects)
    (ran : applyAll plan.subjectGraphs record = .ok subjectGraphs) :
    st ∈ (plan.classQuads emitClasses subjects subjectGraphs).map Quad.statement ↔
      emitClasses = true ∧ d.subjectMap.termMap.Yields ctx record .subject st.subject ∧
      st.predicate = .iri Vocabulary.rdfType ∧ (∃ c ∈ d.subjectMap.classes, .iri c = st.object) ∧
      IsSlot (YieldAny ctx record .graph d.subjectMap.graphMaps) st.graph := by
  have becomes : d.subjectMap.termMap.Becomes ctx .subject plan.subject := ⟨_, realized.subject⟩
  have classes (t : Term) : t ∈ plan.classes.map RoutedTerm.term ↔
      ∃ c ∈ d.subjectMap.classes, .iri c = t := by
    rw [realized.classes, List.map_map, List.mem_map]
    rfl
  have slots := IsSlot.congr (fun t => realized.subjectGraphs.mem_terms_iff (t := t) ran) st.graph
  cases emitClasses with
  | false => simp [classQuads]
  | true =>
    rw [classQuads, if_pos rfl, mem_statements_allQuads, becomes.mem_terms_iff applied, classes,
      mem_slots_iff, slots, List.map_singleton, List.mem_singleton]
    exact (and_iff_right rfl).symm

/-- What one predicate-object map adds to the statements. -/
theorem PredicateObjectPlan.Realizes.mem_statements_iff {entry : PredicateObjectMap × Nat}
    {pom : PredicateObjectPlan} (whole : pom.Realizes ctx ledger d.place d.map entry)
    (realized : plan.Realizes ctx ledger d)
    (applied : plan.subject.apply record = .ok subjects)
    (named : applyAll plan.subjectGraphs record = .ok subjectGraphs) {quads : List Quad}
    (ran : (MapPlan.surveyPredicateObject record subjects subjectGraphs pom).outcome = .ok quads) :
    st ∈ quads.map Quad.statement ↔
      d.subjectMap.termMap.Yields ctx record .subject st.subject ∧
      YieldAny ctx record .predicate entry.1.predicateMaps st.predicate ∧
      (∃ object ∈ entry.1.objectMaps, ∃ targets,
        object.Yields ctx record d.map st.object targets) ∧
      IsSlot (YieldAny ctx record .graph (d.subjectMap.graphMaps ++ entry.1.graphMaps))
        st.graph := by
  have becomes : d.subjectMap.termMap.Becomes ctx .subject plan.subject := ⟨_, realized.subject⟩
  obtain ⟨predicates, ranPredicates, cases⟩ := MapPlan.surveyPredicateObject_quads ran
  have fromPredicates := whole.predicates.mem_terms_iff (t := st.predicate) ranPredicates
  rcases cases with ⟨rfl, rfl⟩ | ⟨-, graphs, ranGraphs, found, members⟩
  · -- The objects and graphs are not looked at, and there is no predicate for them.
    refine iff_of_false List.not_mem_nil ?_
    rintro ⟨-, predicate, -⟩
    exact List.not_mem_nil (fromPredicates.mpr predicate)
  have slots := IsSlot.congr (fun t =>
    mem_terms_append_iff (t := t) realized.subjectGraphs whole.graphs named ranGraphs) st.graph
  have combined : st ∈ quads.map Quad.statement ↔ ∃ object ∈ pom.objects, ∃ objects,
      MapPlan.objectValues record object = .ok objects ∧
        st ∈ (allQuads subjects predicates objects
          (graphSlots (subjectGraphs ++ graphs))).map Quad.statement := by
    simp only [List.mem_map, members]
    constructor
    · rintro ⟨q, ⟨object, inside, objects, given, member⟩, rfl⟩
      exact ⟨object, inside, objects, given, q, member, rfl⟩
    · rintro ⟨object, inside, objects, given, q, member, rfl⟩
      exact ⟨q, ⟨object, inside, objects, given, member⟩, rfl⟩
  simp only [combined, mem_statements_allQuads, becomes.mem_terms_iff applied, fromPredicates,
    mem_slots_iff, slots]
  constructor
  · rintro ⟨object, inside, objects, given, subject, predicate, value, slot⟩
    obtain ⟨entry', numbered, realizes⟩ := exists_left_of_forall₂ whole.objects inside
    refine ⟨subject, predicate, ⟨_, List.fst_mem_of_mem_zipIdx numbered, ?_⟩, slot⟩
    exact (realizes.mem_values_iff given).mp value
  · rintro ⟨subject, predicate, ⟨object, listed, yields⟩, slot⟩
    obtain ⟨_, planned, inside, realizes⟩ := whole.exists_object listed
    obtain ⟨objects, given⟩ := found planned inside
    have value := (realizes.mem_values_iff given).mpr yields
    exact ⟨planned, inside, objects, given, subject, predicate, value, slot⟩

/-- A record that is mapped without a fault gives the statements that its triples map prescribes. -/
theorem MapPlan.Realizes.mem_statements_iff (realized : plan.Realizes ctx ledger d)
    {quads : List Quad} (ran : (plan.survey emitClasses record).outcome = .ok quads) :
    st ∈ quads.map Quad.statement ↔ Prescribes ctx record emitClasses d.map d.subjectMap st := by
  have becomes : d.subjectMap.termMap.Becomes ctx .subject plan.subject := ⟨_, realized.subject⟩
  obtain ⟨subjects, applied, ⟨rfl, rfl⟩ | ⟨-, subjectGraphs, named, each, members⟩⟩ :=
    survey_quads ran
  · refine iff_of_false List.not_mem_nil fun prescribed => ?_
    have subject : d.subjectMap.termMap.Yields ctx record .subject st.subject := by
      cases prescribed with
      | classOf _ subject _ _ => exact subject
      | ofMap subject _ _ _ _ _ => exact subject
    exact List.not_mem_nil ((becomes.mem_terms_iff applied).mpr subject)
  have classes : st ∈ (plan.classQuads emitClasses subjects subjectGraphs).map Quad.statement ↔ _ :=
    realized.mem_classStatements_iff applied named
  have combined : st ∈ quads.map Quad.statement ↔
      st ∈ (plan.classQuads emitClasses subjects subjectGraphs).map Quad.statement ∨
      ∃ pom ∈ plan.predicateObjects, ∃ statements,
        (surveyPredicateObject record subjects subjectGraphs pom).outcome = .ok statements ∧
          st ∈ statements.map Quad.statement := by
    simp only [List.mem_map, members]
    constructor
    · rintro ⟨q, inClass | ⟨pom, planned, statements, given, inside⟩, rfl⟩
      · exact .inl ⟨q, inClass, rfl⟩
      · exact .inr ⟨pom, planned, statements, given, q, inside, rfl⟩
    · rintro (⟨q, inClass, rfl⟩ | ⟨pom, planned, statements, given, q, inside, rfl⟩)
      · exact ⟨q, .inl inClass, rfl⟩
      · exact ⟨q, .inr ⟨pom, planned, statements, given, inside⟩, rfl⟩
  rw [combined, classes]
  obtain ⟨s, p, o, g⟩ := st
  constructor
  · rintro (⟨emits, subject, rfl, ⟨c, listed, rfl⟩, slot⟩ |
      ⟨pom, planned, statements, given, inside⟩)
    · exact .classOf emits subject listed slot
    · obtain ⟨entry, numbered, whole⟩ := exists_left_of_forall₂ realized.predicateObjects planned
      obtain ⟨subject, predicate, ⟨object, inMap, targets, yields⟩, slot⟩ :=
        (whole.mem_statements_iff realized applied named given).mp inside
      exact .ofMap subject (List.fst_mem_of_mem_zipIdx numbered) predicate inMap yields slot
  · intro prescribed
    cases prescribed with
    | classOf emits subject listed slot => exact .inl ⟨emits, subject, rfl, ⟨_, listed, rfl⟩, slot⟩
    | ofMap subject listed predicate inMap yields slot =>
      obtain ⟨i, pom, planned, whole⟩ := realized.exists_predicateObject listed
      obtain ⟨statements, given⟩ := each pom planned
      refine .inr ⟨pom, planned, statements, given, ?_⟩
      refine (whole.mem_statements_iff realized applied named given).mpr ?_
      exact ⟨subject, predicate, ⟨_, inMap, _, yields⟩, slot⟩

end

/--
When a record is mapped without a fault, its quads say just what the triples map
prescribes for it. Without a subject that is nothing, and no store and no join changes.
-/
theorem Plan.gives_prescribed {maps : List TriplesMap} {functions : Registry}
    {settings : Settings} {plan : Plan}
    (compiled : compile (.ofList maps) functions settings = .ok plan) {m : MapPlan}
    (member : m ∈ plan.maps) :
    let ctx : Context := ⟨.ofList maps, functions, settings.base⟩
    ∃ map subjectMap, maps[m.place]? = some map ∧ map.subjectMap = some subjectMap ∧
      ∀ emitClasses record l quads, (m.process emitClasses record l).2 = .ok quads →
        ((∀ s, ¬ subjectMap.termMap.Yields ctx record .subject s) →
          quads = [] ∧ (m.process emitClasses record l).1 = l) ∧
        ∀ st, st ∈ quads.map Quad.statement ↔
          Prescribes ctx record emitClasses map subjectMap st := by
  intro ctx
  have realized := realizes_of_compile compiled
  obtain ⟨d, listed, whole⟩ := realized.exists_driven member
  obtain ⟨found, driven⟩ := RuleGraph.mem_driven.mp listed
  refine ⟨d.map, d.subjectMap, ?_, driven, fun emitClasses record l quads processed => ?_⟩
  · rw [whole.place, ← RuleGraph.maps_ofList maps]
    exact found
  have ran := (m.process_takes emitClasses record l).2 quads processed
  refine ⟨fun silent => ?_, fun st => whole.mem_statements_iff ran⟩
  have becomes : d.subjectMap.termMap.Becomes ctx .subject m.subject := ⟨_, whole.subject⟩
  obtain ⟨subjects, applied, -⟩ := MapPlan.survey_quads ran
  have none : subjects = [] := by
    refine List.eq_nil_iff_forall_not_mem.mpr fun subject inside => ?_
    exact silent _ ((becomes.mem_terms_iff applied).mp (List.mem_map_of_mem inside))
  subst none
  have unchanged := MapPlan.process_of_no_subject applied emitClasses l
  rw [unchanged] at processed ⊢
  cases processed
  exact ⟨rfl, rfl⟩

namespace Books

/-- Titles stand in the default graph as well as on the shelf. -/
def title : PredicateObjectMap where
  predicateMaps := [.ofConstant (.iri "urn:title")]
  objectMaps := [.term (.ofReference "title")]
  graphMaps := [.ofConstant (.iri Vocabulary.defaultGraph)]

def subjectMap : SubjectMap where
  termMap := .ofReference "id"
  classes := ["urn:Book"]
  graphMaps := [.ofConstant (.iri "urn:shelf")]

def book : TriplesMap where
  iri := "urn:books"
  logicalSource := { source := "books" }
  subjectMap := some subjectMap
  predicateObjectMaps := [title]

def context : Context := ⟨.ofList [book], .empty, none⟩

def plan : Plan := ((Plan.compile (.ofList [book]) .empty {}).toOption).get rfl

theorem compiled : Plan.compile (.ofList [book]) .empty {} = .ok plan := rfl

def map : MapPlan := plan.maps[0]

def record : Record :=
  (Json.object [("id", .text "urn:b"), ("title", .array [.text "Ada", .null, .text "Or"])]).record

/-- A record without an identifier. -/
def nameless : Record := (Json.object [("title", .text "Ada")]).record

def quads : List Quad :=
  let shelf := some (Term.iri "urn:shelf").unrouted
  let subject := (Term.iri "urn:b").unrouted
  ⟨subject, (Term.iri Vocabulary.rdfType).unrouted, (Term.iri "urn:Book").unrouted, shelf⟩ ::
    ["Ada", "Or"].flatMap fun title => [shelf, none].map fun graph =>
      ⟨subject, (Term.iri "urn:title").unrouted, (Term.plain title).unrouted, graph⟩

theorem processed : (map.process true record plan.ledger).2 = .ok quads := by
  refine ok_of_toOption ?_
  decide +kernel

theorem processed_nameless : (map.process true nameless plan.ledger).2 = .ok [] := by
  refine ok_of_toOption ?_
  decide +kernel

theorem silent (s : Term) : ¬ subjectMap.termMap.Yields context nameless .subject s := by
  have becomes : subjectMap.termMap.Becomes context .subject map.subject := ⟨_, rfl⟩
  have applied : map.subject.apply nameless = .ok [] := by
    refine ok_of_toOption ?_
    decide +kernel
  rw [← becomes.mem_terms_iff applied]
  exact List.not_mem_nil

end Books

theorem books_give_prescribed :
    Plan.compile (.ofList [Books.book]) .empty {} = .ok Books.plan ∧
    (Books.map.process true Books.record Books.plan.ledger).2 = .ok Books.quads ∧
    Prescribes Books.context Books.record true Books.book Books.subjectMap
      ⟨.iri "urn:b", .iri "urn:title", .plain "Or", none⟩ ∧
    ¬ Prescribes Books.context Books.record true Books.book Books.subjectMap
      ⟨.iri "urn:b", .iri Vocabulary.rdfType, .iri "urn:Book", none⟩ ∧
    (Books.map.process true Books.nameless Books.plan.ledger).1 = Books.plan.ledger := by
  have member : Books.map ∈ Books.plan.maps := List.getElem_mem _
  obtain ⟨map, subjectMap, found, driven, gives⟩ := Plan.gives_prescribed Books.compiled member
  cases found
  cases driven
  obtain ⟨-, prescribed⟩ := gives _ _ _ _ Books.processed
  obtain ⟨nothing, -⟩ := gives _ _ _ _ Books.processed_nameless
  refine ⟨Books.compiled, Books.processed, (prescribed _).mp ?_, mt (prescribed _).mpr ?_,
    (nothing Books.silent).2⟩
  · decide +kernel
  · decide +kernel

end RdfMapping
