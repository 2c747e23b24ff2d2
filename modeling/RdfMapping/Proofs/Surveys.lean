import RdfMapping.Proofs.Outcomes
import RdfMapping.Proofs.Producers
import RdfMapping.Proofs.Realization

/-!
# What records give and post

A triples map posts only to the stores that it fills as a parent and to its own
joins. The terms that it puts into quads and postings are those of its producers,
each in its position; the faults are those of its producers and of the record.
-/

namespace RdfMapping

/-- Every posting is of the kind `posted`, and the outcome settles. -/
structure Survey.Meets {α : Type} (s : Survey α) (posted : Posting → Prop) (raised : Fault → Prop)
    (given : α → Prop) : Prop where
  postings : ∀ posting ∈ s.postings, posted posting
  outcome : Settles s.outcome raised given

namespace Survey.Meets

variable {α β : Type} {posted : Posting → Prop} {raised : Fault → Prop} {given : α → Prop}

theorem pure {a : α} (holds : given a) : Meets (Pure.pure a) posted raised given :=
  ⟨fun _ member => (List.not_mem_nil member).elim, holds⟩

theorem lift {x : Except Fault α} (settles : Settles x raised given) :
    Meets (Survey.lift x) posted raised given :=
  ⟨fun _ member => (List.not_mem_nil member).elim, settles⟩

theorem post {postings : List Posting} (each : ∀ posting ∈ postings, posted posting) :
    Meets (Survey.post postings) posted raised fun _ => True :=
  ⟨each, trivial⟩

theorem weaken {s : Survey α} {weaker : Posting → Prop} (meets : s.Meets posted raised given)
    (each : ∀ posting, posted posting → weaker posting) : s.Meets weaker raised given :=
  ⟨fun posting member => each posting (meets.postings posting member), meets.outcome⟩

theorem bind {next : β → Prop} {s : Survey α} {f : α → Survey β}
    (first : s.Meets posted raised given) (rest : ∀ a, given a → (f a).Meets posted raised next) :
    (s >>= f).Meets posted raised next := by
  obtain ⟨postings, outcome⟩ := s
  cases outcome with
  | error f => exact ⟨first.postings, first.outcome⟩
  | ok a =>
    have after := rest a first.outcome
    refine ⟨fun posting member => ?_, after.outcome⟩
    rcases List.mem_append.mp member with earlier | later
    · exact first.postings posting earlier
    · exact after.postings posting later

theorem mapM {holds : β → Prop} {f : α → Survey β} {xs : List α}
    (each : ∀ a ∈ xs, (f a).Meets posted raised holds) :
    (xs.mapM f).Meets posted raised fun bs => ∀ b ∈ bs, holds b := by
  induction xs with
  | nil =>
    rw [List.mapM_nil]
    exact pure fun b member => (List.not_mem_nil member).elim
  | cons a xs ih =>
    rw [List.mapM_cons]
    refine (each a List.mem_cons_self).bind fun b first => ?_
    refine (ih fun a member => each a (List.mem_cons_of_mem _ member)).bind fun bs rest => ?_
    exact pure (List.forall_mem_cons.mpr ⟨first, rest⟩)

theorem forM {f : α → Survey Unit} {xs : List α}
    (each : ∀ a ∈ xs, (f a).Meets posted raised fun _ => True) :
    (xs.forM f).Meets posted raised fun _ => True := by
  induction xs with
  | nil => exact pure trivial
  | cons a xs ih =>
    change (f a >>= fun _ => xs.forM f).Meets posted raised _
    refine (each a List.mem_cons_self).bind fun _ _ => ?_
    exact ih fun a member => each a (List.mem_cons_of_mem _ member)

end Survey.Meets

/-- What is asked of a term in a position. -/
abbrev Roles := Position → Term → Prop

/-- A graph that is named is a graph for a quad, and not the default graph. -/
def Roles.Names (roles : Roles) (slot : Option RoutedTerm) : Prop :=
  ∀ graph, slot = some graph → roles .graph graph.term ∧ graphSlot graph = some graph

structure Quad.Fits (roles : Roles) (q : Quad) : Prop where
  subject : roles .subject q.subject.term
  predicate : roles .predicate q.predicate.term
  object : roles .object q.object.term
  graph : roles.Names q.graph

structure ChildEntry.Fits (roles : Roles) (entry : ChildEntry) : Prop where
  subjects : ∀ t ∈ entry.subjects, roles .subject t.term
  predicates : ∀ t ∈ entry.predicates, roles .predicate t.term
  graphs : ∀ slot ∈ entry.graphs, roles.Names slot

def Posting.Fits (roles : Roles) : Posting → Prop
  | .parent _ _ subject => roles .subject subject
  | .child _ entry => entry.Fits roles

theorem allQuads_fit {roles : Roles} {subjects predicates objects : List RoutedTerm}
    {graphs : List (Option RoutedTerm)} (fromSubjects : ∀ t ∈ subjects, roles .subject t.term)
    (fromPredicates : ∀ t ∈ predicates, roles .predicate t.term)
    (fromObjects : ∀ t ∈ objects, roles .object t.term)
    (fromGraphs : ∀ slot ∈ graphs, roles.Names slot) :
    ∀ q ∈ allQuads subjects predicates objects graphs, q.Fits roles := by
  intro q member
  simp only [allQuads, List.mem_flatMap, List.mem_map] at member
  obtain ⟨s, subject, p, predicate, o, object, g, graph, rfl⟩ := member
  exact ⟨fromSubjects s subject, fromPredicates p predicate, fromObjects o object,
    fromGraphs g graph⟩

theorem graphSlot_eq {graph slot : RoutedTerm} (found : graphSlot graph = some slot) :
    slot = graph := by
  rw [graphSlot] at found
  split at found
  · split at found
    · cases found
    · exact (Option.some.inj found).symm
  · exact (Option.some.inj found).symm

theorem graphSlots_name {roles : Roles} {graphs : List RoutedTerm}
    (fromGraphs : ∀ t ∈ graphs, roles .graph t.term) :
    ∀ slot ∈ graphSlots graphs, roles.Names slot := by
  intro slot member graph named
  rw [graphSlots] at member
  split at member
  · rw [List.mem_singleton.mp member] at named
    cases named
  · obtain ⟨t, inside, same⟩ := List.mem_map.mp (List.mem_eraseDups.mp member)
    rw [named] at same
    cases graphSlot_eq same
    exact ⟨fromGraphs _ inside, same⟩

section

variable {record : Record} {raised : Fault → Prop}

theorem eraseDupsBy_subset {α : Type} (same : α → α → Bool) (xs : List α) :
    xs.eraseDupsBy same ⊆ xs := by
  induction h : xs.length using Nat.strongRecOn generalizing xs with
  | ind n ih =>
    cases xs with
    | nil => simp
    | cons a rest =>
      rw [List.eraseDupsBy_cons]
      have shorter : (rest.filter fun b => same b a = false).length < n := by
        have := List.length_filter_le (fun b => same b a = false) rest
        simp only [List.length_cons] at h
        omega
      refine List.cons_subset_cons a fun b member => ?_
      exact (List.mem_filter.mp (ih _ shorter _ rfl member)).1

theorem nodup_eraseDups {α : Type} [BEq α] [LawfulBEq α] (xs : List α) : xs.eraseDups.Nodup := by
  induction h : xs.length using Nat.strongRecOn generalizing xs with
  | ind n ih =>
    cases xs with
    | nil => exact List.nodup_nil
    | cons x xs =>
      have shorter : (xs.filter fun y => !y == x).length < n := by
        have := List.length_filter_le (fun y => !y == x) xs
        simp only [List.length_cons] at h
        omega
      rw [List.eraseDups_cons]
      refine List.nodup_cons.mpr ⟨fun member => ?_, ih _ shorter _ rfl⟩
      obtain ⟨-, apart⟩ := List.mem_filter.mp (List.mem_eraseDups.mp member)
      simp at apart

theorem applyAll_settles {given : Term → Prop} {producers : List Producer}
    (each : ∀ p ∈ producers, Settles (p.apply record) raised fun terms =>
      ∀ t ∈ terms, given t.term) :
    Settles (applyAll producers record) raised fun terms => ∀ t ∈ terms, given t.term := by
  refine (Settles.mapM each).bind fun found made t member => ?_
  obtain ⟨terms, inside, member⟩ := List.mem_flatten.mp (eraseDupsBy_subset _ _ member)
  exact made terms inside t member

theorem Record.joinKeys_settles (evaluated : ∀ e, Settles (record.evaluate e) raised fun _ => True)
    (expressions : List String) :
    Settles (record.joinKeys expressions) raised fun _ => True := by
  suffices from' : ∀ keys, Settles (record.keysFrom keys expressions) raised fun _ => True from
    from' [[]]
  induction expressions with
  | nil => exact fun _ => trivial
  | cons e rest ih =>
    intro keys
    have first : Settles (record.present e) raised fun _ => True :=
      (evaluated e).map fun _ _ => trivial
    rw [keysFrom]
    split
    · rename_i f failed
      rwa [failed] at first
    · trivial
    · exact ih _

end

/-- The stores and joins that a triples map posts to. -/
def MapPlan.Owns (plan : MapPlan) : Posting → Prop
  | .parent store _ _ => ∃ expressions, (expressions, store) ∈ plan.parentKeys
  | .child join _ => join ∈ plan.joins

/-- The objects that do not come from a join fit their position. -/
def ObjectPlan.Supplies (record : Record) (raised : Fault → Prop) (roles : Roles) :
    ObjectPlan → Prop
  | .term p | .sameRecord p _ =>
    Settles (p.apply record) raised fun terms => ∀ t ∈ terms, roles .object t.term
  | .join .. => True

/-- The producers of a triples map give terms that fit their positions. -/
structure MapPlan.Supplies (plan : MapPlan) (record : Record) (raised : Fault → Prop)
    (roles : Roles) : Prop where
  expressions : ∀ e, Settles (record.evaluate e) raised fun _ => True
  subject : Settles (plan.subject.apply record) raised fun terms =>
    ∀ t ∈ terms, roles .subject t.term
  subjectGraphs : ∀ p ∈ plan.subjectGraphs, Settles (p.apply record) raised fun terms =>
    ∀ t ∈ terms, roles .graph t.term
  classes : ∀ c ∈ plan.classes, roles .object c.term
  rdfType : roles .predicate (.iri Vocabulary.rdfType)
  predicates : ∀ pom ∈ plan.predicateObjects, ∀ p ∈ pom.predicates,
    Settles (p.apply record) raised fun terms => ∀ t ∈ terms, roles .predicate t.term
  graphs : ∀ pom ∈ plan.predicateObjects, ∀ p ∈ pom.graphs,
    Settles (p.apply record) raised fun terms => ∀ t ∈ terms, roles .graph t.term
  objects : ∀ pom ∈ plan.predicateObjects, ∀ object ∈ pom.objects,
    object.Supplies record raised roles

namespace MapPlan

variable {plan : MapPlan} {record : Record} {raised : Fault → Prop} {roles : Roles}

theorem surveyObject_meets (supplies : plan.Supplies record raised roles)
    {pom : PredicateObjectPlan} (member : pom ∈ plan.predicateObjects)
    {subjects predicates : List RoutedTerm} {graphs : List (Option RoutedTerm)}
    (fromSubjects : ∀ t ∈ subjects, roles .subject t.term)
    (fromPredicates : ∀ t ∈ predicates, roles .predicate t.term)
    (fromGraphs : ∀ slot ∈ graphs, roles.Names slot)
    {object : ObjectPlan} (inside : object ∈ pom.objects) :
    (surveyObject record subjects predicates graphs object).Meets
      (fun posting => plan.Owns posting ∧ posting.Fits roles) raised
      fun quads => ∀ q ∈ quads, q.Fits roles := by
  have supplied := supplies.objects pom member object inside
  cases object with
  | term producer =>
    refine (Survey.Meets.lift supplied).bind fun objects fromObjects => ?_
    exact .pure (allQuads_fit fromSubjects fromPredicates fromObjects fromGraphs)
  | sameRecord subject targets =>
    refine (Survey.Meets.lift supplied).bind fun objects fromObjects => ?_
    refine .pure (allQuads_fit fromSubjects fromPredicates ?_ fromGraphs)
    exact List.forall_mem_map.mpr fromObjects
  | join join expressions =>
    refine (Survey.Meets.lift (record.joinKeys_settles supplies.expressions expressions)).bind
      fun keys _ => ?_
    refine (Survey.Meets.post ?_).bind fun _ _ => .pure fun q member => (List.not_mem_nil member).elim
    intro posting posted
    split at posted
    · exact (List.not_mem_nil posted).elim
    · rw [List.mem_singleton.mp posted]
      refine ⟨?_, fromSubjects, fromPredicates, fromGraphs⟩
      have listed : join ∈ pom.joins := List.mem_flatMap.mpr ⟨_, inside, List.mem_singleton_self _⟩
      exact List.mem_flatMap.mpr ⟨pom, member, listed⟩

theorem surveyPredicateObject_meets (supplies : plan.Supplies record raised roles)
    {subjects subjectGraphs : List RoutedTerm}
    (fromSubjects : ∀ t ∈ subjects, roles .subject t.term)
    (fromSubjectGraphs : ∀ t ∈ subjectGraphs, roles .graph t.term)
    {pom : PredicateObjectPlan} (member : pom ∈ plan.predicateObjects) :
    (surveyPredicateObject record subjects subjectGraphs pom).Meets
      (fun posting => plan.Owns posting ∧ posting.Fits roles) raised
      fun quads => ∀ q ∈ quads, q.Fits roles := by
  have predicates := applyAll_settles (supplies.predicates pom member)
  refine (Survey.Meets.lift predicates).bind fun predicates fromPredicates => ?_
  split
  · exact .pure fun q member => (List.not_mem_nil member).elim
  · have graphs := applyAll_settles (supplies.graphs pom member)
    refine (Survey.Meets.lift graphs).bind fun graphs fromGraphs => ?_
    have slots : ∀ slot ∈ graphSlots (subjectGraphs ++ graphs), roles.Names slot :=
      graphSlots_name (List.forall_mem_append.mpr ⟨fromSubjectGraphs, fromGraphs⟩)
    refine (Survey.Meets.mapM fun object inside =>
      surveyObject_meets supplies member fromSubjects fromPredicates slots inside).bind
      fun quads fit => .pure fun q member => ?_
    obtain ⟨from', inside, member⟩ := List.mem_flatten.mp member
    exact fit from' inside q member

theorem surveyParent_meets (supplies : plan.Supplies record raised roles)
    {subjects : List RoutedTerm} (fromSubjects : ∀ t ∈ subjects, roles .subject t.term)
    {key : List String × Nat} (member : key ∈ plan.parentKeys) :
    (surveyParent record subjects key).Meets
      (fun posting => plan.Owns posting ∧ posting.Fits roles) raised fun _ => True := by
  refine (Survey.Meets.lift (record.joinKeys_settles supplies.expressions key.1)).bind
    fun keys _ => .post fun posting posted => ?_
  simp only [List.mem_flatMap, List.mem_map] at posted
  obtain ⟨k, -, subject, inside, rfl⟩ := posted
  exact ⟨⟨key.1, member⟩, fromSubjects subject inside⟩

/-- All that a record posts and gives fits the positions, and faults are raised by the parts. -/
theorem survey_meets (supplies : plan.Supplies record raised roles) (emitClasses : Bool) :
    (plan.survey emitClasses record).Meets
      (fun posting => plan.Owns posting ∧ posting.Fits roles) raised
      fun quads => ∀ q ∈ quads, q.Fits roles := by
  refine (Survey.Meets.lift supplies.subject).bind fun subjects fromSubjects => ?_
  split
  · exact .pure fun q member => (List.not_mem_nil member).elim
  refine (Survey.Meets.forM fun key member =>
    surveyParent_meets supplies fromSubjects member).bind fun _ _ => ?_
  have graphs := applyAll_settles supplies.subjectGraphs
  refine (Survey.Meets.lift graphs).bind fun subjectGraphs fromGraphs => ?_
  refine (Survey.Meets.mapM fun pom member =>
    surveyPredicateObject_meets supplies fromSubjects fromGraphs member).bind
    fun statements fit => .pure ?_
  refine List.forall_mem_append.mpr ⟨?_, ?_⟩
  · rw [classQuads]
    split
    · exact allQuads_fit fromSubjects (List.forall_mem_singleton.mpr supplies.rdfType)
        supplies.classes (graphSlots_name fromGraphs)
    · exact fun q member => (List.not_mem_nil member).elim
  · intro q member
    obtain ⟨quads, inside, member⟩ := List.mem_flatten.mp member
    exact fit quads inside q member

end MapPlan

/-- The term maps written in a triples map. -/
def TriplesMap.termMaps (m : TriplesMap) : List TermMap :=
  (match m.subjectMap with
    | some s => s.termMap :: s.graphMaps
    | none => [])
  ++ m.predicateObjectMaps.flatMap fun pom => pom.predicateMaps ++ pom.graphMaps
    ++ pom.objectMaps.filterMap fun
      | .term m => some m
      | .reference _ => none

def RuleGraph.termMaps (g : RuleGraph) : List TermMap := g.maps.flatMap TriplesMap.termMaps

theorem RuleGraph.mem_driven {g : RuleGraph} {d : Driven} : d ∈ g.driven ↔
    g.get? d.place = some d.map ∧ d.map.subjectMap = some d.subjectMap := by
  simp only [driven, List.mem_filterMap, Prod.exists, List.mk_mem_zipIdx_iff_getElem?, Driven.of?,
    Option.map_eq_some_iff, get?]
  constructor
  · rintro ⟨map, place, found, subjectMap, driven, rfl⟩
    exact ⟨found, driven⟩
  · rintro ⟨found, driven⟩
    exact ⟨d.map, d.place, found, d.subjectMap, driven, rfl⟩

theorem RuleGraph.mem_termMaps {g : RuleGraph} {place : Nat} {map : TriplesMap} {m : TermMap}
    (found : g.get? place = some map) (member : m ∈ map.termMaps) : m ∈ g.termMaps :=
  List.mem_flatMap.mpr ⟨map, List.mem_of_getElem? found, member⟩

theorem TriplesMap.subject_mem_termMaps {map : TriplesMap} {s : SubjectMap}
    (driven : map.subjectMap = some s) : s.termMap ∈ map.termMaps := by
  simp [termMaps, driven]

theorem TriplesMap.mem_termMaps {map : TriplesMap} {pom : PredicateObjectMap} {m : TermMap}
    (listed : pom ∈ map.predicateObjectMaps)
    (inside : m ∈ pom.predicateMaps ∨ m ∈ pom.graphMaps ∨ .term m ∈ pom.objectMaps) :
    m ∈ map.termMaps := by
  refine List.mem_append_right _ (List.mem_flatMap.mpr ⟨pom, listed, ?_⟩)
  rcases inside with predicate | graph | object
  · exact List.mem_append_left _ (List.mem_append_left _ predicate)
  · exact List.mem_append_left _ (List.mem_append_right _ graph)
  · exact List.mem_append_right _ (List.mem_filterMap.mpr ⟨_, object, rfl⟩)

/-- Every term map of the graph that compiles by itself gives terms that fit. -/
def Context.Supplies (ctx : Context) (record : Record) (raised : Fault → Prop) (roles : Roles) :
    Prop :=
  ∀ m ∈ ctx.graph.termMaps, ∀ label position p, Producer.compile ctx label m position = .ok p →
    Settles (p.apply record) raised fun terms => ∀ t ∈ terms, roles position t.term

section

variable {ctx : Context} {ledger : Ledger} {record : Record} {raised : Fault → Prop} {roles : Roles}

theorem Producer.RealizeAll.supplied {label : String} {position : Position} {maps : List TermMap}
    {producers : List Producer} (realized : RealizeAll ctx label position maps producers)
    (supplies : ctx.Supplies record raised roles) (written : ∀ m ∈ maps, m ∈ ctx.graph.termMaps) :
    ∀ p ∈ producers, Settles (p.apply record) raised fun terms =>
      ∀ t ∈ terms, roles position t.term := by
  intro p member
  obtain ⟨entry, numbered, compiled⟩ := exists_left_of_forall₂ realized member
  exact supplies _ (written _ (List.fst_mem_of_mem_zipIdx numbered)) _ _ p compiled

/-- A parent on the same record puts its subject where an object stands. -/
theorem ObjectPlan.Realizes.supplies {place : Nat} {map : TriplesMap} {label : String}
    {object : ObjectMap} {plan : ObjectPlan}
    (realized : plan.Realizes ctx ledger place map label object)
    (supplies : ctx.Supplies record raised roles)
    (written : ∀ m, object = .term m → m ∈ ctx.graph.termMaps)
    (subjectsAreObjects : ∀ t, roles .subject t → roles .object t) :
    plan.Supplies record raised roles := by
  cases realized with
  | term compiled => exact supplies _ (written _ rfl) _ _ _ compiled
  | sameRecord found driven shared compiled =>
    obtain ⟨place, -, parent⟩ := Option.bind_eq_some_iff.mp found
    have subject := RuleGraph.mem_termMaps parent (TriplesMap.subject_mem_termMaps driven)
    exact (supplies _ subject _ _ _ compiled).imp (fun _ raised => raised)
      fun terms fit t member => subjectsAreObjects _ (fit t member)
  | join placed found driven apart registered stored => trivial

/-- What holds of the terms of every term map holds of the terms of the plan. -/
theorem MapPlan.Realizes.supplies {d : Driven} {plan : MapPlan}
    (realized : plan.Realizes ctx ledger d) (listed : d ∈ ctx.graph.driven)
    (evaluated : ∀ e, Settles (record.evaluate e) raised fun _ => True)
    (supplies : ctx.Supplies record raised roles)
    (classes : ∀ c ∈ d.subjectMap.classes, roles .object (.iri c))
    (rdfType : roles .predicate (.iri Vocabulary.rdfType))
    (subjectsAreObjects : ∀ t, roles .subject t → roles .object t) :
    plan.Supplies record raised roles := by
  obtain ⟨found, driven⟩ := RuleGraph.mem_driven.mp listed
  have written : ∀ m ∈ d.map.termMaps, m ∈ ctx.graph.termMaps := fun m member =>
    RuleGraph.mem_termMaps found member
  have poms : ∀ pom ∈ plan.predicateObjects, ∃ m ∈ d.map.predicateObjectMaps, ∃ i,
      PredicateObjectPlan.Realizes ctx ledger d.place d.map (m, i) pom := by
    intro pom member
    obtain ⟨entry, numbered, realizes⟩ := exists_left_of_forall₂ realized.predicateObjects member
    exact ⟨entry.1, List.fst_mem_of_mem_zipIdx numbered, entry.2, realizes⟩
  refine ⟨evaluated, ?_, ?_, ?_, rdfType, ?_, ?_, ?_⟩
  · exact supplies _ (written _ (TriplesMap.subject_mem_termMaps driven)) _ _ _ realized.subject
  · refine realized.subjectGraphs.supplied supplies fun m member => written m ?_
    simp [TriplesMap.termMaps, driven, member]
  · rw [realized.classes]
    exact List.forall_mem_map.mpr classes
  · intro pom member
    obtain ⟨m, listed, i, realizes⟩ := poms pom member
    exact realizes.predicates.supplied supplies fun n predicate =>
      written n (TriplesMap.mem_termMaps listed (.inl predicate))
  · intro pom member
    obtain ⟨m, listed, i, realizes⟩ := poms pom member
    exact realizes.graphs.supplied supplies fun n graph =>
      written n (TriplesMap.mem_termMaps listed (.inr (.inl graph)))
  · intro pom member object inside
    obtain ⟨m, listed, i, realizes⟩ := poms pom member
    obtain ⟨entry, numbered, made⟩ := exists_left_of_forall₂ realizes.objects inside
    refine made.supplies supplies (fun n term => written n ?_) subjectsAreObjects
    exact TriplesMap.mem_termMaps listed
      (.inr (.inr (term ▸ List.fst_mem_of_mem_zipIdx numbered)))

end

end RdfMapping
