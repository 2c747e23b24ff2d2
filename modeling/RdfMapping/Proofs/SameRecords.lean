import RdfMapping.Proofs.FinishedRuns
import RdfMapping.Proofs.ReplacedReferences
import RdfMapping.Proofs.Targets

/-!
# References to the same record

A reference without conditions to a triples map that reads the same source takes the
parent's subjects from the child's own record. With an expression that tells the records
of that source apart, the reference can also ask both records to agree in it. Then it is
a join, and means the same: in a finished run it gives the same quads, each as many times
and with the same targets.
-/

namespace RdfMapping

/-- On each of these records the expression has one value, and on no two the same. -/
structure Record.Identifies (expression : String) (records : List Record) : Prop where
  value : ∀ record ∈ records, ∃ v, ∀ w, w ∈ record.valuesOf expression ↔ w = v
  different : records.Pairwise fun first next =>
    ∀ v ∈ first.valuesOf expression, v ∉ next.valuesOf expression

theorem agree_on_iff {key : String} {child parent : Record} : agree [⟨key, key⟩] child parent ↔
    ∃ v, v ∈ child.valuesOf key ∧ v ∈ parent.valuesOf key := by
  rw [agree_iff, List.forall_mem_singleton]

/-- No other record has the value that a record has for a key. -/
theorem Record.Identifies.filter_agree {key : String} {records : List Record}
    (identifies : Record.Identifies key records) {record : Record} (member : record ∈ records) :
    records.filter (agree [⟨key, key⟩] record) = [record] := by
  obtain ⟨v, only⟩ := identifies.value record member
  have itself : agree [⟨key, key⟩] record record :=
    agree_on_iff.mpr ⟨v, (only v).mpr rfl, (only v).mpr rfl⟩
  obtain ⟨before, after, rfl⟩ := List.append_of_mem member
  obtain ⟨-, here, earlier⟩ := List.pairwise_append.mp identifies.different
  obtain ⟨later, -⟩ := List.pairwise_cons.mp here
  have apart : ∀ other ∈ before ++ after, ¬ agree [⟨key, key⟩] record other := by
    intro other listed agrees
    obtain ⟨w, mine, theirs⟩ := agree_on_iff.mp agrees
    rcases List.mem_append.mp listed with inside | inside
    · exact earlier other inside record List.mem_cons_self w theirs mine
    · exact later other inside w mine theirs
  obtain ⟨none, noneAfter⟩ := List.forall_mem_append.mp apart
  rw [List.filter_append, List.filter_cons, if_pos itself, List.filter_eq_nil_iff.mpr none,
    List.filter_eq_nil_iff.mpr noneAfter, List.nil_append]

/-- A producer makes no term twice. -/
theorem Producer.nodup_terms (p : Producer) (record : Record) :
    ((foundIn (p.apply record)).map RoutedTerm.term).Nodup := by
  cases applied : p.apply record with
  | error f => exact List.nodup_nil
  | ok terms =>
    rw [apply] at applied
    split at applied
    · cases applied
      exact List.nodup_singleton _
    · obtain ⟨found, -, applied⟩ := bind_eq_ok_iff.mp applied
      obtain ⟨made, -, applied⟩ := bind_eq_ok_iff.mp applied
      cases applied
      rw [foundIn_ok, List.map_map]
      exact (List.map_id _).symm ▸ nodup_eraseDups made

/-- Every object with its quads, and every quad with its objects, are the same quads. -/
theorem allQuads_perm (subjects predicates objects : List RoutedTerm)
    (graphs : List (Option RoutedTerm)) : (allQuads subjects predicates objects graphs).Perm
      (objects.flatMap fun o => allQuads subjects predicates [o] graphs) := by
  induction objects with
  | nil => simp [allQuads]
  | cons o rest ih =>
    rw [List.flatMap_cons]
    refine List.Perm.trans (List.Perm.symm ?_) (ih.append_left _)
    refine (List.flatMap_append_perm subjects _ _).trans ?_
    refine List.Perm.flatMap_left subjects fun s _ => ?_
    refine (List.flatMap_append_perm predicates _ _).trans (List.Perm.of_eq ?_)
    simp only [List.flatMap_cons, List.flatMap_nil, List.append_nil]

namespace JoinSite

variable {site : JoinSite} {key : String} {records : List Record}

/-- A record agrees with itself only, so its partners are the parent's subjects on it. -/
theorem partners_of_identifies (asks : site.reference.conditions = [⟨key, key⟩])
    (identifies : Record.Identifies key records) {record : Record} (member : record ∈ records) :
    site.partners records record =
      (foundIn (site.parent.subject.apply record)).map RoutedTerm.term := by
  rw [partners, asks, identifies.filter_agree member, List.flatMap_singleton,
    List.dedup_eq_self.mpr (Producer.nodup_terms _ _)]

theorem childQuads_perm (asks : site.reference.conditions = [⟨key, key⟩])
    (identifies : Record.Identifies key records) {record : Record} (member : record ∈ records) :
    (site.childQuads records record).Perm (site.child.objectQuads site.predicateObject record
      (.sameRecord site.parent.subject site.reference.targets)) := by
  rw [childQuads, partners_of_identifies asks identifies member, MapPlan.objectQuads_sameRecord]
  refine List.Perm.trans (List.Perm.of_eq ?_) (allQuads_perm _ _ _ _).symm
  rw [List.flatMap_map, List.flatMap_map]

theorem nestedLoop_perm {deliver : Nat → List Record}
    (asks : site.reference.conditions = [⟨key, key⟩])
    (shared : deliver site.parent.place = deliver site.child.place)
    (identifies : Record.Identifies key (deliver site.child.place)) :
    (site.nestedLoop deliver).Perm ((deliver site.child.place).flatMap fun record =>
      site.child.objectQuads site.predicateObject record
        (.sameRecord site.parent.subject site.reference.targets)) := by
  rw [nestedLoop, shared]
  exact List.Perm.flatMap_left _ fun record member => childQuads_perm asks identifies member

end JoinSite

theorem MapPlan.Replaces.sameRecord_eq {m n : MapPlan} {i k : Nat} {object : ObjectPlan}
    (replaces : n.Replaces m i k object) {pom pom' : PredicateObjectPlan}
    (one : m.predicateObjects[i]? = some pom) (other : n.predicateObjects[i]? = some pom')
    {subject subject' : Producer} (same : subject'.apply = subject.apply) (targets : Targets)
    (record : Record) : n.objectQuads pom' record (.sameRecord subject' targets) =
      m.objectQuads pom record (.sameRecord subject targets) := by
  obtain ⟨predicates, graphs⟩ := replaces.terms one other
  rw [objectQuads_sameRecord, objectQuads_sameRecord, same, predicates, graphs, replaces.subject,
    replaces.subjectGraphs]

/-- In a plan, an object stands in a predicate-object map of the triples map of this place. -/
structure Plan.Holds (plan : Plan) (place i k : Nat) (m : MapPlan) (pom : PredicateObjectPlan)
    (object : ObjectPlan) : Prop where
  member : m ∈ plan.maps
  place : m.place = place
  inMap : m.predicateObjects[i]? = some pom
  inPom : pom.objects[k]? = some object

/-- An object map of a driven triples map has an object plan at the same place. -/
theorem Plan.Realizes.exists_holds {g : RuleGraph} {functions : Registry} {settings : Settings}
    {plan : Plan} (realized : plan.Realizes g functions settings) {d : Driven}
    (listed : d ∈ g.driven) {i k : Nat} {pom : PredicateObjectMap} {object : ObjectMap}
    (inMap : d.map.predicateObjectMaps[i]? = some pom) (inPom : pom.objectMaps[k]? = some object) :
    ∃ m p o, plan.Holds d.place i k m p o ∧
      m.Realizes ⟨g, functions, settings.base⟩ plan.ledger d ∧ ∃ label,
        o.Realizes ⟨g, functions, settings.base⟩ plan.ledger d.place d.map label object := by
  obtain ⟨m, member, whole⟩ := exists_right_of_forall₂ realized.maps listed
  obtain ⟨p, planned, part⟩ := exists_getElem?_of_forall₂ whole.predicateObjects inMap
  obtain ⟨o, standing, made⟩ := exists_getElem?_of_forall₂ part.objects inPom
  exact ⟨m, p, o, ⟨member, whole.place, planned, standing⟩, whole, _, made⟩

/-- A reference without conditions from a driven triples map to one with the same source. -/
structure SameRecordReference (maps : List TriplesMap) where
  /-- The child, its predicate-object map and the object map. -/
  place : Nat
  i : Nat
  k : Nat
  child : TriplesMap
  subjectMap : SubjectMap
  pom : PredicateObjectMap
  reference : ReferencingMap
  parent : TriplesMap
  stands : maps[place]? = some child
  driven : child.subjectMap = some subjectMap
  inMap : child.predicateObjectMaps[i]? = some pom
  inPom : pom.objectMaps[k]? = some (.reference reference)
  unconditional : reference.conditions = []
  referred : (RuleGraph.ofList maps).find? reference.parent = some parent
  shared : parent.logicalSource = child.logicalSource

namespace SameRecordReference

variable {maps : List TriplesMap}

/-- The same reference with one condition: that child and parent agree in the key. -/
def onKey (r : SameRecordReference maps) (key : String) : ReferencingMap :=
  { r.reference with conditions := [⟨key, key⟩] }

def childOnKey (r : SameRecordReference maps) (key : String) : TriplesMap :=
  r.child.replaceObject r.i r.k (.reference (r.onKey key))

/-- The same triples maps, but with that condition. -/
def joined (r : SameRecordReference maps) (key : String) : List TriplesMap :=
  maps.modify r.place (·.replaceObject r.i r.k (.reference (r.onKey key)))

end SameRecordReference

/-- The records for each place, when every triples map gets those of its logical source. -/
def RuleGraph.recordsFrom (g : RuleGraph) (deliver : LogicalSource → List Record) (place : Nat) :
    List Record :=
  (((g.get? place).map TriplesMap.logicalSource).map deliver).getD []

theorem RuleGraph.recordsFrom_of_get? {g : RuleGraph} {place : Nat} {map : TriplesMap}
    (found : g.get? place = some map) (deliver : LogicalSource → List Record) :
    g.recordsFrom deliver place = deliver map.logicalSource := by
  rw [recordsFrom, found]
  rfl

namespace SameRecordReference

variable {maps : List TriplesMap} (r : SameRecordReference maps) {key : String}
  {functions : Registry} {settings : Settings} {plan plan' : Plan}

theorem alike : (RuleGraph.ofList maps).Alike functions (.ofList (r.joined key)) :=
  RuleGraph.alike_replaceObject functions r.stands r.inMap r.inPom

theorem get?_place : (RuleGraph.ofList maps).get? r.place = some r.child := by
  rw [RuleGraph.get?, RuleGraph.maps_ofList, r.stands]

theorem get?_joined :
    (RuleGraph.ofList (r.joined key)).get? r.place = some (r.childOnKey key) := by
  rw [RuleGraph.get?, RuleGraph.maps_ofList, joined, List.getElem?_modify, r.stands]
  simp [childOnKey]

theorem recordsFrom_joined (deliver : LogicalSource → List Record) :
    (RuleGraph.ofList (r.joined key)).recordsFrom deliver =
      (RuleGraph.ofList maps).recordsFrom deliver := by
  have alike : (RuleGraph.ofList maps).Alike .empty (.ofList (r.joined key)) := r.alike
  funext place
  rw [RuleGraph.recordsFrom, RuleGraph.recordsFrom, alike.logicalSource]

/-- Without the condition, the reference is planned as the parent's subject. -/
theorem exists_sameRecord (realized : plan.Realizes (.ofList maps) functions settings) :
    ∃ m pom subject, plan.Holds r.place r.i r.k m pom (.sameRecord subject r.reference.targets) ∧
      m.Realizes ⟨.ofList maps, functions, settings.base⟩ plan.ledger
        ⟨r.place, r.child, r.subjectMap⟩ ∧
      ∃ parentMap, r.parent.subjectMap = some parentMap ∧ parentMap.termMap.Becomes
        ⟨.ofList maps, functions, settings.base⟩ .subject subject := by
  have listed : ⟨r.place, r.child, r.subjectMap⟩ ∈ (RuleGraph.ofList maps).driven :=
    RuleGraph.mem_driven.mpr ⟨r.get?_place, r.driven⟩
  obtain ⟨m, pom, object, holds, whole, label, made⟩ :=
    realized.exists_holds listed r.inMap r.inPom
  cases made with
  | @sameRecord _ parent parentMap subject found driven shared compiled =>
    cases r.referred.symm.trans found
    exact ⟨m, pom, _, holds, whole, _, driven, _, compiled⟩
  | join placed found driven apart registered stored =>
    have same : (RuleGraph.ofList maps).find? r.reference.parent = _ :=
      Option.bind_eq_some_iff.mpr ⟨_, placed, found⟩
    cases r.referred.symm.trans same
    exact (apart ⟨r.unconditional, r.shared⟩).elim

/-- The parent of the join is the triples map that the reference means. -/
theorem parent_of_registers
    (realized : plan'.Realizes (.ofList (r.joined key)) functions settings) {join : Nat}
    {site : JoinSite} (registers : plan'.Registers (.ofList (r.joined key)) join site)
    (refers : site.reference.parent = r.reference.parent) {parentMap : SubjectMap}
    (declared : r.parent.subjectMap = some parentMap) :
    (RuleGraph.ofList maps).get? site.parent.place = some r.parent ∧
      parentMap.termMap.Becomes ⟨.ofList maps, functions, settings.base⟩ .subject
        site.parent.subject := by
  have alike : (RuleGraph.ofList maps).Alike functions (.ofList (r.joined key)) := r.alike
  have placed := registers.referred
  rw [refers] at placed
  constructor
  · obtain ⟨place, here, there⟩ := Option.bind_eq_some_iff.mp r.referred
    rw [← alike.placeOf?, here] at placed
    cases placed
    exact there
  · obtain ⟨d, driven, whole⟩ := realized.exists_driven registers.parent
    obtain ⟨inGraph, declared'⟩ := RuleGraph.mem_driven.mp driven
    rw [← whole.place] at inGraph
    have found : (RuleGraph.ofList (r.joined key)).find? r.reference.parent = some d.map :=
      Option.bind_eq_some_iff.mpr ⟨_, placed, inGraph⟩
    obtain ⟨subjects, -⟩ := alike.find? r.referred found
    rw [declared, declared'] at subjects
    cases subjects
    have compiled := whole.subject
    rw [← Producer.compile_congr alike] at compiled
    exact ⟨_, compiled⟩

/-- With the condition, it is planned as a join whose parent has the same subjects. -/
theorem exists_join (realized : plan'.Realizes (.ofList (r.joined key)) functions settings)
    {parentMap : SubjectMap} (declared : r.parent.subjectMap = some parentMap) :
    ∃ n pom join parent, plan'.Holds r.place r.i r.k n pom (.join join [key]) ∧
      n.Realizes ⟨.ofList (r.joined key), functions, settings.base⟩ plan'.ledger
        ⟨r.place, r.childOnKey key, r.subjectMap⟩ ∧
      plan'.Registers (.ofList (r.joined key)) join ⟨n, parent, pom, r.onKey key⟩ ∧
      (RuleGraph.ofList maps).get? parent.place = some r.parent ∧
      parentMap.termMap.Becomes ⟨.ofList maps, functions, settings.base⟩ .subject
        parent.subject := by
  have listed : ⟨r.place, r.childOnKey key, r.subjectMap⟩ ∈
      (RuleGraph.ofList (r.joined key)).driven :=
    RuleGraph.mem_driven.mpr ⟨r.get?_joined, r.driven⟩
  have inMap : (r.childOnKey key).predicateObjectMaps[r.i]? =
      some { r.pom with objectMaps := r.pom.objectMaps.set r.k (.reference (r.onKey key)) } := by
    rw [childOnKey, TriplesMap.replaceObject, List.getElem?_modify, r.inMap]
    simp
  have inPom : (r.pom.objectMaps.set r.k (.reference (r.onKey key)))[r.k]? =
      some (.reference (r.onKey key)) :=
    List.getElem?_set_self (List.getElem?_eq_some_iff.mp r.inPom).1
  obtain ⟨n, pom, object, holds, whole, label, made⟩ := realized.exists_holds listed inMap inPom
  cases made with
  | sameRecord found driven shared compiled => cases shared.1
  | join placed found driven apart registered stored =>
    obtain ⟨map, source, reference, parent, atPlace, mapped, sourced, registers⟩ :=
      realized.exists_reference holds.member holds.inMap holds.inPom
    rw [holds.place, r.get?_joined] at atPlace
    cases atPlace
    cases inMap.symm.trans mapped
    cases inPom.symm.trans sourced
    have parents := r.parent_of_registers realized registers rfl declared
    exact ⟨n, pom, _, parent, holds, whole, registers, parents⟩

/-- What the plans without and with the condition have at the place of the reference. -/
structure Planned (r : SameRecordReference maps) (key : String) (plan plan' : Plan) (m : MapPlan)
    (pom : PredicateObjectPlan) (subject : Producer) (site : JoinSite) (join : Nat) : Prop where
  holds : plan.Holds r.place r.i r.k m pom (.sameRecord subject r.reference.targets)
  holds' : plan'.Holds r.place r.i r.k site.child site.predicateObject (.join join [key])
  replaces : site.child.Replaces m r.i r.k (.join 0 [key])
  registers : plan'.Registers (.ofList (r.joined key)) join site
  reference : site.reference = r.onKey key
  subject : site.parent.subject.apply = subject.apply
  parent : (RuleGraph.ofList maps).get? site.parent.place = some r.parent

theorem exists_planned (realized : plan.Realizes (.ofList maps) functions settings)
    (realized' : plan'.Realizes (.ofList (r.joined key)) functions settings) :
    ∃ m pom subject site join, r.Planned key plan plan' m pom subject site join := by
  obtain ⟨m, pom, subject, holds, whole, parentMap, declared, becomes⟩ :=
    r.exists_sameRecord realized
  obtain ⟨n, pom', join, parent, holds', whole', registers, atParent, becomes'⟩ :=
    r.exists_join realized' declared
  have alike : (RuleGraph.ofList maps).Alike functions (.ofList (r.joined key)) := r.alike
  have conditional : (r.onKey key).conditions ≠ [] := List.cons_ne_nil _ _
  have replaces : n.Replaces m r.i r.k (.join 0 [key]) := whole.replaces alike conditional whole'
  exact ⟨m, pom, subject, ⟨n, parent, pom', r.onKey key⟩, join, holds, holds', replaces, registers,
    rfl, becomes'.apply_eq becomes, atParent⟩

section

variable {r : SameRecordReference maps} {m : MapPlan} {pom : PredicateObjectPlan}
  {subject : Producer} {site : JoinSite} {join : Nat} {deliver : LogicalSource → List Record}
  {calls calls' : List Call} {s s' : Session}

/-- The child without and with the condition and the parent get the same records. -/
theorem Planned.recordsFrom (planned : r.Planned key plan plan' m pom subject site join)
    (deliver : LogicalSource → List Record) :
    (RuleGraph.ofList maps).recordsFrom deliver m.place = deliver r.child.logicalSource ∧
    (RuleGraph.ofList maps).recordsFrom deliver site.child.place =
      deliver r.child.logicalSource ∧
    (RuleGraph.ofList maps).recordsFrom deliver site.parent.place =
      deliver r.child.logicalSource := by
  refine ⟨?_, ?_, ?_⟩
  · rw [planned.holds.place, RuleGraph.recordsFrom_of_get? r.get?_place]
  · rw [planned.holds'.place, RuleGraph.recordsFrom_of_get? r.get?_place]
  · rw [RuleGraph.recordsFrom_of_get? planned.parent, r.shared]

/-- The join gives the quads that the parent's subjects have on the child's records. -/
theorem Planned.quadsOfJoin_perm (planned : r.Planned key plan plan' m pom subject site join)
    (realized : plan'.Realizes (.ofList (r.joined key)) functions settings)
    (identifies : Record.Identifies key (deliver r.child.logicalSource))
    (schedule : Schedule plan' ((RuleGraph.ofList maps).recordsFrom deliver) calls s)
    (finished : s.Finished plan') (succeed : ∀ call ∈ calls, call.succeeds) :
    (quadsOfJoin join calls).Perm ((deliver r.child.logicalSource).flatMap fun record =>
      m.objectQuads pom record (.sameRecord subject r.reference.targets)) := by
  obtain ⟨-, ofChild, ofParent⟩ := planned.recordsFrom deliver
  have asks : site.reference.conditions = [⟨key, key⟩] := by
    rw [planned.reference]
    rfl
  have targets : site.reference.targets = r.reference.targets := by
    rw [planned.reference]
    rfl
  have loop := schedule.quadsOfJoin_perm_of_finished realized finished succeed planned.registers
  have flat := site.nestedLoop_perm asks (ofParent.trans ofChild.symm) (ofChild ▸ identifies)
  refine loop.trans (flat.trans (List.Perm.of_eq ?_))
  rw [ofChild, targets]
  refine List.flatMap_congr fun record _ => ?_
  exact planned.replaces.sameRecord_eq planned.holds.inMap planned.holds'.inMap planned.subject _ _

/-- Without the condition, the child gives these quads in addition to its others. -/
theorem Planned.quadsOfRecords_perm (planned : r.Planned key plan plan' m pom subject site join)
    (realized : plan.Realizes (.ofList maps) functions settings)
    (realized' : plan'.Realizes (.ofList (r.joined key)) functions settings)
    (schedule : Schedule plan ((RuleGraph.ofList maps).recordsFrom deliver) calls s)
    (finished : s.Finished plan) (succeed : ∀ call ∈ calls, call.succeeds)
    (schedule' : Schedule plan' ((RuleGraph.ofList maps).recordsFrom deliver) calls' s')
    (finished' : s'.Finished plan') (succeed' : ∀ call ∈ calls', call.succeeds) :
    (quadsOfRecords r.place calls).Perm (quadsOfRecords r.place calls' ++
      (deliver r.child.logicalSource).flatMap fun record =>
        m.objectQuads pom record (.sameRecord subject r.reference.targets)) := by
  obtain ⟨ofFirst, ofNext, -⟩ := planned.recordsFrom deliver
  have first := schedule.quadsOfRecords_eq realized finished planned.holds.member
  have next := schedule'.quadsOfRecords_eq realized' finished' planned.holds'.member
  rw [ofFirst, planned.holds.place] at first
  rw [ofNext, planned.holds'.place] at next
  rw [first, next]
  refine List.Perm.trans ?_ (List.flatMap_append_perm _ _ _).symm
  refine List.Perm.flatMap_left _ fun record delivered => ?_
  obtain ⟨quads, ran⟩ := schedule.survey_ok_of_finished realized finished succeed
    planned.holds.member (ofFirst ▸ delivered)
  obtain ⟨rest, ran'⟩ := schedule'.survey_ok_of_finished realized' finished' succeed'
    planned.holds'.member (ofNext ▸ delivered)
  rw [ran, ran', foundIn_ok, foundIn_ok]
  rw [realized'.emitClasses, ← realized.emitClasses] at ran'
  exact planned.replaces.survey_perm planned.holds.inMap planned.holds.inPom ran ran'

end

/--
A reference without conditions and the same one on a key: in finished runs in which no
call fails, the parent's subjects on the child's records have the quads that the join
gives. So the child gives at once what it gives with the condition, and those.
-/
theorem agrees_with_join {maps : List TriplesMap} (r : SameRecordReference maps)
    {key : String} {functions : Registry} {settings : Settings} {plan plan' : Plan}
    (compiled : Plan.compile (.ofList maps) functions settings = .ok plan)
    (compiled' : Plan.compile (.ofList (r.joined key)) functions settings = .ok plan')
    {deliver : LogicalSource → List Record}
    (identifies : Record.Identifies key (deliver r.child.logicalSource))
    {calls calls' : List Call} {s s' : Session}
    (schedule : Schedule plan ((RuleGraph.ofList maps).recordsFrom deliver) calls s)
    (finished : s.Finished plan) (succeed : ∀ call ∈ calls, call.succeeds)
    (schedule' : Schedule plan' ((RuleGraph.ofList (r.joined key)).recordsFrom deliver) calls' s')
    (finished' : s'.Finished plan') (succeed' : ∀ call ∈ calls', call.succeeds) :
    ∃ m pom subject n pom' join,
      plan.Holds r.place r.i r.k m pom (.sameRecord subject r.reference.targets) ∧
      plan'.Holds r.place r.i r.k n pom' (.join join [key]) ∧
      ((deliver r.child.logicalSource).flatMap fun record =>
        m.objectQuads pom record (.sameRecord subject r.reference.targets)).Perm
          (quadsOfJoin join calls') ∧
      (quadsOfRecords r.place calls).Perm
        (quadsOfRecords r.place calls' ++ quadsOfJoin join calls') := by
  have realized := Plan.realizes_of_compile compiled
  have realized' := Plan.realizes_of_compile compiled'
  obtain ⟨m, pom, subject, site, join, planned⟩ := r.exists_planned realized realized'
  rw [r.recordsFrom_joined] at schedule'
  have joined := planned.quadsOfJoin_perm realized' identifies schedule' finished' succeed'
  have more := planned.quadsOfRecords_perm realized realized' schedule finished succeed schedule'
    finished' succeed'
  exact ⟨m, pom, subject, site.child, site.predicateObject, join, planned.holds, planned.holds',
    joined.symm, more.trans (joined.symm.append_left _)⟩

end SameRecordReference

namespace Badges

def person : TriplesMap where
  iri := "urn:person"
  logicalSource := { source := "people" }
  subjectMap := some { termMap := { reference := some "id", kind := some .blankNode } }
  predicateObjectMaps := [{
    predicateMaps := [.ofConstant (.iri "urn:wears")]
    objectMaps := [.reference { parent := "urn:badge", targets := .ofList ["gate"] }] }]

def badge : TriplesMap where
  iri := "urn:badge"
  logicalSource := { source := "people" }
  subjectMap := some { termMap := { reference := some "badge", kind := some .blankNode } }

def reference : SameRecordReference [person, badge] where
  place := 0
  i := 0
  k := 0
  child := person
  subjectMap := _
  pom := _
  reference := { parent := "urn:badge", targets := .ofList ["gate"] }
  parent := badge
  stands := rfl
  driven := rfl
  inMap := rfl
  inPom := rfl
  unconditional := rfl
  referred := rfl
  shared := rfl

def plan : Plan := ((Plan.compile (.ofList [person, badge]) .empty {}).toOption).get rfl

def planOnKey : Plan :=
  ((Plan.compile (.ofList (reference.joined "id")) .empty {}).toOption).get rfl

/-- Ann has two badges, Bob has none. -/
def people (_ : LogicalSource) : List Record :=
  [Teams.record [("id", ["ann"]), ("badge", ["red", "blue"])], Teams.record [("id", ["bob"])]]

theorem identifies (source : LogicalSource) : Record.Identifies "id" (people source) := by
  constructor
  · intro record member
    rcases List.mem_cons.mp member with rfl | last
    · exact ⟨"ann", fun w => List.mem_singleton⟩
    · rw [List.mem_singleton.mp last]
      exact ⟨"bob", fun w => List.mem_singleton⟩
  · refine List.pairwise_pair.mpr ?_
    decide

theorem compiled : Plan.compile (.ofList [person, badge]) .empty {} = .ok plan := rfl

theorem compiledOnKey : Plan.compile (.ofList (reference.joined "id")) .empty {} =
    .ok planOnKey := rfl

def run (maps : List TriplesMap) (plan : Plan) : List Call × Session :=
  Session.turns plan ((RuleGraph.ofList maps).recordsFrom people)
    ([0, 1, 0, 1, 0, 1, 1].filterMap fun (i : Nat) => plan.maps[i]?)

theorem schedule (maps : List TriplesMap) (plan : Plan) :
    Schedule plan ((RuleGraph.ofList maps).recordsFrom people) (run maps plan).1
      (run maps plan).2 := by
  refine Schedule.turns _ fun m member => ?_
  obtain ⟨i, -, found⟩ := List.mem_filterMap.mp member
  exact List.mem_of_getElem? found

end Badges

theorem badges_agree_with_join :
    let run := Badges.run [Badges.person, Badges.badge] Badges.plan
    let runOnKey := Badges.run (Badges.reference.joined "id") Badges.planOnKey
    run.2.Finished Badges.plan ∧ (∀ call ∈ run.1, call.succeeds) ∧
    runOnKey.2.Finished Badges.planOnKey ∧ (∀ call ∈ runOnKey.1, call.succeeds) ∧
    (quadsOfRecords 0 run.1).length = 2 ∧ quadsOfRecords 0 runOnKey.1 = [] ∧
    ∃ join, (quadsOfRecords 0 run.1).Perm
      (quadsOfRecords 0 runOnKey.1 ++ quadsOfJoin join runOnKey.1) := by
  intro run runOnKey
  have finished : run.2.Finished Badges.plan := by decide +kernel
  have succeed : ∀ call ∈ run.1, call.succeeds := by decide +kernel
  have finishedOnKey : runOnKey.2.Finished Badges.planOnKey := by decide +kernel
  have succeedOnKey : ∀ call ∈ runOnKey.1, call.succeeds := by decide +kernel
  obtain ⟨-, -, -, -, -, join, -, -, -, perm⟩ := Badges.reference.agrees_with_join Badges.compiled
    Badges.compiledOnKey (Badges.identifies _) (Badges.schedule _ _) finished succeed
    (Badges.schedule _ _) finishedOnKey succeedOnKey
  exact ⟨finished, succeed, finishedOnKey, succeedOnKey, by decide +kernel, by decide +kernel, join,
    perm⟩

end RdfMapping
