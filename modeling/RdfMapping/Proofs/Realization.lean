import Mathlib.Data.List.Forall2
import RdfMapping.Plan.Compile

/-!
# What a rule graph has to give

Two readings of a rule graph, each made of single term maps compiled by
themselves: the faults it has, and the plan it has when there are none. A plan
realizes a rule graph when it has one entry for every driven triples map, term
map and object map, in the order of the graph.
-/

namespace RdfMapping

/-- A triples map with a subject, and its place. -/
structure Driven where
  place : Nat
  map : TriplesMap
  subjectMap : SubjectMap

namespace Driven

def of? (entry : TriplesMap × Nat) : Option Driven :=
  entry.1.subjectMap.map fun subjectMap => ⟨entry.2, entry.1, subjectMap⟩

end Driven

def RuleGraph.driven (g : RuleGraph) : List Driven := g.maps.zipIdx.filterMap Driven.of?

/-- The fault of what failed. -/
def faultOf {α : Type} : Except Fault α → List Fault
  | .ok _ => []
  | .error f => [f]

namespace RuleGraph

/-- The faults of numbered term maps of one position. -/
def termFaults (ctx : Context) (label : String) (maps : List TermMap) (position : Position) :
    List Fault :=
  maps.zipIdx.flatMap fun (m, i) =>
    faultOf (Producer.compile ctx (label ++ " " ++ toString i) m position)

/-- A reference fails if its parent is unknown or has no subject, or if it needs the parent's
subject on the same record and that fails. -/
def referenceFaults (ctx : Context) (map : TriplesMap) (label : String)
    (reference : ReferencingMap) : List Fault :=
  match ctx.graph.find? reference.parent with
  | none => [.unknownTriplesMap reference.parent]
  | some parent => match parent.subjectMap with
    | none => [Fault.parentWithoutSubject label parent.iri]
    | some subjectMap =>
      if reference.conditions = [] ∧ parent.logicalSource = map.logicalSource then
        faultOf (Producer.compile ctx (label ++ " parent subject") subjectMap.termMap .subject)
      else []

def objectFaults (ctx : Context) (map : TriplesMap) (label : String) : ObjectMap → List Fault
  | .term m => faultOf (Producer.compile ctx label m .object)
  | .reference r => referenceFaults ctx map label r

def predicateObjectFaults (ctx : Context) (map : TriplesMap) (m : PredicateObjectMap) (i : Nat) :
    List Fault :=
  let label := map.iri ++ " predicate-object map " ++ toString i
  termFaults ctx (label ++ " predicate") m.predicateMaps .predicate
    ++ termFaults ctx (label ++ " graph") m.graphMaps .graph
    ++ m.objectMaps.zipIdx.flatMap fun (object, j) =>
      objectFaults ctx map (label ++ " object " ++ toString j) object

def mapFaults (ctx : Context) (d : Driven) : List Fault :=
  faultOf (Producer.compile ctx (d.map.iri ++ " subject map") d.subjectMap.termMap .subject)
    ++ termFaults ctx (d.map.iri ++ " subject graph map") d.subjectMap.graphMaps .graph
    ++ d.map.predicateObjectMaps.zipIdx.flatMap fun (m, i) =>
      predicateObjectFaults ctx d.map m i

/-- All faults of a rule graph under some settings, in the order in which they are reported. -/
def faults (g : RuleGraph) (functions : Registry) (settings : Settings) : List Fault :=
  Plan.preliminaryFaults g settings
    ++ g.driven.flatMap (mapFaults ⟨g, functions, settings.base⟩)

end RuleGraph

/-- No record has been mapped: nothing is stored, buffered or complete. -/
structure Ledger.Fresh (l : Ledger) : Prop where
  joins : ∀ join ∈ l.joins, join = ⟨join.spec, .pending, [], false⟩
  stores : ∀ slot ∈ l.stores, slot.store = .empty
  completed : l.completed = []

/-- The producers of numbered term maps, one for each. -/
def Producer.RealizeAll (ctx : Context) (label : String) (position : Position)
    (maps : List TermMap) (producers : List Producer) : Prop :=
  List.Forall₂ (fun m producer =>
    Producer.compile ctx (label ++ " " ++ toString m.2) m.1 position = .ok producer)
    maps.zipIdx producers

/-- The joins that a plan fills as a child, by their numbers. -/
def ObjectPlan.joins : ObjectPlan → List Nat
  | .join number _ => [number]
  | _ => []

/-- An object map of a triples map, what it became, and for a join what the ledger has for it. -/
inductive ObjectPlan.Realizes (ctx : Context) (ledger : Ledger) (place : Nat) (map : TriplesMap)
    (label : String) : ObjectMap → ObjectPlan → Prop where
  | term {m : TermMap} {producer : Producer}
      (compiled : Producer.compile ctx label m .object = .ok producer) :
      Realizes ctx ledger place map label (.term m) (.term producer)
  | sameRecord {reference : ReferencingMap} {parent : TriplesMap} {subjectMap : SubjectMap}
      {subject : Producer} (found : ctx.graph.find? reference.parent = some parent)
      (driven : parent.subjectMap = some subjectMap)
      (shared : reference.conditions = [] ∧ parent.logicalSource = map.logicalSource)
      (compiled : Producer.compile ctx (label ++ " parent subject") subjectMap.termMap .subject =
        .ok subject) :
      Realizes ctx ledger place map label (.reference reference)
        (.sameRecord subject reference.targets)
  | join {reference : ReferencingMap} {parentPlace : Nat} {parent : TriplesMap}
      {subjectMap : SubjectMap} {join store : Nat}
      (placed : ctx.graph.placeOf? reference.parent = some parentPlace)
      (found : ctx.graph.get? parentPlace = some parent)
      (driven : parent.subjectMap = some subjectMap)
      (apart : ¬ (reference.conditions = [] ∧ parent.logicalSource = map.logicalSource))
      (registered : (ledger.join? join).map Join.spec =
        some ⟨parentPlace, parent.iri, place, map.iri, store, reference.targets⟩)
      (stored : (ledger.stores[store]?).map (fun slot => (slot.parent, slot.expressions)) =
        some (parentPlace, reference.parentExpressions)) :
      Realizes ctx ledger place map label (.reference reference)
        (.join join reference.childExpressions)

namespace PredicateObjectPlan

def joins (plan : PredicateObjectPlan) : List Nat := plan.objects.flatMap ObjectPlan.joins

structure Realizes (ctx : Context) (ledger : Ledger) (place : Nat) (map : TriplesMap)
    (m : PredicateObjectMap × Nat) (plan : PredicateObjectPlan) : Prop where
  predicates : Producer.RealizeAll ctx
    (map.iri ++ " predicate-object map " ++ toString m.2 ++ " predicate") .predicate
    m.1.predicateMaps plan.predicates
  graphs : Producer.RealizeAll ctx
    (map.iri ++ " predicate-object map " ++ toString m.2 ++ " graph") .graph
    m.1.graphMaps plan.graphs
  objects : List.Forall₂ (fun object plan => ObjectPlan.Realizes ctx ledger place map
    (map.iri ++ " predicate-object map " ++ toString m.2 ++ " object " ++ toString object.2)
    object.1 plan) m.1.objectMaps.zipIdx plan.objects

end PredicateObjectPlan

namespace MapPlan

def joins (plan : MapPlan) : List Nat := plan.predicateObjects.flatMap PredicateObjectPlan.joins

structure Realizes (ctx : Context) (ledger : Ledger) (d : Driven) (plan : MapPlan) : Prop where
  place : plan.place = d.place
  iri : plan.iri = d.map.iri
  logicalSource : plan.logicalSource = d.map.logicalSource
  subject : Producer.compile ctx (d.map.iri ++ " subject map") d.subjectMap.termMap .subject =
    .ok plan.subject
  subjectGraphs : Producer.RealizeAll ctx (d.map.iri ++ " subject graph map") .graph
    d.subjectMap.graphMaps plan.subjectGraphs
  classes : plan.classes = d.subjectMap.classes.map fun c => (Term.iri c).unrouted
  predicateObjects : List.Forall₂ (PredicateObjectPlan.Realizes ctx ledger d.place d.map)
    d.map.predicateObjectMaps.zipIdx plan.predicateObjects

end MapPlan

namespace Plan

def joins (plan : Plan) : List Nat := plan.maps.flatMap MapPlan.joins

/-- The plan of a rule graph without faults. Joins are numbered as they stand in the plan. -/
structure Realizes (g : RuleGraph) (functions : Registry) (settings : Settings) (plan : Plan) :
    Prop where
  maps : List.Forall₂ (MapPlan.Realizes ⟨g, functions, settings.base⟩ plan.ledger)
    g.driven plan.maps
  joins : plan.joins = List.range plan.ledger.size
  fresh : plan.ledger.Fresh
  parentKeys : ∀ m ∈ plan.maps, m.parentKeys = plan.ledger.parentStores m.place
  emitClasses : plan.emitClasses = settings.emitClasses

end Plan

end RdfMapping
