import RdfMapping.Plan.Basic
import RdfMapping.Producer.Compile
import RdfMapping.Settings

/-!
# Compiling plans

Every term map of every driven triples map is compiled, and every fault found is
reported, not just the first. Triples maps without a subject are compiled where
they are called and are not driven.
-/

namespace RdfMapping

/-- The joins registered and the faults found so far, and the stack of all compiling. -/
structure Drafting where
  ledger : Ledger
  faults : List Fault
  visiting : List Nat

/-- Compiling with faults noted; `none` stands for what could not be compiled. -/
abbrev Drafted := StateM Drafting

namespace Drafted

def fault (f : Fault) : Drafted Unit :=
  modify fun d => { d with faults := d.faults ++ [f] }

/-- Compiles on the common stack and notes the fault, if it fails. -/
def note {α : Type} (x : Compiling α) : Drafted (Option α) := fun d =>
  match x d.visiting with
  | (.ok a, visiting) => (some a, { d with visiting })
  | (.error f, visiting) => (none, { d with visiting, faults := d.faults ++ [f] })

end Drafted

namespace Plan

open Drafted

/-- Compiles term maps of one position, each labelled with its number; those that fail are left out. -/
def producers (ctx : Context) (label : String) (maps : List TermMap) (position : Position) :
    Drafted (List Producer) := do
  let found ← maps.zipIdx.mapM fun (m, i) =>
    note (Producer.construct ctx (label ++ " " ++ toString i) m position)
  return found.reduceOption

/-- All of them, unless one could not be compiled. -/
def complete? {α : Type} (found : List (Option α)) : Option (List α) := found.mapM id

/--
A reference to another triples map. Without conditions and with the same logical
source the parent's subject comes from the same record; otherwise it is a join.
-/
def compileReference (ctx : Context) (place : Nat) (map : TriplesMap) (label : String)
    (reference : ReferencingMap) : Drafted (Option ObjectPlan) :=
  match ctx.graph.placeOf? reference.parent with
  | none => do
    fault (.unknownTriplesMap reference.parent)
    return none
  | some parentPlace => match ctx.graph.get? parentPlace with
    | none => return none
    | some parent => match parent.subjectMap with
      | none => do
        fault (Fault.parentWithoutSubject label parent.iri)
        return none
      | some subjectMap =>
        if !reference.hasConditions && parent.logicalSource = map.logicalSource then do
          let subject ← note
            (Producer.construct ctx (label ++ " parent subject") subjectMap.termMap .subject)
          return subject.map fun s => .sameRecord s reference.targets
        else do
          let d ← get
          let (store, ledger) := d.ledger.storeFor parentPlace reference.parentExpressions
          let (join, ledger) := ledger.register
            ⟨parentPlace, parent.iri, place, map.iri, store, reference.targets⟩
          set { d with ledger }
          return some (.join join reference.childExpressions)

def compileObject (ctx : Context) (place : Nat) (map : TriplesMap) (label : String) :
    ObjectMap → Drafted (Option ObjectPlan)
  | .term m => do
    let producer ← note (Producer.construct ctx label m .object)
    return producer.map .term
  | .reference r => compileReference ctx place map label r

def compilePredicateObject (ctx : Context) (place : Nat) (map : TriplesMap)
    (m : PredicateObjectMap) (i : Nat) : Drafted (Option PredicateObjectPlan) := do
  let label := map.iri ++ " predicate-object map " ++ toString i
  let predicates ← producers ctx (label ++ " predicate") m.predicateMaps .predicate
  let graphs ← producers ctx (label ++ " graph") m.graphMaps .graph
  let objects ← m.objectMaps.zipIdx.mapM fun (object, j) =>
    compileObject ctx place map (label ++ " object " ++ toString j) object
  return if predicates.length = m.predicateMaps.length then
      (complete? objects).map fun objects => ⟨predicates, objects, graphs⟩
    else none

/-- Compiles a driven triples map; its parent keys are known only when all joins are. -/
def compileMap (ctx : Context) (place : Nat) (map : TriplesMap) (subjectMap : SubjectMap) :
    Drafted (Option MapPlan) := do
  let subject ← note
    (Producer.construct ctx (map.iri ++ " subject map") subjectMap.termMap .subject)
  let subjectGraphs ←
    producers ctx (map.iri ++ " subject graph map") subjectMap.graphMaps .graph
  let predicateObjects ← map.predicateObjectMaps.zipIdx.mapM fun (m, i) =>
    compilePredicateObject ctx place map m i
  return subject.bind fun subject => (complete? predicateObjects).map fun predicateObjects => {
    place, subject, subjectGraphs, predicateObjects
    iri := map.iri
    logicalSource := map.logicalSource
    classes := subjectMap.classes.map fun c => (Term.iri c).unrouted
    parentKeys := [] }

def compileDriven (ctx : Context) (map : TriplesMap × Nat) : Drafted (List MapPlan) :=
  match map.1.subjectMap with
  | none => return []
  | some subjectMap => return (← compileMap ctx map.2 map.1 subjectMap).toList

/-- Faults that need no compiling: of the settings, and of IRIs with several triples maps. -/
def preliminaryFaults (graph : RuleGraph) (settings : Settings) : List Fault :=
  (match settings.check with
    | .ok _ => []
    | .error f => [f])
  ++ graph.duplicates.map Fault.duplicateMap

def compile (graph : RuleGraph) (functions : Registry) (settings : Settings) :
    Except Fault Plan :=
  let ctx : Context := ⟨graph, functions, settings.base⟩
  let (maps, draft) := (graph.maps.zipIdx.mapM (compileDriven ctx)).run
    ⟨.empty, preliminaryFaults graph settings, []⟩
  if draft.faults.isEmpty then
    .ok {
      maps := maps.flatten.map fun m =>
        { m with parentKeys := draft.ledger.parentStores m.place }
      ledger := draft.ledger
      emitClasses := settings.emitClasses }
  else .error (.validation draft.faults)

end Plan

end RdfMapping
