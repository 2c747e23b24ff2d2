import RdfMapping.Rules.TermMap

/-!
# Triples maps

The rules for one logical source: how the subject is generated, and which
predicates and objects go with it. An object may refer to the subjects of
another triples map. A triples map without a subject describes a function call.
-/

namespace RdfMapping

/-- What a source is to deliver; only the resolver of sources looks inside. -/
structure LogicalSource where
  source : String
  referenceFormulation : Option String := none
  iterator : Option String := none
  deriving DecidableEq, Repr

structure SubjectMap where
  termMap : TermMap
  classes : List String := []
  graphMaps : List TermMap := []
  deriving DecidableEq

/-- An expression on the child record and one on the parent record that must agree. -/
structure JoinCondition where
  child : String
  parent : String
  deriving DecidableEq, Repr

/-- The subjects of another triples map as objects. -/
structure ReferencingMap where
  parent : String
  conditions : List JoinCondition := []
  targets : Targets := ∅
  deriving DecidableEq

namespace ReferencingMap

def childExpressions (m : ReferencingMap) : List String := m.conditions.map JoinCondition.child
def parentExpressions (m : ReferencingMap) : List String := m.conditions.map JoinCondition.parent
def hasConditions (m : ReferencingMap) : Bool := !m.conditions.isEmpty

end ReferencingMap

inductive ObjectMap where
  | term (map : TermMap)
  | reference (map : ReferencingMap)
  deriving DecidableEq

namespace ObjectMap

def referencing? : ObjectMap → Option ReferencingMap
  | .reference m => some m
  | .term _ => none

def isReference (m : ObjectMap) : Bool := m.referencing?.isSome

end ObjectMap

/-- Every predicate goes with every object, in every graph. -/
structure PredicateObjectMap where
  predicateMaps : List TermMap
  objectMaps : List ObjectMap
  graphMaps : List TermMap := []
  deriving DecidableEq

namespace PredicateObjectMap

def constantPredicates (m : PredicateObjectMap) : List String :=
  m.predicateMaps.filterMap TermMap.constantIri?

def referencingMaps (m : PredicateObjectMap) : List ReferencingMap :=
  m.objectMaps.filterMap ObjectMap.referencing?

end PredicateObjectMap

structure TriplesMap where
  iri : String
  logicalSource : LogicalSource
  subjectMap : Option SubjectMap := none
  predicateObjectMaps : List PredicateObjectMap := []
  deriving DecidableEq

namespace TriplesMap

def sourceName (m : TriplesMap) : String := m.logicalSource.source

def classes (m : TriplesMap) : List String :=
  match m.subjectMap with
  | some s => s.classes
  | none => []

/-- Describes a function call only. -/
def isFunctionMap (m : TriplesMap) : Bool := m.subjectMap.isNone

def referencingMaps (m : TriplesMap) : List ReferencingMap :=
  m.predicateObjectMaps.flatMap PredicateObjectMap.referencingMaps

def constantPredicates (m : TriplesMap) : List String :=
  m.predicateObjectMaps.flatMap PredicateObjectMap.constantPredicates

end TriplesMap

end RdfMapping
