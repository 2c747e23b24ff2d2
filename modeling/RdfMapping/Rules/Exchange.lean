import RdfMapping.Json.Reader
import RdfMapping.Json.Shape
import RdfMapping.Fault
import RdfMapping.Rules.Graph

/-!
# The exchange form of rule graphs

A rule graph is exchanged as a JSON array of its triples maps. Writing puts down
every field; reading lets fields with a default be left out. The fields of a
subject's term map stand among those of the subject map itself. How a part
reaches its reader decides which spellings are admitted.
-/

namespace RdfMapping

open Json Json.Outline

namespace Exchange

def ofOption {α : Type} (write : α → Json) : Option α → Json
  | some a => write a
  | none => .null

def ofTexts (texts : List String) : Json := .array (texts.map Json.text)

def ofTerm : Term → Json
  | .iri s => .object [("Iri", .text s)]
  | .blankNode label => .object [("BlankNode", .text label)]
  | .literal value datatype language => .object [("Literal", .object
      [("value", .text value), ("datatype", ofOption .text datatype),
       ("language", ofOption .text language)])]

def ofKind (kind : TermKind) : Json := .text kind.name

def termMapMembers (m : TermMap) : List (String × Json) :=
  [("constant", ofOption ofTerm m.constant),
   ("reference", ofOption .text m.reference),
   ("template", ofOption .text m.template),
   ("function_value", ofOption .text m.functionValue),
   ("term_type", ofOption ofKind m.kind),
   ("language", ofOption .text m.language),
   ("datatype", ofOption .text m.datatype),
   ("targets", ofTexts m.targets.toList)]

def ofTermMap (m : TermMap) : Json := .object (termMapMembers m)

def ofTermMaps (maps : List TermMap) : Json := .array (maps.map ofTermMap)

def ofLogicalSource (s : LogicalSource) : Json := .object
  [("source", .text s.source),
   ("reference_formulation", ofOption .text s.referenceFormulation),
   ("iterator", ofOption .text s.iterator)]

def ofSubjectMap (m : SubjectMap) : Json := .object
  (termMapMembers m.termMap
    ++ [("classes", ofTexts m.classes), ("graph_maps", ofTermMaps m.graphMaps)])

def ofJoinCondition (c : JoinCondition) : Json := .object
  [("child", .text c.child), ("parent", .text c.parent)]

def ofReferencingMap (m : ReferencingMap) : Json := .object
  [("parent_triples_map", .text m.parent),
   ("join_conditions", .array (m.conditions.map ofJoinCondition)),
   ("targets", ofTexts m.targets.toList)]

def ofObjectMap : ObjectMap → Json
  | .term m => .object [("Term", ofTermMap m)]
  | .reference m => .object [("RefObjectMap", ofReferencingMap m)]

def ofPredicateObjectMap (m : PredicateObjectMap) : Json := .object
  [("predicate_maps", ofTermMaps m.predicateMaps),
   ("object_maps", .array (m.objectMaps.map ofObjectMap)),
   ("graph_maps", ofTermMaps m.graphMaps)]

def ofTriplesMap (m : TriplesMap) : Json := .object
  [("iri", .text m.iri),
   ("logical_source", ofLogicalSource m.logicalSource),
   ("subject_map", ofOption ofSubjectMap m.subjectMap),
   ("predicate_object_maps", .array (m.predicateObjectMaps.map ofPredicateObjectMap))]

/-- How a part of a rule graph reaches its reader. -/
inductive Medium where
  /-- Straight from a text. -/
  | text
  /-- As a JSON value. -/
  | value
  /-- Gathered from the members of a subject map, among which the fields of its term map stand. -/
  | gathered
  deriving DecidableEq, Repr

namespace Medium

/-- Literals may be written as an array of their fields, except in a JSON value. -/
def admitsArray : Medium → Bool
  | .value => false
  | _ => true

/-- A choice without content: its payload is null or, if gathered, may be an empty object. -/
def isEmptyPayload : Medium → Outline → Bool
  | _, .null => true
  | .gathered, .object [] => true
  | _, _ => false

end Medium

/-- A literal written as an array has all three of its fields. -/
def literal? (medium : Medium) (outline : Outline) : Option Term := do
  match outline, ← fields? ["value", "datatype", "language"] outline with
  | .array _, [some v, some d, some l] =>
    if medium.admitsArray then
      return .literal (← text? v) (← orNull? text? d) (← orNull? text? l)
    else none
  | .object _, [v, d, l] =>
    return .literal (← required? text? v) (← optional? text? d) (← optional? text? l)
  | _, _ => none

def term? (medium : Medium) (outline : Outline) : Option Term := do
  match ← choice? outline with
  | ("Iri", some payload) => return .iri (← text? payload)
  | ("BlankNode", some payload) => return .blankNode (← text? payload)
  | ("Literal", some payload) => literal? medium payload
  | _ => none

def kind? (medium : Medium) (outline : Outline) : Option TermKind := do
  let (name, payload) ← choice? outline
  if payload.all medium.isEmptyPayload then TermKind.ofName? name else none

def targets? (outline : Outline) : Option Targets :=
  (listOf? text? outline).map OrderedSet.ofList

def termMapNames : List String :=
  ["constant", "reference", "template", "function_value", "term_type", "language", "datatype",
   "targets"]

def termMapOfFields? (medium : Medium) : List (Option Outline) → Option TermMap
  | [constant, reference, template, functionValue, kind, language, datatype, targets] => do
    return {
      constant := ← optional? (term? medium) constant
      reference := ← optional? text? reference
      template := ← optional? text? template
      functionValue := ← optional? text? functionValue
      kind := ← optional? (kind? medium) kind
      language := ← optional? text? language
      datatype := ← optional? text? datatype
      targets := ← withDefault? ∅ targets? targets }
  | _ => none

def termMap? (medium : Medium) (outline : Outline) : Option TermMap := do
  termMapOfFields? medium (← fields? termMapNames outline)

def termMaps? (medium : Medium) : Outline → Option (List TermMap) := listOf? (termMap? medium)

def logicalSource? (outline : Outline) : Option LogicalSource := do
  match ← fields? ["source", "reference_formulation", "iterator"] outline with
  | [source, formulation, iterator] =>
    return ⟨← required? text? source, ← optional? text? formulation, ← optional? text? iterator⟩
  | _ => none

def ownSubjectNames : List String := ["classes", "graph_maps"]

/-- The members of a subject map that its term map is gathered from. None of them may be void. -/
def gatheredMembers? : Outline → Option Outline
  | .object members =>
    let gathered := members.filter fun m => !ownSubjectNames.contains m.1
    if gathered.all (·.2.isComplete) then some (.object gathered) else none
  | _ => none

/-- A subject map is always an object. -/
def subjectMap? (medium : Medium) (outline : Outline) : Option SubjectMap := do
  let termMap ← termMap? .gathered (← gatheredMembers? outline)
  match ← objectFields? ownSubjectNames outline with
  | [classes, graphMaps] =>
    return ⟨termMap, ← withDefault? [] (listOf? text?) classes,
      ← withDefault? [] (termMaps? medium) graphMaps⟩
  | _ => none

def joinCondition? (outline : Outline) : Option JoinCondition := do
  match ← fields? ["child", "parent"] outline with
  | [child, parent] => return ⟨← required? text? child, ← required? text? parent⟩
  | _ => none

def referencingMap? (outline : Outline) : Option ReferencingMap := do
  match ← fields? ["parent_triples_map", "join_conditions", "targets"] outline with
  | [parent, conditions, targets] =>
    return ⟨← required? text? parent, ← withDefault? [] (listOf? joinCondition?) conditions,
      ← withDefault? ∅ targets? targets⟩
  | _ => none

def objectMap? (medium : Medium) (outline : Outline) : Option ObjectMap := do
  match ← choice? outline with
  | ("Term", some payload) => return .term (← termMap? medium payload)
  | ("RefObjectMap", some payload) => return .reference (← referencingMap? payload)
  | _ => none

def predicateObjectMap? (medium : Medium) (outline : Outline) : Option PredicateObjectMap := do
  match ← fields? ["predicate_maps", "object_maps", "graph_maps"] outline with
  | [predicates, objects, graphs] =>
    return ⟨← required? (termMaps? medium) predicates,
      ← required? (listOf? (objectMap? medium)) objects,
      ← withDefault? [] (termMaps? medium) graphs⟩
  | _ => none

def triplesMap? (medium : Medium) (outline : Outline) : Option TriplesMap := do
  match ← fields? ["iri", "logical_source", "subject_map", "predicate_object_maps"] outline with
  | [iri, source, subject, poms] =>
    return ⟨← required? text? iri, ← required? logicalSource? source,
      ← optional? (subjectMap? medium) subject,
      ← withDefault? [] (listOf? (predicateObjectMap? medium)) poms⟩
  | _ => none

end Exchange

namespace RuleGraph

def toJson (g : RuleGraph) : Json := .array (g.maps.map Exchange.ofTriplesMap)

def ofOutline? (outline : Outline) : Option RuleGraph :=
  (listOf? (Exchange.triplesMap? .text) outline).map ofList

/-- Reads a rule graph from JSON text. -/
def read (text : String) : Except Fault RuleGraph :=
  match (Json.outline? text).bind ofOutline? with
  | some g => .ok g
  | none => .error (.unreadable .ruleGraph)

end RuleGraph

end RdfMapping
