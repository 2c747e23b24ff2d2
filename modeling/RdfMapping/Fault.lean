import RdfMapping.Position
import RdfMapping.Template.Reader

/-!
# Faults

Everything that can go wrong, from reading a rule graph to running it, with one
wording for each cause. Faults of a rule graph are told apart from those that
only a record can show.
-/

namespace RdfMapping

/-- What a caller may decide on without looking at the cause. -/
inductive FaultKind where
  | construction
  | templateParse
  | templateEvaluation
  | data
  | source
  | function
  | cancelled
  | internal
  deriving DecidableEq, Repr

/-- Documents that are read from text. -/
inductive Document where
  | ruleGraph
  | settings
  | records
  deriving DecidableEq, Repr

def Document.describe : Document → String
  | .ruleGraph => "Invalid value for rule graph: not a list of triples maps"
  | .settings => "Configuration error: not a settings document"
  | .records => "Logical source error: not a JSON document"

inductive Fault where
  | template (text : String) (violation : Template.Violation)
  | strategyCount (termMap : String) (found : Nat)
  | disallowedKind (termMap : String) (position : Position) (kind : TermKind)
  | disallowedConstant (termMap : String) (position : Position) (kind : TermKind)
  | unknownFunction (iri : String)
  | unknownTriplesMap (iri : String)
  | missingProperty (property : String)
  | invalidValue (property reason : String)
  | validation (faults : List Fault)
  /-- The slots of a template have lists of different lengths. -/
  | unevenSlots (template : String) (counts : List Nat)
  | invalidIri (lexical base : String)
  | expression (expression reason : String)
  | function (iri reason : String)
  | source (reason : String)
  | config (reason : String)
  | join (reason : String)
  | cancelled
  | internal (reason : String)
  /-- A document that is malformed or does not have the shape it should. -/
  | unreadable (document : Document)
  deriving Repr

namespace Fault

def kind : Fault → FaultKind
  | .template .. => .templateParse
  | .unevenSlots .. => .templateEvaluation
  | .invalidIri .. => .data
  | .expression .. | .source _ | .unreadable .records => .source
  | .function .. => .function
  | .cancelled => .cancelled
  | .join _ | .internal _ => .internal
  | _ => .construction

/-- Raised before any record is read. -/
def isConstruction (f : Fault) : Bool :=
  f.kind = .construction || f.kind = .templateParse

/-- The faults that a failed validation lists, or the fault alone. -/
def members : Fault → List Fault
  | .validation faults => faults
  | f => [f]

def listText (ns : List Nat) : String := "[" ++ ", ".intercalate (ns.map toString) ++ "]"

mutual

def message : Fault → String
  | .template text violation => "Invalid template: " ++ violation.message text
  | .strategyCount termMap found =>
    "Term map " ++ termMap ++ " must declare exactly one of constant, reference, template or "
      ++ "functionValue (found " ++ toString found ++ ")"
  | .disallowedKind termMap position kind =>
    "Term type " ++ kind.name ++ " is not allowed for " ++ position.name ++ " maps ("
      ++ termMap ++ ")"
  | .disallowedConstant termMap position kind =>
    "Constant " ++ kind.describe ++ " value is not allowed for " ++ position.name ++ " maps ("
      ++ termMap ++ ")"
  | .unknownFunction iri => "No function registered for " ++ iri
  | .unknownTriplesMap iri => "Unknown TriplesMap: " ++ iri
  | .missingProperty property => "Missing required property: " ++ property
  | .invalidValue property reason => "Invalid value for " ++ property ++ ": " ++ reason
  | .validation faults =>
    "Mapping validation failed with " ++ toString faults.length ++ " error(s): "
      ++ "; ".intercalate (messages faults)
  | .unevenSlots text counts =>
    "Reference expressions do not yield an equal amount of values in template '" ++ text
      ++ "' (counts: " ++ listText counts ++ ")"
  | .invalidIri lexical base =>
    "Cannot generate a valid IRI from '" ++ lexical ++ "' with base IRI " ++ base
  | .expression text reason => "Failed to evaluate expression '" ++ text ++ "': " ++ reason
  | .function iri reason => "Function " ++ iri ++ " failed: " ++ reason
  | .source reason => "Logical source error: " ++ reason
  | .config reason => "Configuration error: " ++ reason
  | .join reason => "Join error: " ++ reason
  | .cancelled => "Mapping run cancelled"
  | .internal reason => "Internal error: " ++ reason
  | .unreadable document => document.describe

def messages : List Fault → List String
  | [] => []
  | f :: rest => f.message :: messages rest

end

def duplicateMap (iri : String) : Fault :=
  .invalidValue "rml:TriplesMap" (iri ++ " is defined more than once")

def constantKindMismatch (label : String) (declared constant : TermKind) : Fault :=
  .invalidValue "rml:termType"
    (label ++ " declares " ++ declared.name ++ " for a constant " ++ constant.describe ++ " value")

def languageAndDatatype (label : String) : Fault :=
  .invalidValue "rml:language" (label ++ " declares both a language tag and a datatype")

def literalOptions (label : String) (kind : TermKind) : Fault :=
  .invalidValue "rml:datatype"
    (label ++ " declares literal options but generates " ++ kind.name)

def functionCycle (iri : String) : Fault :=
  .invalidValue "rml:functionValue" ("function map " ++ iri ++ " refers to itself")

def variablePredicate (iri : String) : Fault :=
  .invalidValue "rml:predicate" ("function map " ++ iri ++ " must use constant predicate IRIs")

def joiningFunction (iri : String) : Fault :=
  .invalidValue "rml:parentTriplesMap" ("function map " ++ iri ++ " cannot join other maps")

def variableFunction (iri : String) : Fault :=
  .invalidValue "rml:executes"
    ("function map " ++ iri ++ " must name its function with a constant IRI")

def noFunction (iri : String) : Fault :=
  .missingProperty ("rml:executes in function map " ++ iri)

def parentWithoutSubject (label iri : String) : Fault :=
  .invalidValue "rml:parentTriplesMap" (label ++ ": parent " ++ iri ++ " has no subject map")

def sealedStore : Fault :=
  .join "parent join store is sealed; its parent stream already completed"

def unknownJoin (join : Nat) : Fault := .join ("unknown join " ++ toString join)

def lateChild (child : String) : Fault :=
  .join ("child record for " ++ child ++ " arrived after the join was resolved")

def wrongPhase (child parent phase : String) : Fault :=
  .join ("join " ++ child ++ " -> " ++ parent ++ " cannot be resolved from " ++ phase)

def unsealedStore (child parent : String) : Fault :=
  .join ("join " ++ child ++ " -> " ++ parent ++ " resolved before parent stream completed")

def unknownSource (name : String) : Fault :=
  .source ("unknown logical source '" ++ name ++ "'")

def closedSource (name : String) : Fault :=
  .source ("logical source '" ++ name ++ "' is closed")

end Fault

end RdfMapping
