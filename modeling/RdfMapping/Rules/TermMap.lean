import RdfMapping.Position
import RdfMapping.Quad
import RdfMapping.Template.Reader

/-!
# Term maps

A term map says how one position of a quad is generated. It should declare one
source of values: a constant, a reference, a template or a function value. That
it does is checked when the map is compiled.
-/

namespace RdfMapping

structure TermMap where
  constant : Option Term := none
  reference : Option String := none
  template : Option String := none
  /-- The triples map that describes the call of a function. -/
  functionValue : Option String := none
  kind : Option TermKind := none
  language : Option String := none
  datatype : Option String := none
  targets : Targets := ∅
  deriving DecidableEq

namespace TermMap

def ofConstant (t : Term) : TermMap := { constant := some t }
def ofReference (expression : String) : TermMap := { reference := some expression }
def ofTemplate (text : String) : TermMap := { template := some text }
def ofFunction (triplesMap : String) : TermMap := { functionValue := some triplesMap }

/-- How many sources of values are declared. -/
def strategyCount (m : TermMap) : Nat :=
  m.constant.isSome.toNat + m.reference.isSome.toNat + m.template.isSome.toNat
    + m.functionValue.isSome.toNat

def isConstant (m : TermMap) : Bool := m.constant.isSome

def constantIri? (m : TermMap) : Option String := m.constant.bind Term.iri?

/-- The expressions read by the map itself, without those of a function it calls. -/
def expressions (m : TermMap) : List String :=
  match m.reference, m.template with
  | some expression, _ => [expression]
  | none, some text => match Template.read text with
    | .ok t => t.expressions
    | .error _ => []
  | none, none => []

/--
The kind of term a map generates. A declared kind wins, then the kind of a
constant. Objects that read values or have literal options are literals, and
everything else is an IRI.
-/
def effectiveKind (m : TermMap) (position : Position) : TermKind :=
  match m.kind, m.constant with
  | some kind, _ => kind
  | none, some constant => constant.kind
  | none, none =>
    let readsValues := m.reference.isSome || m.functionValue.isSome
    let literalOptions := m.language.isSome || m.datatype.isSome
    if position = .object && (readsValues || literalOptions) then .literal else .iri

end TermMap

end RdfMapping
