/-!
# Vocabulary

IRIs of the RDF mapping language, its predecessor R2RML, the function ontology,
RDF, XML Schema and the GREL string functions.
-/

namespace RdfMapping.Vocabulary

def rml : String := "http://w3id.org/rml/"
def r2rml : String := "http://www.w3.org/ns/r2rml#"

def iri : String := "http://w3id.org/rml/IRI"
def blankNode : String := "http://w3id.org/rml/BlankNode"
def literal : String := "http://w3id.org/rml/Literal"
def r2rmlIri : String := "http://www.w3.org/ns/r2rml#IRI"
def r2rmlBlankNode : String := "http://www.w3.org/ns/r2rml#BlankNode"
def r2rmlLiteral : String := "http://www.w3.org/ns/r2rml#Literal"

def defaultGraph : String := "http://w3id.org/rml/defaultGraph"
def r2rmlDefaultGraph : String := "http://www.w3.org/ns/r2rml#defaultGraph"

def executes : String := "http://w3id.org/rml/executes"
def fnoExecutes : String := "https://w3id.org/function/ontology#executes"

/-- The predicates that name the function of a function map. -/
def isExecutes (predicate : String) : Bool :=
  predicate = executes || predicate = fnoExecutes

/-- The graph names that stand for the default graph. -/
def isDefaultGraph (graph : String) : Bool :=
  graph = defaultGraph || graph = r2rmlDefaultGraph

def rdfType : String := "http://www.w3.org/1999/02/22-rdf-syntax-ns#type"

def xsdString : String := "http://www.w3.org/2001/XMLSchema#string"
def xsdInteger : String := "http://www.w3.org/2001/XMLSchema#integer"
def xsdDouble : String := "http://www.w3.org/2001/XMLSchema#double"
def xsdBoolean : String := "http://www.w3.org/2001/XMLSchema#boolean"

def grel : String := "http://users.ugent.be/~bjdmeest/function/grel.ttl#"
def toUpperCase : String := "http://users.ugent.be/~bjdmeest/function/grel.ttl#toUpperCase"
def toLowerCase : String := "http://users.ugent.be/~bjdmeest/function/grel.ttl#toLowerCase"
def stringTrim : String := "http://users.ugent.be/~bjdmeest/function/grel.ttl#string_trim"
def arrayJoin : String := "http://users.ugent.be/~bjdmeest/function/grel.ttl#array_join"
def valueParameter : String := "http://users.ugent.be/~bjdmeest/function/grel.ttl#valueParameter"
def arrayParameter : String := "http://users.ugent.be/~bjdmeest/function/grel.ttl#p_array_a"
def separatorParameter : String := "http://users.ugent.be/~bjdmeest/function/grel.ttl#p_string_sep"

end RdfMapping.Vocabulary
