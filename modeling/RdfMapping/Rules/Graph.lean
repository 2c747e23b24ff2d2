import RdfMapping.Rules.TriplesMap

/-!
# Rule graphs

The triples maps of a mapping in the order in which they were added, each known
by its place. Triples maps refer to each other by IRI, and the first one with an
IRI is meant. Indexes lead from a source, a class or a predicate to the places.
-/

namespace RdfMapping

/-- Places filed under keys, in the order in which they were filed. -/
structure PlaceIndex where
  entries : List (String × List Nat)
  deriving DecidableEq, Repr

namespace PlaceIndex

def empty : PlaceIndex := ⟨[]⟩

def fileUnder (key : String) (place : Nat) : List (String × List Nat) → List (String × List Nat)
  | [] => [(key, [place])]
  | (k, places) :: rest =>
    if k = key then (k, places ++ [place]) :: rest
    else (k, places) :: fileUnder key place rest

def file (index : PlaceIndex) (key : String) (place : Nat) : PlaceIndex :=
  ⟨fileUnder key place index.entries⟩

def fileAll (index : PlaceIndex) (keys : List String) (place : Nat) : PlaceIndex :=
  keys.foldl (fun index key => index.file key place) index

def find (index : PlaceIndex) (key : String) : List Nat := (index.entries.lookup key).getD []

def keys (index : PlaceIndex) : List String := index.entries.map (·.1)

end PlaceIndex

structure RuleGraph where
  maps : List TriplesMap
  places : List (String × Nat)
  /-- IRIs that were taken already, once for each further triples map with that IRI. -/
  duplicates : List String
  sources : PlaceIndex
  classes : PlaceIndex
  predicates : PlaceIndex

namespace RuleGraph

def empty : RuleGraph := ⟨[], [], [], .empty, .empty, .empty⟩

instance : Inhabited RuleGraph := ⟨empty⟩

def size (g : RuleGraph) : Nat := g.maps.length

/--
The place of the triples map that an IRI means. Places have no bound; kept in words of
32 bits they are the same for graphs of up to `2 ^ 32` triples maps, and not beyond.
-/
def placeOf? (g : RuleGraph) (iri : String) : Option Nat := g.places.lookup iri

/-- The triples map gets the number of those before it as its place, not cut to a word. -/
def add (g : RuleGraph) (m : TriplesMap) : RuleGraph :=
  let place := g.size
  let taken := (g.placeOf? m.iri).isSome
  { maps := g.maps ++ [m]
    places := if taken then g.places else g.places ++ [(m.iri, place)]
    duplicates := if taken then g.duplicates ++ [m.iri] else g.duplicates
    sources := g.sources.file m.sourceName place
    classes := g.classes.fileAll m.classes place
    predicates := g.predicates.fileAll m.constantPredicates place }

def ofList (maps : List TriplesMap) : RuleGraph := maps.foldl add empty

def get? (g : RuleGraph) (place : Nat) : Option TriplesMap := g.maps[place]?

def find? (g : RuleGraph) (iri : String) : Option TriplesMap := (g.placeOf? iri).bind g.get?

def iris (g : RuleGraph) : List String := g.maps.map TriplesMap.iri

/-- The triples maps that read a source. -/
def forSource (g : RuleGraph) (source : String) : List TriplesMap :=
  (g.sources.find source).filterMap g.get?

/-- The triples maps whose subjects get a class, once for each time the class is listed. -/
def forClass (g : RuleGraph) (iri : String) : List TriplesMap :=
  (g.classes.find iri).filterMap g.get?

/-- The triples maps with a constant predicate, each once. -/
def forPredicate (g : RuleGraph) (iri : String) : List TriplesMap :=
  (g.predicates.find iri).eraseDups.filterMap g.get?

/-- The triples maps with an object taken from the triples map of this IRI. -/
def referencing (g : RuleGraph) (parent : String) : List TriplesMap :=
  g.maps.filter fun m => m.referencingMaps.any fun r => r.parent = parent

end RuleGraph

end RdfMapping
