import RdfMapping.Term

/-!
# Positions of a quad

Where a term map stands decides which kinds of term it may generate.
-/

namespace RdfMapping

inductive Position where
  | subject
  | predicate
  | object
  | graph
  deriving DecidableEq, Repr

namespace Position

def name : Position → String
  | .subject => "subject"
  | .predicate => "predicate"
  | .object => "object"
  | .graph => "graph"

/-- Subjects are no literals; predicates and graphs are IRIs. -/
def allows : Position → TermKind → Bool
  | .subject, kind => kind ≠ .literal
  | .object, _ => true
  | .predicate, kind | .graph, kind => kind = .iri

end Position

end RdfMapping
