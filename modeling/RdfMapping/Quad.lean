import RdfMapping.Term

/-!
# Quads

Terms with the logical targets they are meant for, and the statements made of
them. A statement without a graph belongs to the default graph.
-/

namespace RdfMapping

/-- Names of logical targets. -/
abbrev Targets := OrderedSet String

/-- A term and the logical targets it goes to. -/
structure RoutedTerm where
  term : Term
  targets : Targets
  deriving DecidableEq

def Term.unrouted (t : Term) : RoutedTerm := ⟨t, ∅⟩

structure Quad where
  subject : RoutedTerm
  predicate : RoutedTerm
  object : RoutedTerm
  graph : Option RoutedTerm
  deriving DecidableEq

namespace Quad

/-- A statement goes wherever one of its terms goes. -/
def targets (q : Quad) : Targets :=
  let positions := q.subject.targets.union q.predicate.targets |>.union q.object.targets
  match q.graph with
  | some g => positions.union g.targets
  | none => positions

def text (q : Quad) : String :=
  q.subject.term.text ++ " " ++ q.predicate.term.text ++ " " ++ q.object.term.text
    ++ (match q.graph with
      | some g => " " ++ g.term.text
      | none => "") ++ " ."

end Quad

end RdfMapping
