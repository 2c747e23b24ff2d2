import RdfMapping.Record
import RdfMapping.Rules.TriplesMap

/-!
# Resolvers of sources

A resolver opens logical sources and hands out their records by credit: a request
names how many records may come back, and a batch without records ends a source.
-/

namespace RdfMapping

/-- Sources with an open state of type `σ`. -/
structure SourceResolver (σ : Type) where
  openSource : LogicalSource → Except Fault σ
  request : σ → Nat → Except Fault (List Record × σ)
  close : σ → Except Fault Unit

end RdfMapping
