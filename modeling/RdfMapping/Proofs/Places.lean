import Mathlib.Data.List.Induction
import RdfMapping.Rules.Graph

/-!
# Places of a rule graph

A rule graph is built by adding triples maps one after the other. It holds them
in that order, and an IRI means the first triples map that has it.
-/

namespace RdfMapping

/-- Numbered entries of a list have different numbers. -/
theorem pairwise_zipIdx {α : Type} (xs : List α) : xs.zipIdx.Pairwise fun a b => a.2 ≠ b.2 := by
  have numbers : (xs.zipIdx.map Prod.snd).Nodup := by
    rw [List.zipIdx_map_snd]
    exact List.nodup_range'
  exact List.pairwise_map.mp numbers

namespace RuleGraph

theorem ofList_concat (maps : List TriplesMap) (m : TriplesMap) :
    ofList (maps ++ [m]) = (ofList maps).add m := by
  simp only [ofList, List.foldl_append, List.foldl_cons, List.foldl_nil]

theorem maps_ofList (maps : List TriplesMap) : (ofList maps).maps = maps := by
  induction maps using List.reverseRec with
  | nil => rfl
  | append_singleton maps m ih => rw [ofList_concat, add, ih]

theorem places_add (g : RuleGraph) (m : TriplesMap) :
    (g.add m).places =
      if (g.placeOf? m.iri).isSome then g.places else g.places ++ [(m.iri, g.size)] := rfl

theorem placeOf?_add (g : RuleGraph) (m : TriplesMap) (iri : String) :
    (g.add m).placeOf? iri = (g.placeOf? iri).or (if m.iri = iri then some g.size else none) := by
  by_cases taken : (g.placeOf? m.iri).isSome
  · rw [placeOf?, places_add, if_pos taken, ← placeOf?]
    by_cases same : m.iri = iri
    · obtain ⟨place, found⟩ := Option.isSome_iff_exists.mp taken
      rw [← same, found]
      rfl
    · rw [if_neg same, Option.or_none]
  · rw [placeOf?, places_add, if_neg taken, List.lookup_append, ← placeOf?]
    congr 1
    by_cases same : m.iri = iri
    · simp [same]
    · have apart : (iri == m.iri) = false := by simpa using Ne.symm same
      simp [List.lookup_cons, apart, same]

/-- An IRI means the first triples map that has it. -/
theorem placeOf?_ofList (maps : List TriplesMap) (iri : String) :
    (ofList maps).placeOf? iri = maps.findIdx? fun m => m.iri = iri := by
  induction maps using List.reverseRec with
  | nil => rfl
  | append_singleton maps m ih =>
    rw [ofList_concat, placeOf?_add, ih, List.findIdx?_append, size, maps_ofList]
    by_cases same : m.iri = iri
    · simp [same]
    · simp [same]

/-- Whatever an IRI means is there. -/
theorem exists_of_placeOf? {maps : List TriplesMap} {iri : String} {place : Nat}
    (placed : (ofList maps).placeOf? iri = some place) :
    ∃ m, (ofList maps).get? place = some m := by
  rw [placeOf?_ofList, List.findIdx?_eq_some_iff_getElem] at placed
  obtain ⟨inside, -⟩ := placed
  exact ⟨maps[place], by rw [get?, maps_ofList, List.getElem?_eq_getElem inside]⟩

end RuleGraph

end RdfMapping
