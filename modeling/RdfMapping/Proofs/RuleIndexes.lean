import Mathlib.Data.List.Basic
import RdfMapping.Proofs.Places

/-!
# Indexes of a rule graph

Triples maps are filed under their source, their classes and their constant predicates
while a rule graph is built. What an index finds is what a look at every triples map finds,
in the order in which they were added. Only a class that a subject map lists more than once
makes a difference: its triples map is found once for each time.
-/

namespace RdfMapping

namespace PlaceIndex

theorem lookup_fileUnder (key other : String) (place : Nat) (entries : List (String × List Nat)) :
    ((fileUnder key place entries).lookup other).getD [] =
      (entries.lookup other).getD [] ++ if key = other then [place] else [] := by
  have passes {k : String} (apart : k ≠ other) (places : List Nat)
      (rest : List (String × List Nat)) : ((k, places) :: rest).lookup other = rest.lookup other := by
    have differs : (other == k) = false := by simpa using apart.symm
    rw [List.lookup_cons, differs]
  induction entries with
  | nil =>
    by_cases same : key = other
    · simp [fileUnder, same]
    · rw [fileUnder, passes same, if_neg same, List.append_nil]
  | cons entry rest ih =>
    obtain ⟨k, places⟩ := entry
    rw [fileUnder]
    by_cases here : k = key
    · subst here
      rw [if_pos rfl]
      by_cases same : k = other
      · simp [same]
      · rw [passes same, passes same, if_neg same, List.append_nil]
    · rw [if_neg here]
      by_cases found : k = other
      · subst found
        simp [Ne.symm here]
      · rw [passes found, passes found, ih]

theorem find_file (index : PlaceIndex) (key other : String) (place : Nat) :
    (index.file key place).find other =
      index.find other ++ if key = other then [place] else [] :=
  lookup_fileUnder key other place index.entries

theorem find_fileAll (index : PlaceIndex) (keys : List String) (other : String) (place : Nat) :
    (index.fileAll keys place).find other =
      index.find other ++ List.replicate (keys.count other) place := by
  induction keys generalizing index with
  | nil => simp [fileAll]
  | cons key keys ih =>
    have rest : index.fileAll (key :: keys) place = (index.file key place).fileAll keys place := rfl
    rw [rest, ih, find_file, List.append_assoc]
    by_cases same : key = other
    · simp [same, List.replicate_succ]
    · simp [same]

end PlaceIndex

namespace RuleGraph

/-- Whatever triples maps are filed under, a key leads to their places, in order and once for
each time that a triples map has the key. -/
theorem find_filed (index : RuleGraph → PlaceIndex) {keys : TriplesMap → List String}
    (start : index empty = .empty)
    (step : ∀ g m, index (g.add m) = (index g).fileAll (keys m) g.size)
    (maps : List TriplesMap) (key : String) :
    (index (ofList maps)).find key =
      maps.zipIdx.flatMap fun e => List.replicate ((keys e.1).count key) e.2 := by
  induction maps using List.reverseRec with
  | nil =>
    have none : index (ofList []) = .empty := start
    rw [none]
    rfl
  | append_singleton maps m ih =>
    rw [ofList_concat, step, PlaceIndex.find_fileAll, ih, size, maps_ofList, List.zipIdx_append,
      List.flatMap_append]
    simp

/-- What is at the places that a list of entries repeats. -/
theorem filterMap_get?_places {maps : List TriplesMap} {entries : List (TriplesMap × Nat)}
    (numbered : entries ⊆ maps.zipIdx) (times : TriplesMap → Nat) :
    (entries.flatMap fun e => List.replicate (times e.1) e.2).filterMap (ofList maps).get? =
      (entries.map Prod.fst).flatMap fun m => List.replicate (times m) m := by
  rw [List.filterMap_flatMap, List.flatMap_map]
  refine List.flatMap_congr fun e member => ?_
  have stands : (ofList maps).get? e.2 = some e.1 := by
    rw [get?, maps_ofList]
    exact List.mem_zipIdx_iff_getElem?.mp (numbered member)
  exact List.filterMap_replicate_of_some stands

/-- Entries under different numbers, each of them at least once. -/
theorem eraseDups_places {entries : List (TriplesMap × Nat)}
    (apart : entries.Pairwise fun a b => a.2 ≠ b.2) (times : TriplesMap → Nat) :
    (entries.flatMap fun e => List.replicate (times e.1) e.2).eraseDups =
      (entries.filter fun e => 0 < times e.1).map Prod.snd := by
  induction entries with
  | nil => rfl
  | cons e entries ih =>
    obtain ⟨first, rest⟩ := List.pairwise_cons.mp apart
    have others : ∀ place ∈ entries.flatMap fun e => List.replicate (times e.1) e.2,
        place ≠ e.2 := by
      intro place member same
      obtain ⟨other, listed, inside⟩ := List.mem_flatMap.mp member
      exact first other listed (same.symm.trans (List.eq_of_mem_replicate inside))
    rw [List.flatMap_cons, List.filter_cons]
    cases count : times e.1 with
    | zero => simpa using ih rest
    | succ n =>
      have kept : (List.replicate n e.2 ++
          entries.flatMap fun e => List.replicate (times e.1) e.2).filter (fun b => !b == e.2) =
          entries.flatMap fun e => List.replicate (times e.1) e.2 := by
        rw [List.filter_append, List.filter_eq_nil_iff.mpr, List.nil_append,
          List.filter_eq_self.mpr]
        · intro place member
          simpa using others place member
        · intro place member
          simp [List.eq_of_mem_replicate member]
      rw [List.replicate_succ, List.cons_append, List.eraseDups_cons, kept, ih rest,
        if_pos (decide_eq_true n.succ_pos), List.map_cons]

end RuleGraph

namespace TriplesMap

/-- The subject map lists the class. -/
def HasClass (m : TriplesMap) (iri : String) : Prop :=
  ∃ s, m.subjectMap = some s ∧ iri ∈ s.classes

/-- Some statement has the IRI as a constant predicate. -/
def HasPredicate (m : TriplesMap) (iri : String) : Prop :=
  ∃ pom ∈ m.predicateObjectMaps, ∃ predicate ∈ pom.predicateMaps,
    predicate.constant = some (.iri iri)

/-- Some object is taken from the triples map of this IRI. -/
def RefersTo (m : TriplesMap) (parent : String) : Prop :=
  ∃ pom ∈ m.predicateObjectMaps, ∃ r, .reference r ∈ pom.objectMaps ∧ r.parent = parent

theorem mem_classes_iff {m : TriplesMap} {iri : String} : iri ∈ m.classes ↔ m.HasClass iri := by
  rw [classes, HasClass]
  cases m.subjectMap <;> simp

theorem mem_constantPredicates_iff {m : TriplesMap} {iri : String} :
    iri ∈ m.constantPredicates ↔ m.HasPredicate iri := by
  have constant (predicate : TermMap) :
      predicate.constantIri? = some iri ↔ predicate.constant = some (.iri iri) := by
    rw [TermMap.constantIri?, Option.bind_eq_some_iff]
    constructor
    · rintro ⟨t, given, named⟩
      cases t <;> cases named
      exact given
    · exact fun given => ⟨_, given, rfl⟩
  simp only [constantPredicates, PredicateObjectMap.constantPredicates, List.mem_flatMap,
    List.mem_filterMap, constant, HasPredicate]

theorem refers_iff {m : TriplesMap} {parent : String} :
    (m.referencingMaps.any fun r => r.parent = parent) ↔ m.RefersTo parent := by
  have reference (object : ObjectMap) (r : ReferencingMap) :
      object.referencing? = some r ↔ object = .reference r := by
    cases object <;> simp [ObjectMap.referencing?]
  simp only [List.any_eq_true, decide_eq_true_eq, referencingMaps,
    PredicateObjectMap.referencingMaps, List.mem_flatMap, List.mem_filterMap, reference, RefersTo]
  constructor
  · rintro ⟨r, ⟨pom, inMap, _, listed, rfl⟩, same⟩
    exact ⟨pom, inMap, r, listed, same⟩
  · rintro ⟨pom, inMap, r, listed, same⟩
    exact ⟨r, ⟨pom, inMap, _, listed, rfl⟩, same⟩

instance (m : TriplesMap) (iri : String) : Decidable (m.HasClass iri) :=
  decidable_of_iff _ mem_classes_iff

instance (m : TriplesMap) (iri : String) : Decidable (m.HasPredicate iri) :=
  decidable_of_iff _ mem_constantPredicates_iff

instance (m : TriplesMap) (parent : String) : Decidable (m.RefersTo parent) :=
  decidable_of_iff _ refers_iff

end TriplesMap

namespace RuleGraph

variable (maps : List TriplesMap)

theorem find?_ofList (iri : String) : (ofList maps).find? iri = maps.find? (·.iri = iri) := by
  rw [find?, placeOf?_ofList, List.find?_eq_bind_findIdx?_getElem?]
  refine congrArg _ (funext fun place => ?_)
  rw [get?, maps_ofList]

theorem isSome_placeOf?_iff (iri : String) :
    ((ofList maps).placeOf? iri).isSome ↔ iri ∈ maps.map TriplesMap.iri := by
  rw [placeOf?_ofList, List.findIdx?_isSome, List.any_eq_true, List.mem_map]
  simp only [decide_eq_true_eq]

/-- An IRI is a duplicate once for each triples map that finds it taken. -/
theorem duplicates_ofList : (ofList maps).duplicates =
    (maps.zipIdx.filter fun e => e.1.iri ∈ (maps.take e.2).map TriplesMap.iri).map (·.1.iri) := by
  induction maps using List.reverseRec with
  | nil => rfl
  | append_singleton maps m ih =>
    have earlier : (maps.zipIdx.filter fun e => e.1.iri ∈
        ((maps ++ [m]).take e.2).map TriplesMap.iri) =
        maps.zipIdx.filter fun e => e.1.iri ∈ (maps.take e.2).map TriplesMap.iri := by
      refine List.filter_congr fun e member => ?_
      have inside : e.2 < maps.length :=
        (List.getElem?_eq_some_iff.mp (List.mem_zipIdx_iff_getElem?.mp member)).1
      rw [List.take_append_of_le_length (Nat.le_of_lt inside)]
    have step : ((ofList maps).add m).duplicates =
        if ((ofList maps).placeOf? m.iri).isSome then (ofList maps).duplicates ++ [m.iri]
        else (ofList maps).duplicates := rfl
    rw [ofList_concat, step, List.zipIdx_append, List.filter_append, List.map_append, earlier, ← ih]
    by_cases taken : m.iri ∈ maps.map TriplesMap.iri
    · rw [if_pos ((isSome_placeOf?_iff maps m.iri).mpr taken)]
      simp [taken]
    · rw [if_neg fun some => taken ((isSome_placeOf?_iff maps m.iri).mp some)]
      simp [taken]

/-- Listed once, or not at all. -/
theorem flatMap_replicate_eq_filter {times : TriplesMap → Nat} {p : TriplesMap → Bool}
    (once : ∀ m ∈ maps, times m = if p m then 1 else 0) :
    (maps.flatMap fun m => List.replicate (times m) m) = maps.filter p := by
  induction maps with
  | nil => rfl
  | cons m maps ih =>
    obtain ⟨here, rest⟩ := List.forall_mem_cons.mp once
    rw [List.flatMap_cons, ih rest, here, List.filter_cons]
    split <;> rfl

theorem forSource_ofList (source : String) :
    (ofList maps).forSource source = maps.filter (·.sourceName = source) := by
  have step (g : RuleGraph) (m : TriplesMap) :
      (g.add m).sources = g.sources.fileAll [m.sourceName] g.size := rfl
  rw [forSource, find_filed sources rfl step,
    filterMap_get?_places (List.Subset.refl _) fun m => [m.sourceName].count source,
    List.zipIdx_map_fst]
  refine flatMap_replicate_eq_filter maps fun m _ => ?_
  rw [List.count_singleton]
  simp only [beq_iff_eq, decide_eq_true_eq]

/-- A class leads to a triples map once for each time that its subject map lists it. -/
theorem forClass_ofList (iri : String) : (ofList maps).forClass iri =
    maps.flatMap fun m => List.replicate (m.classes.count iri) m := by
  rw [forClass, find_filed classes rfl (fun _ _ => rfl),
    filterMap_get?_places (List.Subset.refl _) fun m => m.classes.count iri, List.zipIdx_map_fst]

theorem forClass_ofList_of_nodup (distinct : ∀ m ∈ maps, m.classes.Nodup) (iri : String) :
    (ofList maps).forClass iri = maps.filter (·.HasClass iri) := by
  rw [forClass_ofList]
  refine flatMap_replicate_eq_filter maps fun m member => ?_
  rw [(distinct m member).count]
  simp only [TriplesMap.mem_classes_iff, decide_eq_true_eq]

/-- However often a triples map has a predicate, it is found once. -/
theorem forPredicate_ofList (iri : String) :
    (ofList maps).forPredicate iri = maps.filter (·.HasPredicate iri) := by
  have numbers : maps.zipIdx.Pairwise fun a b => a.2 ≠ b.2 := pairwise_zipIdx maps
  rw [forPredicate, find_filed predicates rfl (fun _ _ => rfl),
    eraseDups_places numbers fun m => m.constantPredicates.count iri, List.map_eq_flatMap]
  refine (filterMap_get?_places List.filter_sublist.subset fun _ => 1).trans ?_
  have filtered : (maps.zipIdx.filter fun e => 0 < e.1.constantPredicates.count iri).map Prod.fst =
      (maps.zipIdx.map Prod.fst).filter fun m => 0 < m.constantPredicates.count iri := by
    rw [List.filter_map]
    rfl
  rw [filtered, List.zipIdx_map_fst]
  refine (List.flatMap_singleton' _).trans ?_
  simp only [List.count_pos_iff, TriplesMap.mem_constantPredicates_iff]

theorem referencing_ofList (parent : String) :
    (ofList maps).referencing parent = maps.filter (·.RefersTo parent) := by
  rw [referencing, maps_ofList]
  refine List.filter_congr fun m _ => ?_
  rw [Bool.eq_iff_iff, TriplesMap.refers_iff, decide_eq_true_eq]

/--
An IRI means the first triples map that has it, and the duplicates are the IRIs of those that
find theirs taken, in order. The index of sources, that of predicates and the look at references
find just the triples maps that read the source, have the constant predicate or refer to the
IRI, each once and in the order in which they were added. The index of classes finds a
triples map once for each time that its subject map lists the class, and so each once where
no subject map lists a class twice.
-/
theorem indexes_agree_with_scan :
    (∀ iri, (ofList maps).find? iri = maps.find? (·.iri = iri)) ∧
    (ofList maps).duplicates =
      (maps.zipIdx.filter fun e => e.1.iri ∈ (maps.take e.2).map TriplesMap.iri).map (·.1.iri) ∧
    (∀ source, (ofList maps).forSource source = maps.filter (·.logicalSource.source = source)) ∧
    (∀ iri, (ofList maps).forClass iri =
      maps.flatMap fun m => List.replicate (m.classes.count iri) m) ∧
    ((∀ m ∈ maps, m.classes.Nodup) →
      ∀ iri, (ofList maps).forClass iri = maps.filter (·.HasClass iri)) ∧
    (∀ iri, (ofList maps).forPredicate iri = maps.filter (·.HasPredicate iri)) ∧
    ∀ parent, (ofList maps).referencing parent = maps.filter (·.RefersTo parent) :=
  ⟨find?_ofList maps, duplicates_ofList maps, forSource_ofList maps, forClass_ofList maps,
    forClass_ofList_of_nodup maps, forPredicate_ofList maps, referencing_ofList maps⟩

end RuleGraph

namespace Crew

def iri (text : String) : TermMap := .ofConstant (.iri text)

/-- Two statements have the same predicate, and one of them has it twice. -/
def leads : PredicateObjectMap where
  predicateMaps := [iri "urn:leads", iri "urn:leads"]
  objectMaps := [.reference { parent := "urn:person" }]

def knows : PredicateObjectMap where
  predicateMaps := [iri "urn:leads"]
  objectMaps := [.reference { parent := "urn:person" }]

def person (classes : List String) : TriplesMap where
  iri := "urn:person"
  logicalSource := { source := "staff" }
  subjectMap := some { termMap := .ofReference "id", classes }
  predicateObjectMaps := [leads, knows]

/-- The second has the IRI of the first. -/
def maps : List TriplesMap := [person ["urn:Person", "urn:Agent"], person ["urn:Agent"]]

theorem nodup : ∀ m ∈ maps, m.classes.Nodup := by decide

end Crew

theorem crew_agrees_with_scan :
    (∀ m ∈ Crew.maps, m.classes.Nodup) ∧
    (RuleGraph.ofList Crew.maps).forClass "urn:Agent" = Crew.maps ∧
    (RuleGraph.ofList Crew.maps).forPredicate "urn:leads" = Crew.maps ∧
    (RuleGraph.ofList Crew.maps).duplicates = ["urn:person"] := by
  obtain ⟨-, duplicates, -, -, classes, predicates, -⟩ :=
    RuleGraph.indexes_agree_with_scan Crew.maps
  refine ⟨Crew.nodup, ?_, ?_, ?_⟩
  · rw [classes Crew.nodup]
    decide
  · rw [predicates]
    decide
  · rw [duplicates]
    decide

/-- A class that a subject map lists twice leads to its triples map twice. -/
theorem crew_found_twice :
    (RuleGraph.ofList [Crew.person ["urn:Person", "urn:Person"]]).forClass "urn:Person" =
      [Crew.person ["urn:Person", "urn:Person"], Crew.person ["urn:Person", "urn:Person"]] ∧
    [Crew.person ["urn:Person", "urn:Person"]].filter (·.HasClass "urn:Person") =
      [Crew.person ["urn:Person", "urn:Person"]] := by
  decide

end RdfMapping
