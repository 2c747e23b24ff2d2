import Mathlib.Data.List.Nodup
import RdfMapping.Proofs.Surveys
import RdfMapping.Proofs.Validation

/-!
# Where joins stand

Every join of a compiled plan comes from one reference of a triples map to
another. Child and parent are both in the plan, the ledger knows the join by
their places, and the store of the join is one that the parent fills.
-/

namespace RdfMapping

theorem getElem?_of_forall₂ {α β : Type} {related : α × Nat → β → Prop} {as : List α}
    {bs : List β} (all : List.Forall₂ related as.zipIdx bs) {i : Nat} {b : β}
    (found : bs[i]? = some b) : ∃ a, as[i]? = some a ∧ related (a, i) b := by
  obtain ⟨inside, rfl⟩ := List.getElem?_eq_some_iff.mp found
  have length := all.length_eq
  rw [List.length_zipIdx] at length
  have here := all.get (by simpa [length] using inside) inside
  simp only [List.get_eq_getElem, List.getElem_zipIdx, Nat.zero_add] at here
  exact ⟨as[i], List.getElem?_eq_getElem (by omega), here⟩

theorem exists_getElem?_of_forall₂ {α β : Type} {related : α × Nat → β → Prop} {as : List α}
    {bs : List β} (all : List.Forall₂ related as.zipIdx bs) {i : Nat} {a : α}
    (found : as[i]? = some a) : ∃ b, bs[i]? = some b ∧ related (a, i) b := by
  have length := all.length_eq
  rw [List.length_zipIdx] at length
  have inside : i < bs.length := length ▸ (List.getElem?_eq_some_iff.mp found).1
  obtain ⟨_, here, made⟩ := getElem?_of_forall₂ all (List.getElem?_eq_getElem inside)
  cases found.symm.trans here
  exact ⟨_, List.getElem?_eq_getElem inside, made⟩

theorem RuleGraph.nodup_driven_places (g : RuleGraph) : (g.driven.map Driven.place).Nodup := by
  refine List.pairwise_map.mpr ((pairwise_zipIdx g.maps).filterMap _ ?_)
  rintro first next apart a here b there
  obtain ⟨s, -, rfl⟩ := Option.map_eq_some_iff.mp here
  obtain ⟨t, -, rfl⟩ := Option.map_eq_some_iff.mp there
  exact apart

namespace Plan

variable {g : RuleGraph} {functions : Registry} {settings : Settings} {plan : Plan}

theorem Realizes.places (realized : plan.Realizes g functions settings) :
    plan.maps.map MapPlan.place = g.driven.map Driven.place := by
  refine List.forall₂_eq_eq_eq ▸ List.forall₂_map_left_iff.mpr (List.forall₂_map_right_iff.mpr ?_)
  exact (realized.maps.imp fun d m whole => whole.place.symm).flip.imp fun m d same => same.symm

/-- The maps of a plan are told apart by their places. -/
theorem Realizes.place_inj (realized : plan.Realizes g functions settings) {m n : MapPlan}
    (first : m ∈ plan.maps) (next : n ∈ plan.maps) (same : m.place = n.place) : m = n := by
  have nodup := g.nodup_driven_places
  rw [← realized.places] at nodup
  exact List.inj_on_of_nodup_map nodup first next same

theorem Realizes.exists_driven (realized : plan.Realizes g functions settings) {m : MapPlan}
    (member : m ∈ plan.maps) :
    ∃ d ∈ g.driven, m.Realizes ⟨g, functions, settings.base⟩ plan.ledger d :=
  exists_left_of_forall₂ realized.maps member

theorem Realizes.exists_map (realized : plan.Realizes g functions settings) {d : Driven}
    (listed : d ∈ g.driven) : ∃ m ∈ plan.maps, m.place = d.place := by
  have member : d.place ∈ plan.maps.map MapPlan.place := by
    rw [realized.places]
    exact List.mem_map_of_mem listed
  exact List.mem_map.mp member

/-- The stores that a triples map fills are those with its place. -/
theorem Realizes.mem_parentKeys (realized : plan.Realizes g functions settings) {m : MapPlan}
    (member : m ∈ plan.maps) {expressions : List String} {store : Nat} :
    (expressions, store) ∈ m.parentKeys ↔
      (plan.ledger.stores[store]?).map (fun slot => (slot.parent, slot.expressions)) =
        some (m.place, expressions) := by
  rw [realized.parentKeys m member, Ledger.parentStores, List.mem_mergeSort]
  simp only [List.mem_filterMap, Prod.exists, List.mk_mem_zipIdx_iff_getElem?,
    Option.map_eq_some_iff, Prod.mk.injEq]
  constructor
  · rintro ⟨slot, i, stored, found⟩
    split at found
    · rename_i filled
      cases found
      exact ⟨slot, stored, filled, rfl⟩
    · cases found
  · rintro ⟨slot, stored, filled, rfl⟩
    exact ⟨slot, store, stored, by simp [filled]⟩

end Plan

/-- A reference, the triples maps that it connects and the predicate-object map it stands in. -/
structure JoinSite where
  child : MapPlan
  parent : MapPlan
  predicateObject : PredicateObjectPlan
  reference : ReferencingMap

/-- A join of the plan comes from the reference that the rule graph has at its place. -/
structure Plan.Registers (g : RuleGraph) (plan : Plan) (join : Nat) (site : JoinSite) : Prop where
  child : site.child ∈ plan.maps
  parent : site.parent ∈ plan.maps
  referred : g.placeOf? site.reference.parent = some site.parent.place
  written : ∃ (map : TriplesMap) (pom : PredicateObjectMap) (i k : Nat),
    g.get? site.child.place = some map ∧
    map.predicateObjectMaps[i]? = some pom ∧
    pom.objectMaps[k]? = some (.reference site.reference) ∧
    site.child.predicateObjects[i]? = some site.predicateObject ∧
    site.predicateObject.objects[k]? = some (.join join site.reference.childExpressions)

namespace Plan

variable {g : RuleGraph} {functions : Registry} {settings : Settings} {plan : Plan}

/-- The ledger has the places of the child and the parent, and a store that the parent fills. -/
theorem Registers.spec (realized : plan.Realizes g functions settings) {join : Nat}
    {site : JoinSite} (registers : plan.Registers g join site) :
    ∃ parentIri childIri store, (plan.ledger.join? join).map Join.spec =
        some ⟨site.parent.place, parentIri, site.child.place, childIri, store,
          site.reference.targets⟩ ∧
      (plan.ledger.stores[store]?).map (fun slot => (slot.parent, slot.expressions)) =
        some (site.parent.place, site.reference.parentExpressions) := by
  obtain ⟨map, pom, i, k, placed, inMap, inPom, planned, inObjects⟩ := registers.written
  obtain ⟨d, listed, whole⟩ := realized.exists_driven registers.child
  obtain ⟨found, -⟩ := RuleGraph.mem_driven.mp listed
  rw [whole.place, found] at placed
  cases placed
  obtain ⟨m, here, realizes⟩ := getElem?_of_forall₂ whole.predicateObjects planned
  rw [inMap] at here
  cases here
  obtain ⟨object, here, made⟩ := getElem?_of_forall₂ realizes.objects inObjects
  rw [inPom] at here
  cases here
  cases made with
  | join placed found driven apart registered stored =>
    have same := registers.referred.symm.trans placed
    cases same
    exact ⟨_, _, _, whole.place ▸ registered, stored⟩

/-- A join that stands in the plan comes from the reference at the same place of the graph. -/
theorem Realizes.exists_reference (realized : plan.Realizes g functions settings) {m : MapPlan}
    (member : m ∈ plan.maps) {i k join : Nat} {pom : PredicateObjectPlan}
    {expressions : List String} (planned : m.predicateObjects[i]? = some pom)
    (inObjects : pom.objects[k]? = some (.join join expressions)) :
    ∃ map source reference parent, g.get? m.place = some map ∧
      map.predicateObjectMaps[i]? = some source ∧
      source.objectMaps[k]? = some (.reference reference) ∧
      plan.Registers g join ⟨m, parent, pom, reference⟩ := by
  obtain ⟨d, driven, whole⟩ := realized.exists_driven member
  obtain ⟨placed, -⟩ := RuleGraph.mem_driven.mp driven
  rw [← whole.place] at placed
  obtain ⟨source, mapped, realizes⟩ := getElem?_of_forall₂ whole.predicateObjects planned
  obtain ⟨object, sourced, made⟩ := getElem?_of_forall₂ realizes.objects inObjects
  cases made with
  | @join reference parentPlace parent subjectMap number store placed' found driven apart registered
      stored =>
    have listed : ⟨parentPlace, parent, subjectMap⟩ ∈ g.driven :=
      RuleGraph.mem_driven.mpr ⟨found, driven⟩
    obtain ⟨parentPlan, inPlan, parentAt⟩ := realized.exists_map listed
    refine ⟨d.map, source, reference, parentPlan, placed, mapped, sourced, member, inPlan,
      parentAt ▸ placed', ?_⟩
    exact ⟨d.map, source, i, k, placed, mapped, sourced, planned, inObjects⟩

/-- A join of a triples map in the plan has a site there. -/
theorem Realizes.exists_site (realized : plan.Realizes g functions settings) {m : MapPlan}
    (member : m ∈ plan.maps) {join : Nat} (listed : join ∈ m.joins) :
    ∃ site, site.child = m ∧ plan.Registers g join site := by
  obtain ⟨pom, inMap, inPom⟩ := List.mem_flatMap.mp listed
  obtain ⟨i, planned⟩ := List.mem_iff_getElem?.mp inMap
  obtain ⟨object, inside, isJoin⟩ := List.mem_flatMap.mp inPom
  obtain ⟨k, inObjects⟩ := List.mem_iff_getElem?.mp inside
  cases object with
  | term producer => exact (List.not_mem_nil isJoin).elim
  | sameRecord subject targets => exact (List.not_mem_nil isJoin).elim
  | join number expressions =>
    cases List.mem_singleton.mp isJoin
    obtain ⟨_, _, _, _, -, -, -, registers⟩ :=
      realized.exists_reference member planned inObjects
    exact ⟨_, rfl, registers⟩

end Plan

end RdfMapping
