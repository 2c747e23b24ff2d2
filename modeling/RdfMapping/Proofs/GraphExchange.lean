import RdfMapping.Proofs.JsonTexts
import RdfMapping.Proofs.Places
import RdfMapping.Rules.Exchange

/-!
# Rule graphs in exchange

A rule graph that is written is read back as it was. Each part is recovered from what is
written for it, and is nested no deeper than is read. The members of a subject map that its
term map is gathered from are those that were written for the term map.
-/

namespace RdfMapping

namespace Json

open Outline

variable {members : List (String × Json)}

theorem filter_outlineMembers (wanted : String → Bool) :
    (outlineMembers members).filter (wanted ·.1)
      = outlineMembers (members.filter (wanted ·.1)) := by
  rw [outlineMembers_eq_map, outlineMembers_eq_map, List.filter_map]
  rfl

theorem uniqueMember?_outlineMembers (distinct : (members.map Prod.fst).Nodup)
    {m : String × Json} (listed : m ∈ members) :
    uniqueMember? (outlineMembers members) m.1 = some (some m.2.outline) := by
  have only : members.filter (fun other => decide (other.1 = m.1)) = [m] := by
    induction members with
    | nil => cases listed
    | cons first rest ih =>
      obtain ⟨fresh, distinct⟩ := List.nodup_cons.mp distinct
      rcases List.mem_cons.mp listed with rfl | later
      · have none : rest.filter (fun other => decide (other.1 = m.1)) = [] := by
          rw [List.filter_eq_nil_iff]
          intro other listed same
          rw [decide_eq_true_iff] at same
          exact fresh (same ▸ List.mem_map_of_mem listed)
        rw [List.filter_cons_of_pos (by simp), none]
      · have apart : first.1 ≠ m.1 := fun same => fresh (same ▸ List.mem_map_of_mem later)
        rw [List.filter_cons_of_neg (by simpa using apart), ih distinct later]
  have filtered : (outlineMembers members).filter (·.1 = m.1) = [(m.1, m.2.outline)] := by
    rw [filter_outlineMembers fun name => decide (name = m.1), only]
    rfl
  rw [uniqueMember?, filtered]

theorem objectFields?_outline {names : List String} (wanted : List (String × Json))
    (named : wanted.map Prod.fst = names) (listed : wanted ⊆ members)
    (distinct : (members.map Prod.fst).Nodup) :
    objectFields? names (Json.object members).outline
      = some (wanted.map fun m => some m.2.outline) := by
  subst named
  rw [outline, objectFields?]
  induction wanted with
  | nil => rfl
  | cons m wanted ih =>
    obtain ⟨first, later⟩ := List.cons_subset.mp listed
    rw [List.map_cons, List.mapM_cons, uniqueMember?_outlineMembers distinct first, ih later]
    rfl

theorem fields?_outline {names : List String} (named : members.map Prod.fst = names)
    (distinct : names.Nodup) :
    fields? names (Json.object members).outline = some (members.map fun m => some m.2.outline) :=
  objectFields?_outline members named (List.Subset.refl _) (named ▸ distinct)

end Json

namespace Exchange

open Json Json.Outline

variable {α : Type} {shape : Outline → Option α} {write : α → Json} {depth : Nat}

/-- The shape takes back what was written. -/
def Recovers (shape : Outline → Option α) (write : α → Json) : Prop :=
  ∀ a, shape (write a).outline = some a

theorem recovers_text : Recovers text? .text := fun _ => rfl

theorem Recovers.list (each : Recovers shape write) :
    Recovers (listOf? shape) fun items => .array (items.map write) := by
  intro items
  rw [outline, outlineItems_eq_map, listOf?, List.map_map]
  induction items with
  | nil => rfl
  | cons item rest ih =>
    rw [List.map_cons, List.mapM_cons, ih, Function.comp_apply, each]
    rfl

theorem Recovers.option (each : Recovers shape write) (notNull : shape .null = none)
    (a : Option α) : optional? shape (some (ofOption write a).outline) = some a := by
  cases a with
  | none => rfl
  | some a =>
    have written := each a
    rw [ofOption, optional?, withDefault?]
    cases form : (write a).outline with
    | null =>
      rw [form, notNull] at written
      cases written
    | _ => rw [form] at written; simp [orNull?, written]

theorem recovers_texts : Recovers (listOf? text?) ofTexts := recovers_text.list

theorem recovers_targets : Recovers targets? fun targets : Targets => ofTexts targets.toList := by
  intro targets
  rw [targets?, recovers_texts, Option.map_some, OrderedSet.ofList_toList]

theorem recovers_term (medium : Medium) : Recovers (term? medium) ofTerm := by
  intro t
  cases t with
  | iri s => rfl
  | blankNode label => rfl
  | literal value datatype language =>
    change literal? medium (Json.outline (.object [("value", .text value),
      ("datatype", ofOption .text datatype), ("language", ofOption .text language)])) = _
    rw [literal?, fields?_outline]
    · simp [outline, required?, text?, recovers_text.option rfl]
    · rfl
    · decide

theorem recovers_kind (medium : Medium) : Recovers (kind? medium) ofKind := by
  intro kind
  cases kind <;> rfl

theorem recovers_logicalSource : Recovers logicalSource? ofLogicalSource := by
  intro s
  simp [logicalSource?, ofLogicalSource, fields?_outline, required?, recovers_text.option rfl,
    recovers_text s.source]

theorem recovers_termMapFields (medium : Medium) (m : TermMap) :
    termMapOfFields? medium ((termMapMembers m).map fun f => some f.2.outline) = some m := by
  simp [termMapMembers, termMapOfFields?, withDefault?, recovers_text.option rfl,
    (recovers_term medium).option rfl, (recovers_kind medium).option rfl,
    recovers_targets m.targets]

theorem recovers_termMap (medium : Medium) : Recovers (termMap? medium) ofTermMap := by
  intro m
  rw [termMap?, ofTermMap, fields?_outline]
  · exact recovers_termMapFields medium m
  · rfl
  · decide

theorem recovers_termMaps (medium : Medium) : Recovers (termMaps? medium) ofTermMaps :=
  (recovers_termMap medium).list

/-- Of a subject map those members are gathered that were written for its term map. -/
theorem gatheredMembers?_outline (m : SubjectMap) :
    gatheredMembers? (ofSubjectMap m).outline = some (ofTermMap m.termMap).outline := by
  have own : (termMapMembers m.termMap
        ++ [("classes", ofTexts m.classes), ("graph_maps", ofTermMaps m.graphMaps)]).filter
      (fun member => !ownSubjectNames.contains member.1) = termMapMembers m.termMap := by
    simp [termMapMembers, ownSubjectNames]
  have complete : (outlineMembers (termMapMembers m.termMap)).all (·.2.isComplete) := by
    simp [outlineMembers_eq_map, isComplete]
  rw [ofSubjectMap, outline, gatheredMembers?,
    filter_outlineMembers fun name => !ownSubjectNames.contains name, own, complete]
  rfl

theorem recovers_subjectMap (medium : Medium) : Recovers (subjectMap? medium) ofSubjectMap := by
  intro m
  have own : objectFields? ownSubjectNames (ofSubjectMap m).outline
      = some [some (ofTexts m.classes).outline, some (ofTermMaps m.graphMaps).outline] := by
    refine objectFields?_outline
      [("classes", ofTexts m.classes), ("graph_maps", ofTermMaps m.graphMaps)] rfl
      (List.subset_append_right _ _) ?_
    simp [termMapMembers]
  simp [subjectMap?, gatheredMembers?_outline, recovers_termMap .gathered m.termMap, own,
    withDefault?, recovers_texts m.classes, recovers_termMaps medium m.graphMaps]

theorem recovers_joinCondition : Recovers joinCondition? ofJoinCondition := by
  intro c
  simp [joinCondition?, ofJoinCondition, fields?_outline, required?, recovers_text _]

theorem recovers_referencingMap : Recovers referencingMap? ofReferencingMap := by
  intro m
  simp [referencingMap?, ofReferencingMap, fields?_outline, required?, withDefault?,
    recovers_text m.parent, recovers_joinCondition.list m.conditions, recovers_targets m.targets]

theorem recovers_objectMap (medium : Medium) : Recovers (objectMap? medium) ofObjectMap := by
  intro m
  cases m with
  | term m =>
    have chosen : choice? (ofObjectMap (.term m)).outline
        = some ("Term", some (ofTermMap m).outline) := rfl
    simp [objectMap?, chosen, recovers_termMap medium m]
  | reference m =>
    have chosen : choice? (ofObjectMap (.reference m)).outline
        = some ("RefObjectMap", some (ofReferencingMap m).outline) := rfl
    simp [objectMap?, chosen, recovers_referencingMap m]

theorem recovers_predicateObjectMap (medium : Medium) :
    Recovers (predicateObjectMap? medium) ofPredicateObjectMap := by
  intro m
  simp [predicateObjectMap?, ofPredicateObjectMap, fields?_outline, required?, withDefault?,
    recovers_termMaps medium _, (recovers_objectMap medium).list m.objectMaps]

theorem recovers_triplesMap (medium : Medium) : Recovers (triplesMap? medium) ofTriplesMap := by
  intro m
  simp [triplesMap?, ofTriplesMap, fields?_outline, required?, withDefault?,
    recovers_text m.iri, recovers_logicalSource m.logicalSource,
    (recovers_subjectMap medium).option rfl,
    (recovers_predicateObjectMap medium).list m.predicateObjectMaps]

theorem isPlain_object_iff {members : List (String × Json)} :
    IsPlain (depth + 1) (.object members) ↔ ∀ m ∈ members, IsPlain depth m.2 := by
  constructor
  · rintro (_ | _ | _ | _ | each)
    exact each
  · exact .object

theorem isPlain_option (each : ∀ a, IsPlain depth (write a)) (a : Option α) :
    IsPlain depth (ofOption write a) := by
  cases a with
  | none => exact .null depth
  | some a => exact each a

theorem isPlain_list (each : ∀ a, IsPlain depth (write a)) (items : List α) :
    IsPlain (depth + 1) (.array (items.map write)) := by
  refine .array fun item listed => ?_
  obtain ⟨a, -, rfl⟩ := List.mem_map.mp listed
  exact each a

theorem isPlain_texts (texts : List String) : IsPlain (depth + 1) (ofTexts texts) :=
  isPlain_list (IsPlain.text depth) texts

theorem isPlain_term (t : Term) : IsPlain (depth + 2) (ofTerm t) := by
  cases t <;> simp [ofTerm, isPlain_object_iff, IsPlain.text, isPlain_option]

theorem isPlain_termMapMembers (m : TermMap) :
    ∀ member ∈ termMapMembers m, IsPlain (depth + 2) member.2 := by
  have kind : ∀ kind, IsPlain (depth + 2) (ofKind kind) := fun kind => .text _ kind.name
  simp [termMapMembers, IsPlain.text, isPlain_option, kind, isPlain_term, isPlain_texts]

theorem isPlain_termMap (m : TermMap) : IsPlain (depth + 3) (ofTermMap m) :=
  .object (isPlain_termMapMembers m)

theorem isPlain_termMaps (maps : List TermMap) : IsPlain (depth + 4) (ofTermMaps maps) :=
  isPlain_list isPlain_termMap maps

theorem isPlain_subjectMap (m : SubjectMap) : IsPlain (depth + 5) (ofSubjectMap m) := by
  refine .object fun member listed => ?_
  rcases List.mem_append.mp listed with shared | own
  · exact isPlain_termMapMembers m.termMap member shared
  · simp only [List.mem_cons, List.not_mem_nil, or_false] at own
    rcases own with rfl | rfl
    · exact isPlain_texts m.classes
    · exact isPlain_termMaps m.graphMaps

theorem isPlain_objectMap (m : ObjectMap) : IsPlain (depth + 4) (ofObjectMap m) := by
  cases m with
  | term m => simp [ofObjectMap, isPlain_object_iff, isPlain_termMap]
  | reference m =>
    have conditions : IsPlain (depth + 2) (.array (m.conditions.map ofJoinCondition)) := by
      refine isPlain_list (fun c => ?_) m.conditions
      simp [ofJoinCondition, isPlain_object_iff, IsPlain.text]
    simp [ofObjectMap, ofReferencingMap, isPlain_object_iff, IsPlain.text, conditions,
      isPlain_texts]

theorem isPlain_predicateObjectMap (m : PredicateObjectMap) :
    IsPlain (depth + 6) (ofPredicateObjectMap m) := by
  simp [ofPredicateObjectMap, isPlain_object_iff, isPlain_termMaps,
    isPlain_list isPlain_objectMap]

theorem isPlain_triplesMap (m : TriplesMap) : IsPlain (depth + 8) (ofTriplesMap m) := by
  simp [ofTriplesMap, ofLogicalSource, isPlain_object_iff, IsPlain.text, isPlain_option,
    isPlain_subjectMap, isPlain_list isPlain_predicateObjectMap]

end Exchange

namespace RuleGraph

/-- A rule graph is read from its text as it was written, with the same triples maps in the
same order and so with the same places, duplicates and indexes. -/
theorem read_compact (maps : List TriplesMap) :
    (ofList maps).maps = maps ∧ read (ofList maps).toJson.compact = .ok (ofList maps) := by
  refine ⟨maps_ofList maps, ?_⟩
  have plain : Json.IsPlain Json.maxDepth (ofList maps).toJson :=
    Exchange.isPlain_list Exchange.isPlain_triplesMap _
  have recovered : ofOutline? (ofList maps).toJson.outline = some (ofList maps) := by
    have each := (Exchange.recovers_triplesMap .text).list (ofList maps).maps
    rw [ofOutline?, toJson, each, Option.map_some, maps_ofList]
  rw [read, Json.outline?_compact plain, Option.bind_some, recovered]

end RuleGraph

end RdfMapping
