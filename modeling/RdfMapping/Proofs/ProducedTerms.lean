import RdfMapping.Proofs.JoinSites

/-!
# The terms that producers make

A term map that passes its check generates only kinds that its position allows. A
term is the constant of its map or is made of a text, and then an IRI is valid, the
label of a blank node is made of label characters, and a literal with a language has
no datatype.
-/

namespace RdfMapping

/-- The labels of blank nodes that are made of texts. -/
def Term.IsMadeLabel (label : String) : Prop :=
  label = "bnode" ∨
    ∃ cs : List Char, cs ≠ [] ∧ (∀ c ∈ cs, isLabelChar c) ∧ label = "bnode-" ++ String.ofList cs

theorem Term.blankLabel_isMadeLabel (lexical : String) : IsMadeLabel (blankLabel lexical) := by
  have kept : ∀ c ∈ lexical.toList.filter isLabelChar, isLabelChar c := fun c member =>
    (List.mem_filter.mp member).2
  rw [blankLabel]
  split
  · exact .inl rfl
  · rename_i cs some
    exact .inr ⟨_, some, kept, rfl⟩

namespace RuleGraph

def constants (g : RuleGraph) : List Term := g.termMaps.filterMap (·.constant)

def classIris (g : RuleGraph) : List String := g.maps.flatMap TriplesMap.classes

/-- The terms that are written in a rule graph or well-formed by themselves. -/
def Grants (g : RuleGraph) : Term → Prop
  | .iri iri => .iri iri ∈ g.constants ∨ iri ∈ g.classIris ∨ iri = Vocabulary.rdfType ∨
      Iri.isValid iri
  | .blankNode label => .blankNode label ∈ g.constants ∨ Term.IsMadeLabel label
  | .literal _ datatype language => datatype = none ∨ language = none

/-- What a rule graph asks of the terms of its quads. -/
def roles (g : RuleGraph) : Roles := fun position t => position.allows t.kind ∧ g.Grants t

variable {g : RuleGraph}

theorem roles_object {t : Term} : g.roles .object t ↔ g.Grants t :=
  and_iff_right rfl

theorem roles_object_of_subject {t : Term} (role : g.roles .subject t) : g.roles .object t :=
  roles_object.mpr role.2

theorem roles_class {map : TriplesMap} {s : SubjectMap} (listed : map ∈ g.maps)
    (driven : map.subjectMap = some s) {c : String} (member : c ∈ s.classes) :
    g.roles .object (.iri c) := by
  have inside : c ∈ map.classes := by
    rw [TriplesMap.classes, driven]
    exact member
  exact roles_object.mpr (.inr (.inl (List.mem_flatMap.mpr ⟨map, listed, inside⟩)))

theorem roles_rdfType : g.roles .predicate (.iri Vocabulary.rdfType) :=
  ⟨rfl, .inr (.inr (.inl rfl))⟩

end RuleGraph

namespace TermMap

/-- The kind of the constant of a term map, or else of the terms that it makes. -/
def generatedKind (m : TermMap) (position : Position) : TermKind :=
  match m.constant with
  | some constant => constant.kind
  | none => m.effectiveKind position

theorem check_allows {m : TermMap} {label : String} {position : Position}
    (checked : m.check label position = .ok ()) : position.allows (m.generatedKind position) := by
  refine Decidable.byContradiction fun disallowed => ?_
  -- Every way through the earlier checks ends at this one.
  have refused : ∀ {rest : Except Fault Unit}, (match m.constant with
      | some constant => if position.allows constant.kind = true then rest
        else .error (Fault.disallowedConstant label position constant.kind)
      | none => if position.allows (m.effectiveKind position) = true then rest
        else .error (Fault.disallowedKind label position (m.effectiveKind position))) ≠
      .ok () := by
    intro rest passed
    rw [generatedKind] at disallowed
    split at passed
    · rename_i constant same
      rw [same] at disallowed
      rw [if_neg disallowed] at passed
      cases passed
    · rename_i same
      rw [same] at disallowed
      rw [if_neg disallowed] at passed
      cases passed
  rw [check] at checked
  simp only [bind, Except.bind, pure, Except.pure, throw, throwThe, MonadExceptOf.throw] at checked
  split at checked
  · split at checked
    · split at checked
      · split at checked
        · split at checked
          · exact refused checked
          · cases checked
        · exact refused checked
      · cases checked
    · exact refused checked
  · cases checked

theorem kind_constantTerm (m : TermMap) (t : Term) : (m.constantTerm t).kind = t.kind := by
  cases t <;> rfl

theorem compileSource_ok_iff {call : String → Except Fault ValueSource} {m : TermMap}
    {label : String} {position : Position} {source : ValueSource} :
    m.compileSource call label position = .ok source ↔
      m.check label position = .ok () ∧ m.source call label position = .ok source := by
  rw [compileSource, ofExcept_eq, bind_eq_ok_iff]
  constructor
  · rintro ⟨_, checked, found⟩
    exact ⟨checked, found⟩
  · rintro ⟨checked, found⟩
    exact ⟨(), checked, found⟩

/-- The source of values is constant for a constant only; a function call never is. -/
theorem source_constant {call : String → Except Fault ValueSource}
    (calls : ∀ iri, Settles (call iri) (fun _ => True) fun source => ∀ t, source ≠ .constant t)
    (m : TermMap) (label : String) (position : Position) :
    Settles (m.source call label position) (fun _ => True)
      fun source => ∀ t, source = .constant t ↔ m.constant.map m.constantTerm = some t := by
  rw [source]
  split
  · rename_i constant same
    intro t
    simp [same]
  · rename_i same _
    intro t
    simp [same]
  · rename_i same _ _
    split
    · intro t
      simp [same]
    · trivial
  · rename_i iri same _ _ _
    refine (calls iri).imp (fun _ raised => raised) fun source apart t => ?_
    simp [same, apart t]
  · trivial

end TermMap

theorem TriplesMap.callSource_varies (m : TriplesMap) (functions : Registry)
    (call : String → Except Fault ValueSource) :
    Settles (m.callSource functions call) (fun _ => True)
      fun source => ∀ t, source ≠ .constant t := by
  rw [callSource]
  refine (Settles.any _).bind fun draft _ => ?_
  split
  · trivial
  · refine (Settles.any _).bind fun function _ t same => ?_
    cases same

theorem Context.compileCall_varies (ctx : Context) (visiting : List Nat) (iri : String) :
    Settles (ctx.compileCall visiting iri) (fun _ => True)
      fun source => ∀ t, source ≠ .constant t := by
  rw [compileCall]
  split
  · trivial
  · split
    · trivial
    · split
      · trivial
      · exact TriplesMap.callSource_varies _ _ _

theorem RuleGraph.grants_constantTerm {g : RuleGraph} (m : TermMap) {constant : Term}
    (listed : constant ∈ g.constants) : g.Grants (m.constantTerm constant) := by
  cases constant with
  | iri iri => exact .inl listed
  | blankNode label => exact .inl listed
  | literal value datatype language =>
    by_cases tagged : (language.or m.language).isSome
    · refine .inl ?_
      rw [if_pos tagged]
    · exact .inr (Option.not_isSome_iff_eq_none.mp tagged)

theorem Iri.isValid_of_resolve? {lexical iri : String} {base : Option String}
    (resolved : resolve? lexical base = some iri) : isValid iri := by
  unfold resolve? at resolved
  split at resolved
  · rename_i valid
    cases resolved
    exact valid
  · split at resolved
    · split at resolved
      · rename_i valid
        cases resolved
        exact valid
      · cases resolved
    · cases resolved

namespace Producer

variable {ctx : Context} {label : String} {m : TermMap} {position : Position} {p : Producer}

theorem constant?_eq_some {t : Term} : p.constant? = some t ↔ p.source = .constant t := by
  rw [constant?]
  split
  · rename_i constant same
    simp [same]
  · rename_i varies
    constructor
    · intro none
      cases none
    · intro same
      exact (varies t same).elim

/-- Where every lexical form makes a term, the record has these terms, each once. -/
theorem apply_of_lexicals {record : Record} (varies : p.constant? = none) {lexicals : List String}
    {inferred : Option String} (found : p.lexicals record = .ok (lexicals, inferred))
    {term : String → Term}
    (made : ∀ lexical ∈ lexicals, p.makeTerm inferred lexical = .ok (term lexical)) :
    p.apply record = .ok ((lexicals.map term).eraseDups.map (⟨·, p.targets⟩)) := by
  have terms : lexicals.mapM (p.makeTerm inferred) = .ok (lexicals.map term) :=
    mapM_eq_ok_iff.mpr (List.forall₂_map_right_iff.mpr (List.forall₂_same.mpr made))
  rw [apply]
  split
  · rename_i constant source
    rw [constant?, source] at varies
    cases varies
  · rw [found]
    change lexicals.mapM (p.makeTerm inferred) >>= _ = _
    rw [terms]
    rfl

/-- Nothing but its term map, the base and its source of values decides on a producer. -/
theorem compile_ok_iff :
    compile ctx label m position = .ok p ↔
      m.check label position = .ok () ∧
        ∃ source, m.source (ctx.compileCall []) label position = .ok source ∧
          p = {
            label, position, source
            kind := m.effectiveKind position
            language := m.language
            datatype := m.datatype
            base := ctx.base
            targets := m.targets } := by
  rw [compile_eq_stackless, stackless, bind_eq_ok_iff]
  simp only [TermMap.compileSource_ok_iff]
  constructor
  · rintro ⟨source, ⟨checked, found⟩, same⟩
    cases same
    exact ⟨checked, source, found, rfl⟩
  · rintro ⟨checked, source, found, rfl⟩
    exact ⟨source, ⟨checked, found⟩, rfl⟩

theorem compile_follows (compiled : compile ctx label m position = .ok p) :
    position.allows (m.generatedKind position) ∧ p.kind = m.effectiveKind position ∧
      p.constant? = m.constant.map m.constantTerm := by
  obtain ⟨checked, source, found, rfl⟩ := compile_ok_iff.mp compiled
  have sources := m.source_constant (ctx.compileCall_varies []) label position
  rw [found] at sources
  refine ⟨TermMap.check_allows checked, rfl, Option.ext fun t => ?_⟩
  exact constant?_eq_some.trans (sources t)

/-- What is made of a text is of the producer's kind and well-formed by itself. -/
theorem makeTerm_grants {g : RuleGraph} {inferred : Option String} {lexical : String} {t : Term}
    (made : p.makeTerm inferred lexical = .ok t) : t.kind = p.kind ∧ g.Grants t := by
  rw [makeTerm] at made
  split at made
  · rename_i kind
    split at made
    · rename_i iri resolved
      cases made
      exact ⟨kind.symm, .inr (.inr (.inr (Iri.isValid_of_resolve? resolved)))⟩
    · cases made
  · rename_i kind
    cases made
    exact ⟨kind.symm, .inr (Term.blankLabel_isMadeLabel lexical)⟩
  · rename_i kind
    cases made
    split
    · exact ⟨kind.symm, .inl rfl⟩
    · exact ⟨kind.symm, .inr rfl⟩
    · exact ⟨kind.symm, .inr rfl⟩

/-- A compiled term map makes only terms for the position that it was compiled for. -/
theorem makes_roles (compiled : compile ctx label m position = .ok p)
    (written : m ∈ ctx.graph.termMaps) {t : Term} (makes : p.Makes t) :
    ctx.graph.roles position t := by
  obtain ⟨allowed, kind, constants⟩ := compile_follows compiled
  rw [Makes, constants] at makes
  cases constant : m.constant with
  | some c =>
    rw [TermMap.generatedKind, constant] at allowed
    rw [constant] at makes
    have same : t = m.constantTerm c := makes
    have listed : c ∈ ctx.graph.constants := List.mem_filterMap.mpr ⟨m, written, constant⟩
    subst same
    refine ⟨?_, RuleGraph.grants_constantTerm m listed⟩
    rw [TermMap.kind_constantTerm]
    exact allowed
  | none =>
    rw [TermMap.generatedKind, constant, ← kind] at allowed
    rw [constant] at makes
    obtain ⟨inferred, lexical, made⟩ := makes
    obtain ⟨same, granted⟩ := makeTerm_grants made
    refine ⟨?_, granted⟩
    rw [same]
    exact allowed

end Producer

/--
Whatever a record holds, its triples map posts to its own stores and joins and gives
terms that fit their positions; its faults are of the record's making.
-/
theorem Plan.Realizes.survey_meets {g : RuleGraph} {functions : Registry} {settings : Settings}
    {plan : Plan} (realized : plan.Realizes g functions settings) {m : MapPlan}
    (member : m ∈ plan.maps) (emitClasses : Bool) (record : Record) :
    (m.survey emitClasses record).Meets (fun posting => m.Owns posting ∧ posting.Fits g.roles)
      (Fault.RaisedOn functions record) fun quads => ∀ q ∈ quads, q.Fits g.roles := by
  obtain ⟨d, listed, whole⟩ := realized.exists_driven member
  obtain ⟨found, driven⟩ := RuleGraph.mem_driven.mp listed
  have supplies : (Context.mk g functions settings.base).Supplies record
      (Fault.RaisedOn functions record) g.roles := by
    intro tm written label position p compiled
    refine (Producer.apply_settles (Producer.compile_registered compiled)).imp
      (fun _ raised => raised) fun terms makes t inside => ?_
    exact Producer.makes_roles compiled written (makes t inside)
  refine MapPlan.survey_meets ?_ emitClasses
  exact whole.supplies listed Record.evaluate_raises supplies
    (fun c => RuleGraph.roles_class (List.mem_of_getElem? found) driven) RuleGraph.roles_rdfType
    fun t => RuleGraph.roles_object_of_subject

end RdfMapping
