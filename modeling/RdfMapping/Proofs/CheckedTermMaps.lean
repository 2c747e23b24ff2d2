import RdfMapping.Proofs.ProducedTerms

/-!
# Checked term maps

A term map that passes its check declares one source of values and generates a kind
that its position allows. So a template or a function value that it declares is the
source that it is compiled to.
-/

namespace RdfMapping

namespace TermMap

variable {m : TermMap} {label : String} {position : Position}

theorem strategyCount_of_check (checked : m.check label position = .ok ()) :
    m.strategyCount = 1 := by
  by_cases one : m.strategyCount = 1
  · exact one
  · rw [check, if_neg one] at checked
    cases checked

theorem declared_of_check (checked : m.check label position = .ok ()) {kind : TermKind}
    (declared : m.kind = some kind) : position.allows kind := by
  have one := strategyCount_of_check checked
  rw [check, if_pos one, declared] at checked
  by_cases allowed : position.allows kind
  · exact allowed
  · dsimp only [bind, Except.bind, pure, Except.pure] at checked
    rw [if_neg allowed] at checked
    cases checked

theorem effectiveKind_of_check (checked : m.check label position = .ok ()) :
    position.allows (m.effectiveKind position) := by
  have generated := check_allows checked
  cases declared : m.kind with
  | some kind =>
    have effective : m.effectiveKind position = kind := by
      rw [effectiveKind, declared]
    rw [effective]
    exact declared_of_check checked declared
  | none =>
    have same : m.effectiveKind position = m.generatedKind position := by
      rw [generatedKind, effectiveKind, declared]
      cases m.constant <;> rfl
    rw [same]
    exact generated

theorem eq_none_of_toNat {α : Type} {o : Option α} (zero : o.isSome.toNat = 0) : o = none := by
  cases o with
  | none => rfl
  | some a => cases zero

theorem reference_alone (one : m.strategyCount = 1) {expression : String}
    (declared : m.reference = some expression) :
    m.constant = none ∧ m.template = none ∧ m.functionValue = none := by
  simp only [strategyCount, declared, Option.isSome_some, Bool.toNat_true] at one
  exact ⟨eq_none_of_toNat (by omega), eq_none_of_toNat (by omega), eq_none_of_toNat (by omega)⟩

/-- A template that is declared is the only source of values. -/
theorem template_alone (one : m.strategyCount = 1) {text : String}
    (declared : m.template = some text) :
    m.constant = none ∧ m.reference = none ∧ m.functionValue = none := by
  simp only [strategyCount, declared, Option.isSome_some, Bool.toNat_true] at one
  exact ⟨eq_none_of_toNat (by omega), eq_none_of_toNat (by omega), eq_none_of_toNat (by omega)⟩

theorem functionValue_alone (one : m.strategyCount = 1) {iri : String}
    (declared : m.functionValue = some iri) :
    m.constant = none ∧ m.reference = none ∧ m.template = none := by
  simp only [strategyCount, declared, Option.isSome_some, Bool.toNat_true] at one
  exact ⟨eq_none_of_toNat (by omega), eq_none_of_toNat (by omega), eq_none_of_toNat (by omega)⟩

theorem source_reference {μ : Type → Type} [Monad μ] [MonadExcept Fault μ]
    {call : String → μ ValueSource} (one : m.strategyCount = 1) {expression : String}
    (declared : m.reference = some expression) :
    m.source call label position = pure (.reference expression) := by
  obtain ⟨constant, -⟩ := reference_alone one declared
  simp only [source, constant, declared]

theorem source_template {μ : Type → Type} [Monad μ] [MonadExcept Fault μ]
    {call : String → μ ValueSource} (one : m.strategyCount = 1) {text : String}
    (declared : m.template = some text) {t : Template} (readable : Template.read text = .ok t) :
    m.source call label position = pure (.template t (m.effectiveKind position = .iri)) := by
  obtain ⟨constant, reference, -⟩ := template_alone one declared
  simp only [source, constant, reference, declared, readable]

theorem source_function {μ : Type → Type} [Monad μ] [MonadExcept Fault μ]
    {call : String → μ ValueSource} (one : m.strategyCount = 1) {iri : String}
    (declared : m.functionValue = some iri) : m.source call label position = call iri := by
  obtain ⟨constant, reference, template⟩ := functionValue_alone one declared
  simp only [source, constant, reference, template, declared]

/-- The source of values that a term map compiles to, from the first that it declares. -/
inductive DrawsOn (call : String → Except Fault ValueSource) (position : Position) (m : TermMap) :
    ValueSource → Prop where
  | constant {t : Term} (declared : m.constant = some t) :
      DrawsOn call position m (.constant (m.constantTerm t))
  | reference {expression : String} (declared : m.reference = some expression) :
      DrawsOn call position m (.reference expression)
  | template {text : String} {t : Template} (noReference : m.reference = none)
      (declared : m.template = some text) (readable : Template.read text = .ok t) :
      DrawsOn call position m (.template t (m.effectiveKind position = .iri))
  | call {iri : String} {source : ValueSource} (declared : m.functionValue = some iri)
      (called : call iri = .ok source) : DrawsOn call position m source

theorem drawsOn_of_source {call : String → Except Fault ValueSource} {source : ValueSource}
    (found : m.source call label position = .ok source) : m.DrawsOn call position source := by
  rw [TermMap.source] at found
  split at found
  · cases found
    exact .constant (by assumption)
  · cases found
    exact .reference (by assumption)
  · split at found
    · cases found
      exact .template (by assumption) (by assumption) (by assumption)
    · cases found
  · exact .call (by assumption) found
  · cases found

/-- The term map compiles to this producer, under some name for faults. -/
def Becomes (ctx : Context) (position : Position) (m : TermMap) (p : Producer) : Prop :=
  ∃ label, Producer.compile ctx label m position = .ok p

end TermMap

section

variable {ctx : Context} {ledger : Ledger} {place : Nat} {map : TriplesMap}

theorem Producer.RealizeAll.becomes {label : String} {position : Position}
    {maps : List TermMap} {producers : List Producer}
    (realized : RealizeAll ctx label position maps producers) :
    List.Forall₂ (TermMap.Becomes ctx position) maps producers := by
  have numbered : List.Forall₂ (fun m p => TermMap.Becomes ctx position m.1 p) maps.zipIdx
      producers := realized.imp fun m p compiled => ⟨_, compiled⟩
  rw [← List.zipIdx_map_fst 0 maps]
  exact List.forall₂_map_left_iff.mpr numbered

theorem PredicateObjectPlan.Realizes.exists_object {entry : PredicateObjectMap × Nat}
    {plan : PredicateObjectPlan} (realized : plan.Realizes ctx ledger place map entry)
    {object : ObjectMap} (listed : object ∈ entry.1.objectMaps) :
    ∃ label, ∃ found ∈ plan.objects, found.Realizes ctx ledger place map label object := by
  obtain ⟨k, numbered⟩ := exists_mem_zipIdx listed
  obtain ⟨found, planned, realizes⟩ := exists_right_of_forall₂ realized.objects numbered
  exact ⟨_, found, planned, realizes⟩

theorem MapPlan.Realizes.exists_predicateObject {d : Driven} {plan : MapPlan}
    (realized : plan.Realizes ctx ledger d) {pom : PredicateObjectMap}
    (listed : pom ∈ d.map.predicateObjectMaps) :
    ∃ i, ∃ found ∈ plan.predicateObjects, found.Realizes ctx ledger d.place d.map (pom, i) := by
  obtain ⟨i, numbered⟩ := exists_mem_zipIdx listed
  obtain ⟨found, planned, realizes⟩ := exists_right_of_forall₂ realized.predicateObjects numbered
  exact ⟨i, found, planned, realizes⟩

end

end RdfMapping
