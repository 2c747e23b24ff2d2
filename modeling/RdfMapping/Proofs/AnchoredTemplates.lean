import RdfMapping.Json.DotPath
import RdfMapping.Proofs.RowwiseTemplates
import RdfMapping.Proofs.TemplateIris

/-!
# Anchored templates

An IRI template is anchored where it starts with an absolute text or stands behind a valid
base. If its texts hold no character that IRIs may not hold, every row of it becomes an IRI,
whatever values a record has for its slots: encoding leaves nothing in them that is refused,
and what follows the first colon cannot move it. So applying such a term map fails only
where the record fails or where the slots have lists of different lengths.
-/

namespace RdfMapping

namespace Template

variable {t : Template}

/-- The IRIs begin with a scheme, from the template itself or from the base. -/
def Anchored (t : Template) (base : Option String) : Prop :=
  t.StartsAbsolute ∨ ∃ iri, base = some iri ∧ Iri.isValid iri

/-- No row of an anchored template is refused. -/
theorem exists_resolve?_iriOf (allowed : t.HoldsAllowed) {base : Option String}
    (anchored : t.Anchored base) (row : List String) :
    ∃ iri, Iri.resolve? (t.iriOf row) base = some iri := by
  rcases anchored with starts | ⟨iri, rfl, valid⟩
  · exact ⟨_, Iri.resolve?_of_isValid (isValid_iriOf allowed starts row) base⟩
  · exact Iri.resolve?_of_isValid_base valid fun c member =>
      isForbidden_of_mem_iriOf allowed member

/-- The rows of a template fail where a slot fails or where lists differ in length. -/
theorem rows_eq_error {resolve : Slot → Except Fault SlotValues} {f : Fault}
    (failed : t.rows resolve = .error f) :
    (∃ slot ∈ t.slots, resolve slot = .error f) ∨ ∃ counts, f = .unevenSlots t.render counts := by
  obtain ⟨asked, result, evaluates⟩ := exists_evaluates t resolve
  obtain ⟨-, same⟩ := evaluates.eq
  rw [failed] at same
  cases evaluates with
  | @failed before after slot columns g split answered fails =>
    cases same
    refine .inl ⟨slot, ?_, fails⟩
    rw [split]
    exact List.mem_append_right before List.mem_cons_self
  | uneven answered left right differ =>
    cases same
    exact .inr ⟨_, rfl⟩
  | missing split answered empty => cases same
  | constant slotless => cases same
  | aligned answered slotted even inside complete => cases same
  | noRow answered slotted even incomplete => cases same

end Template

namespace Producer

variable {p : Producer} {t : Template} {record : Record}

/-- Applying fails just where filling the slots fails. -/
theorem apply_eq_error_iff (source : p.source = .template t true) (kind : p.kind = .iri)
    (allowed : t.HoldsAllowed) (anchored : t.Anchored p.base) {f : Fault} :
    p.apply record = .error f ↔ t.rows (ValueSource.slotValues true record) = .error f := by
  have resolved : ∀ result, t.rows (ValueSource.slotValues true record) = .ok result →
      ∀ text ∈ result.getD [],
        Iri.resolve? text p.base = some ((Iri.resolve? text p.base).getD text) := by
    intro result given text member
    obtain ⟨i, row, -, rfl⟩ := (Template.mem_encodedRows given text).mp member
    obtain ⟨iri, found⟩ := Template.exists_resolve?_iriOf allowed anchored row
    rw [found, Option.getD_some]
  rw [apply_eq_of_resolve? source kind resolved]
  cases t.rows (ValueSource.slotValues true record) <;> simp [Except.map]

/-- An IRI is refused only where the record refused to give a slot its values. -/
theorem exists_refused_slot (source : p.source = .template t true) (kind : p.kind = .iri)
    (allowed : t.HoldsAllowed) (anchored : t.Anchored p.base) {lexical base : String}
    (failed : p.apply record = .error (.invalidIri lexical base)) :
    ∃ slot ∈ t.slots, record.evaluate slot.expression = .error (.invalidIri lexical base) := by
  have rows := (apply_eq_error_iff source kind allowed anchored).mp failed
  rcases Template.rows_eq_error rows with ⟨slot, member, refused⟩ | ⟨_, uneven⟩
  · refine ⟨slot, member, ?_⟩
    cases found : record.evaluate slot.expression with
    | error f =>
      rw [ValueSource.slotValues, found] at refused
      cases refused
      rfl
    | ok values =>
      rw [ValueSource.slotValues, found] at refused
      cases refused
  · cases uneven

theorem exists_terms_of_even (source : p.source = .template t true) (kind : p.kind = .iri)
    (allowed : t.HoldsAllowed) (anchored : t.Anchored p.base) {n : Nat}
    (even : ∀ slot ∈ t.slots, ∃ column, Template.slotValues record slot = .ok column ∧
      column.length = n) : ∃ terms, p.apply record = .ok terms := by
  obtain ⟨result, rows⟩ := Template.encodedRows_of_even even
  cases given : p.apply record with
  | error f =>
    rw [(apply_eq_error_iff source kind allowed anchored).mp given] at rows
    cases rows
  | ok terms => exact ⟨terms, rfl⟩

variable {ctx : Context} {label text : String} {m : TermMap} {position : Position}

theorem compile_base (compiled : compile ctx label m position = .ok p) : p.base = ctx.base := by
  obtain ⟨checked, source, found, rfl⟩ := compile_ok_iff.mp compiled
  rfl

/--
Nothing that a record holds is refused as an IRI. A fault of that kind is one with which the
record itself answered for a slot, so JSON records have none; slots with equally many values
always give terms. The terms of a template that starts with an absolute text are its rows as
they stand, whatever the base.
-/
theorem anchored_templates_never_fail (compiled : compile ctx label m position = .ok p)
    (declared : m.template = some text) (kind : m.effectiveKind position = .iri)
    (readable : Template.read text = .ok t) (allowed : t.HoldsAllowed)
    (anchored : t.Anchored ctx.base) :
    (∀ record lexical base, p.apply record = .error (.invalidIri lexical base) →
      ∃ slot ∈ t.slots, record.evaluate slot.expression = .error (.invalidIri lexical base)) ∧
    (∀ value lexical base, p.apply (Json.record value) ≠ .error (.invalidIri lexical base)) ∧
    (∀ record n, (∀ slot ∈ t.slots, ∃ column, Template.slotValues record slot = .ok column ∧
      column.length = n) → ∃ terms, p.apply record = .ok terms) ∧
    (t.StartsAbsolute → ∀ record, p.apply record =
      (t.rows (ValueSource.slotValues true record)).map fun result =>
        ((result.getD []).map Term.iri).eraseDups.map (⟨·, m.targets⟩)) := by
  obtain ⟨source, iri, targets⟩ := compile_template compiled declared kind readable
  have behind : t.Anchored p.base := (compile_base compiled).symm ▸ anchored
  refine ⟨?_, ?_, ?_, ?_⟩
  · intro record lexical base failed
    exact exists_refused_slot source iri allowed behind failed
  · intro value lexical base failed
    obtain ⟨slot, -, refused⟩ := exists_refused_slot source iri allowed behind failed
    -- A JSON record answers for every slot.
    cases refused
  · intro record n even
    exact exists_terms_of_even source iri allowed behind even
  · intro starts record
    rw [← targets]
    exact apply_eq_of_startsAbsolute source iri allowed starts record

end Producer

namespace Guests

def template : Template := ⟨[.text "guest/", .slot ⟨0, "name"⟩]⟩

def termMap : TermMap := { template := some template.render }

def context : Context := ⟨.empty, .empty, some "http://a/"⟩

def producer : Producer where
  label := "guest"
  position := .subject
  kind := .iri
  source := .template template true
  language := none
  datatype := none
  base := some "http://a/"
  targets := ∅

theorem readable : Template.read template.render = .ok template := by
  refine Template.read_render_of_isNormal ?_
  simp [Template.IsNormal, template, Segment.NormalFrom.text_cons_iff,
    Segment.NormalFrom.slot_cons_iff, Segment.NormalFrom.nil, Segment.isText, Segment.slot?]

theorem compiled : Producer.compile context "guest" termMap .subject = .ok producer :=
  Producer.compile_ok_iff.mpr ⟨rfl, _, TermMap.source_template rfl rfl readable, rfl⟩

theorem holdsAllowed : template.HoldsAllowed := by
  intro text listed c member
  simp only [template, List.mem_cons, Segment.text.injEq, reduceCtorEq, List.not_mem_nil,
    or_false] at listed
  subst listed
  have allowed : "guest/".toList.all fun c => Iri.isForbidden c = false := by decide +kernel
  exact of_decide_eq_true (List.all_eq_true.mp allowed c member)

theorem anchored : template.Anchored context.base :=
  .inr ⟨_, rfl, by decide +kernel⟩

/-- A name that looks like an IRI of its own and holds what IRIs may not hold. -/
def value : Json := .object [("name", .text "x: <y> %")]

end Guests

theorem guests_never_fail :
    Producer.compile Guests.context "guest" Guests.termMap .subject = .ok Guests.producer ∧
    Guests.template.HoldsAllowed ∧ Guests.template.Anchored Guests.context.base ∧
    Guests.producer.apply (Json.record Guests.value) =
      .ok [⟨.iri "http://a/guest/x%3A%20%3Cy%3E%20%25", ∅⟩] := by
  obtain ⟨-, -, given, -⟩ := Producer.anchored_templates_never_fail Guests.compiled rfl rfl
    Guests.readable Guests.holdsAllowed Guests.anchored
  refine ⟨Guests.compiled, Guests.holdsAllowed, Guests.anchored, ?_⟩
  obtain ⟨terms, made⟩ := given (Json.record Guests.value) 1 fun slot member => by
    have only : slot = ⟨0, "name"⟩ := List.mem_singleton.mp member
    subst only
    exact ⟨[some "x: <y> %"], ok_of_toOption (by decide +kernel), rfl⟩
  have iri : (Guests.producer.apply (Json.record Guests.value)).toOption =
      some [⟨.iri "http://a/guest/x%3A%20%3Cy%3E%20%25", ∅⟩] := by decide +kernel
  rw [made] at iri
  cases iri
  exact made

end RdfMapping
