import RdfMapping.Proofs.CheckedTermMaps
import RdfMapping.Proofs.NormalTemplates

/-!
# The expressions that are read

A source of values asks a record for the expressions written in it, and a function call for
those of its parameters, to any depth. Nothing else of a record matters: where two records
give the same answers to these, a producer makes the same terms of both, in the same order,
or fails with the same fault. A term map without a function value reads no expressions but
those that it declares.
-/

namespace RdfMapping

/-- The records give the same answers to each of these expressions. -/
def Record.AgreesOn (r s : Record) (expressions : List String) : Prop :=
  ∀ e ∈ expressions, r.evaluate e = s.evaluate e ∧ r.datatype? e = s.datatype? e

namespace ValueSource

mutual

/-- The expressions that a source of values reads, those of parameters included. -/
def expressions : ValueSource → List String
  | .constant _ => []
  | .reference expression => [expression]
  | .template t _ => t.expressions
  | .call _ _ parameters => expressionsOf parameters

def expressionsOf : List (String × ValueSource) → List String
  | [] => []
  | (_, source) :: rest => source.expressions ++ expressionsOf rest

end

end ValueSource

theorem Template.resolveSlots_congr {resolve other : Slot → Except Fault SlotValues}
    {slots : List Slot} (same : ∀ slot ∈ slots, resolve slot = other slot) :
    resolveSlots resolve slots = resolveSlots other slots := by
  induction slots with
  | nil => rfl
  | cons slot rest ih =>
    obtain ⟨here, later⟩ := List.forall_mem_cons.mp same
    rw [resolveSlots, resolveSlots, here, ih later]

theorem Template.rows_congr {t : Template} {resolve other : Slot → Except Fault SlotValues}
    (same : ∀ slot ∈ t.slots, resolve slot = other slot) : t.rows resolve = t.rows other := by
  rw [rows, rows, resolution, resolution, resolveSlots_congr same]

section

variable {r s : Record}

theorem Record.AgreesOn.append {first next : List String} (agree : r.AgreesOn s (first ++ next)) :
    r.AgreesOn s first ∧ r.AgreesOn s next :=
  List.forall_mem_append.mp agree

namespace ValueSource

/-- Slots are asked for in the same order and give the same columns. -/
theorem templateRows_congr {t : Template} (agree : r.AgreesOn s t.expressions) (encoded : Bool) :
    templateRows t encoded r = templateRows t encoded s := by
  have columns : ∀ slot ∈ t.slots, slotValues encoded r slot = slotValues encoded s slot := by
    intro slot member
    rw [slotValues, slotValues, (agree _ (List.mem_map_of_mem member)).1]
  rw [templateRows, templateRows, Template.rows_congr columns]

mutual

theorem rawValues_congr (source : ValueSource) (agree : r.AgreesOn s source.expressions) :
    source.rawValues r = source.rawValues s := by
  cases source with
  | constant t => rfl
  | reference expression => exact (agree _ (List.mem_singleton_self _)).1
  | template t encoded =>
    rw [rawValues, rawValues, templateRows_congr agree]
  | call iri function parameters =>
    rw [rawValues, rawValues, bindAll_congr parameters agree]

theorem bindAll_congr (parameters : List (String × ValueSource))
    (agree : r.AgreesOn s (expressionsOf parameters)) (bound : Parameters) :
    bindAll r bound parameters = bindAll s bound parameters := by
  cases parameters with
  | nil => rfl
  | cons parameter rest =>
    obtain ⟨name, source⟩ := parameter
    obtain ⟨here, later⟩ := agree.append
    rw [bindAll, bindAll, rawValues_congr source here]
    exact congrArg _ (funext fun values => bindAll_congr rest later _)

end

end ValueSource

namespace Producer

variable {p : Producer}

theorem lexicals_congr (agree : r.AgreesOn s p.source.expressions) :
    p.lexicals r = p.lexicals s := by
  rw [lexicals, lexicals]
  cases source : p.source with
  | constant t => rfl
  | reference expression =>
    rw [source] at agree
    obtain ⟨values, datatype⟩ := agree expression (List.mem_singleton_self _)
    dsimp only
    rw [values, datatype]
  | template t encoded =>
    rw [source] at agree
    dsimp only
    rw [ValueSource.templateRows_congr agree]
  | call iri function parameters =>
    rw [source] at agree
    dsimp only
    rw [ValueSource.callValue, ValueSource.callValue, ValueSource.bindAll_congr parameters agree]

theorem apply_congr (agree : r.AgreesOn s p.source.expressions) : p.apply r = p.apply s := by
  rw [apply, apply, lexicals_congr agree]

end Producer

end

section

variable {ctx : Context} {label : String} {m : TermMap} {position : Position} {p : Producer}
  {stack left : List Nat}

/-- On any stack a term map is compiled as where the places on it have been visited. -/
theorem Producer.construct_ok (made : construct ctx label m position stack = (.ok p, left)) :
    ∃ source, m.source (ctx.compileCall stack) label position = .ok source ∧ p = {
      label, position, source
      kind := m.effectiveKind position
      language := m.language
      datatype := m.datatype
      base := ctx.base
      targets := m.targets } := by
  have calls (iri : String) : Compiling.Gives (ctx.constructCall ctx.graph.size iri) stack
      (ctx.compileCall stack iri) :=
    ctx.constructCall_gives _ stack iri (Context.length_unvisited_le ctx.graph stack)
  have gives : Compiling.Gives (construct ctx label m position) stack
      (m.compileSource (ctx.compileCall stack) label position >>= fun source => pure {
        label, position, source
        kind := m.effectiveKind position
        language := m.language
        datatype := m.datatype
        base := ctx.base
        targets := m.targets }) :=
    (m.compileSource_gives calls label position).bind fun source => .pure _
  obtain ⟨source, compiled, same⟩ := bind_eq_ok_iff.mp (congrArg Prod.fst (gives.symm.trans made))
  cases same
  exact ⟨source, (TermMap.compileSource_ok_iff.mp compiled).2, rfl⟩

/-- A source that calls no function reads what its term map declares. -/
theorem TermMap.expressions_of_source {call : String → Except Fault ValueSource}
    {source : ValueSource} (found : m.source call label position = .ok source)
    (own : m.functionValue = none) : source.expressions ⊆ m.expressions := by
  cases drawsOn_of_source found with
  | constant => exact List.nil_subset _
  | reference declared =>
    rw [expressions, declared]
    exact List.Subset.refl _
  | template noReference declared readable =>
    rw [expressions, noReference, declared]
    dsimp only
    rw [readable]
    exact List.Subset.refl _
  | call declared =>
    rw [own] at declared
    cases declared

/--
A term map that calls no function declares all expressions that are read for it. Compiled for
any position and on any stack, it makes the same terms of two records in the same order, or
fails with the same fault, if the records answer these expressions alike, and it gives the
same raw values.
-/
theorem Producer.reads_declared_expressions
    (made : construct ctx label m position stack = (.ok p, left)) (own : m.functionValue = none)
    {r s : Record} (agree : ∀ e ∈ m.expressions,
      r.evaluate e = s.evaluate e ∧ r.datatype? e = s.datatype? e) :
    p.apply r = p.apply s ∧ p.rawValues r = p.rawValues s := by
  obtain ⟨source, found, rfl⟩ := construct_ok made
  have inside : source.expressions ⊆ m.expressions := TermMap.expressions_of_source found own
  have alike : r.AgreesOn s source.expressions := fun e member => agree e (inside member)
  exact ⟨apply_congr alike, ValueSource.rawValues_congr source alike⟩

end

namespace Visits

def template : Template :=
  ⟨[.text "urn:", .slot ⟨0, "city"⟩, .text "/", .slot ⟨1, "name"⟩]⟩

def termMap : TermMap := { template := some template.render }

def context : Context := ⟨.empty, .empty, none⟩

def producer : Producer where
  label := "visit"
  position := .subject
  kind := .iri
  source := .template template true
  language := none
  datatype := none
  base := none
  targets := ∅

/-- The second city is not known. -/
def visit (age : Int) : Record where
  evaluate e :=
    if e = "city" then .ok [.text "Oslo", .null]
    else if e = "name" then .ok [.text "Ann", .text "Bo"]
    else .ok [.integer age]
  datatype? _ := none

theorem readable : Template.read template.render = .ok template := by
  refine Template.read_render_of_isNormal ?_
  simp [Template.IsNormal, template, Segment.NormalFrom.text_cons_iff,
    Segment.NormalFrom.slot_cons_iff, Segment.NormalFrom.nil, Segment.isText, Segment.slot?]

theorem compiled : Producer.compile context "visit" termMap .subject = .ok producer :=
  Producer.compile_ok_iff.mpr ⟨rfl, _, TermMap.source_template rfl rfl readable, rfl⟩

theorem constructed :
    Producer.construct context "visit" termMap .subject [] = (.ok producer, []) :=
  (Producer.construct_gives context "visit" termMap .subject).trans (by rw [compiled])

theorem declared : termMap.expressions = ["city", "name"] := by
  rw [TermMap.expressions, termMap]
  dsimp only
  rw [readable]
  rfl

end Visits

theorem visits_read_declared :
    Producer.construct Visits.context "visit" Visits.termMap .subject [] =
      (.ok Visits.producer, []) ∧
    Visits.termMap.functionValue = none ∧
    (∀ e ∈ Visits.termMap.expressions,
      (Visits.visit 30).evaluate e = (Visits.visit 31).evaluate e ∧
        (Visits.visit 30).datatype? e = (Visits.visit 31).datatype? e) ∧
    (Visits.visit 30).evaluate "age" = .ok [.integer 30] ∧
    (Visits.visit 31).evaluate "age" = .ok [.integer 31] ∧
    Visits.producer.apply (Visits.visit 30) = Visits.producer.apply (Visits.visit 31) := by
  have agree : ∀ e ∈ Visits.termMap.expressions,
      (Visits.visit 30).evaluate e = (Visits.visit 31).evaluate e ∧
        (Visits.visit 30).datatype? e = (Visits.visit 31).datatype? e := by
    rw [Visits.declared]
    exact List.forall_mem_cons.mpr ⟨⟨rfl, rfl⟩, List.forall_mem_singleton.mpr ⟨rfl, rfl⟩⟩
  obtain ⟨same, -⟩ := Producer.reads_declared_expressions Visits.constructed rfl agree
  exact ⟨Visits.constructed, rfl, agree, rfl, rfl, same⟩

end RdfMapping
