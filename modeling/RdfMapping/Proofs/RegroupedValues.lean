import RdfMapping.Proofs.InferredDatatypes
import RdfMapping.Proofs.ReadExpressions

/-!
# Regrouped values

Values count as the scalars in them, nulls among these, so how they are grouped into lists is
not seen by the rows of templates, by the keys of joins and by the terms of a term map, unless
the map takes the datatype of its literals from the values. A term map that calls a function
takes its terms from the result; the function itself may look at the lists in its parameters.
-/

namespace RdfMapping

namespace RawValue

mutual

theorem not_list_of_mem_scalars {value leaf : RawValue} (member : leaf ∈ value.scalars)
    (items : List RawValue) : leaf ≠ .list items := by
  cases value with
  | list inside =>
    rw [scalars] at member
    exact not_list_of_mem_scalarsOf member items
  | _ =>
    rw [List.mem_singleton.mp member]
    exact RawValue.noConfusion

theorem not_list_of_mem_scalarsOf {values : List RawValue} {leaf : RawValue}
    (member : leaf ∈ scalarsOf values) (items : List RawValue) : leaf ≠ .list items := by
  cases values with
  | nil => exact (List.not_mem_nil member).elim
  | cons item rest =>
    rw [scalarsOf] at member
    rcases List.mem_append.mp member with here | later
    · exact not_list_of_mem_scalars here items
    · exact not_list_of_mem_scalarsOf later items

end

/-- Of the scalars only null has no lexical form. -/
theorem lexical?_eq_none_iff {values : List RawValue} {leaf : RawValue}
    (member : leaf ∈ scalarsOf values) : leaf.lexical? = none ↔ leaf = .null := by
  cases leaf with
  | null => exact iff_of_true rfl rfl
  | list items => exact (not_list_of_mem_scalarsOf member items rfl).elim
  | _ => exact iff_of_false nofun nofun

/-- Without a scalar beside nulls there are no lexical values. -/
theorem lexicalValues_of_nulls {values : List RawValue}
    (nulls : ∀ leaf ∈ scalarsOf values, leaf = .null) : lexicalValues values = [] := by
  have none : (leavesOf values).all Option.isNone := by
    rw [leavesOf_eq, List.all_map, List.all_eq_true]
    intro leaf member
    rw [nulls leaf member]
    rfl
  rw [lexicalValues, if_pos none]

/-- With one there is a lexical value for every scalar. -/
theorem lexicalValues_of_mem {values : List RawValue} {leaf : RawValue}
    (member : leaf ∈ scalarsOf values) (found : leaf ≠ .null) :
    lexicalValues values = (scalarsOf values).map lexical? := by
  have some : ¬ (leavesOf values).all Option.isNone := by
    rw [leavesOf_eq, List.all_map, List.all_eq_true]
    intro all
    exact found ((lexical?_eq_none_iff member).mp (Option.isNone_iff_eq_none.mp (all leaf member)))
  rw [lexicalValues, if_neg some, leavesOf_eq]

theorem scalarsOf_append (first next : List RawValue) :
    scalarsOf (first ++ next) = scalarsOf first ++ scalarsOf next := by
  induction first with
  | nil => rfl
  | cons item rest ih => rw [List.cons_append, scalarsOf, scalarsOf, ih, List.append_assoc]

/-- What is in a list counts as it does in place of the list. -/
theorem scalarsOf_list (before items after : List RawValue) :
    scalarsOf (before ++ .list items :: after) = scalarsOf (before ++ items ++ after) := by
  rw [scalarsOf_append, scalarsOf_append, scalarsOf_append, scalarsOf, scalars, List.append_assoc]

theorem lexicalValues_congr {values others : List RawValue}
    (same : scalarsOf values = scalarsOf others) : lexicalValues values = lexicalValues others := by
  rw [lexicalValues, lexicalValues, leavesOf_eq, leavesOf_eq, same]

theorem present_congr {values others : List RawValue} (same : scalarsOf values = scalarsOf others) :
    present values = present others := by
  rw [present_eq, present_eq, same]

theorem scalarsOf_texts (texts : List String) :
    scalarsOf (texts.map RawValue.text) = texts.map RawValue.text := by
  induction texts with
  | nil => rfl
  | cons text texts ih =>
    rw [List.map_cons, scalarsOf, ih]
    rfl

theorem present_texts (texts : List String) : present (texts.map RawValue.text) = texts := by
  rw [present_eq, scalarsOf_texts, List.filterMap_map]
  exact List.filterMap_some

end RawValue

open RawValue (scalarsOf lexicalValues)

/-- The records answer each of these expressions with the same scalars, or fail alike. -/
def Record.RegroupedOn (r s : Record) (expressions : List String) : Prop :=
  ∀ e ∈ expressions, (r.evaluate e).map scalarsOf = (s.evaluate e).map scalarsOf

/-- What depends on the scalars only is the same of the same scalars. -/
theorem map_eq_of_scalarsOf {α : Type} {f : List RawValue → α}
    (through : ∀ values others, scalarsOf values = scalarsOf others →
      f values = f others) {x y : Except Fault (List RawValue)}
    (same : x.map scalarsOf = y.map scalarsOf) : x.map f = y.map f := by
  cases x with
  | error fault =>
    cases y with
    | error other =>
      cases same
      rfl
    | ok others => cases same
  | ok values =>
    cases y with
    | error other => cases same
    | ok others => exact congrArg Except.ok (through values others (Except.ok.inj same))

section

variable {r s : Record}

theorem ValueSource.slotValues_regrouped {slot : Slot}
    (same : (r.evaluate slot.expression).map scalarsOf =
      (s.evaluate slot.expression).map scalarsOf) (encoded : Bool) :
    slotValues encoded r slot = slotValues encoded s slot :=
  map_eq_of_scalarsOf (fun _ _ same => by rw [RawValue.lexicalValues_congr same]) same

theorem Template.rows_regrouped {t : Template} (regrouped : r.RegroupedOn s t.expressions)
    (encoded : Bool) :
    t.rows (ValueSource.slotValues encoded r) = t.rows (ValueSource.slotValues encoded s) :=
  rows_congr fun _ member =>
    ValueSource.slotValues_regrouped (regrouped _ (List.mem_map_of_mem member)) encoded

namespace Record

theorem present_regrouped {e : String}
    (same : (r.evaluate e).map scalarsOf = (s.evaluate e).map scalarsOf) :
    r.present e = s.present e :=
  map_eq_of_scalarsOf (fun _ _ => RawValue.present_congr) same

theorem keysFrom_congr {expressions : List String}
    (same : ∀ e ∈ expressions, r.present e = s.present e) (keys : List JoinKey) :
    r.keysFrom keys expressions = s.keysFrom keys expressions := by
  induction expressions generalizing keys with
  | nil => rfl
  | cons e rest ih =>
    obtain ⟨here, later⟩ := List.forall_mem_cons.mp same
    rw [keysFrom, keysFrom, here]
    split
    · rfl
    · rfl
    · exact ih later _

theorem joinKeys_regrouped {expressions : List String}
    (regrouped : r.RegroupedOn s expressions) : r.joinKeys expressions = s.joinKeys expressions :=
  keysFrom_congr (fun e member => present_regrouped (regrouped e member)) [[]]

end Record

namespace Producer

variable {p q : Producer}

/-- Nothing but the source of values tells the producers apart. -/
structure Alike (p q : Producer) : Prop where
  kind : p.kind = q.kind
  language : p.language = q.language
  datatype : p.datatype = q.datatype
  base : p.base = q.base
  targets : p.targets = q.targets

theorem Alike.refl (p : Producer) : p.Alike p := ⟨rfl, rfl, rfl, rfl, rfl⟩

theorem Alike.makeTerm_eq (alike : p.Alike q) : p.makeTerm = q.makeTerm := by
  funext inferred lexical
  rw [makeTerm, makeTerm, alike.kind, alike.language, alike.datatype, alike.base]

theorem Alike.infersDatatype_eq (alike : p.Alike q) : p.infersDatatype = q.infersDatatype := by
  rw [infersDatatype, infersDatatype, alike.kind, alike.language, alike.datatype]

/-- A producer that infers no datatype has the texts of its raw values. -/
theorem lexicals_eq_present (plain : p.infersDatatype = false) (record : Record) :
    p.lexicals record = (p.rawValues record).map fun raw => (RawValue.present raw, none) := by
  rw [lexicals, rawValues, plain]
  cases p.source with
  | constant t =>
    have text : RawValue.present [.text t.lexical] = [t.lexical] :=
      RawValue.present_texts [t.lexical]
    rw [ValueSource.rawValues, Except.map, text]
  | reference expression =>
    dsimp only
    rw [ValueSource.rawValues]
    cases record.evaluate expression <;> rfl
  | template t encoded =>
    dsimp only
    rw [ValueSource.rawValues]
    cases ValueSource.templateRows t encoded record with
    | error f => rfl
    | ok rows => simp only [Except.map, RawValue.present_texts]
  | call iri function parameters =>
    simp only [ValueSource.rawValues, ValueSource.callValue]
    cases ValueSource.bindAll record .empty parameters with
    | error f => rfl
    | ok bound =>
      change (function bound >>= _) = Except.map _ (function bound >>= _)
      cases function bound <;> rfl

theorem apply_of_varies (varies : p.constant? = none) (record : Record) :
    p.apply record = do
      let (lexicals, inferred) ← p.lexicals record
      let terms ← lexicals.mapM (p.makeTerm inferred)
      return terms.eraseDups.map (⟨·, p.targets⟩) := by
  rw [apply]
  split
  · rename_i constant source
    rw [constant?, source] at varies
    cases varies
  · rfl

/-- Producers alike make the same terms of raw values with the same scalars. -/
theorem Alike.apply_eq (alike : p.Alike q) (plain : p.infersDatatype = false)
    (varies : p.constant? = none) (also : q.constant? = none)
    (same : (p.rawValues r).map scalarsOf = (q.rawValues s).map scalarsOf) :
    p.apply r = q.apply s := by
  have lexicals : p.lexicals r = q.lexicals s := by
    rw [lexicals_eq_present plain, lexicals_eq_present (alike.infersDatatype_eq ▸ plain)]
    exact map_eq_of_scalarsOf (fun _ _ same => by rw [RawValue.present_congr same]) same
  rw [apply_of_varies varies, apply_of_varies also, lexicals, alike.makeTerm_eq, alike.targets]

theorem apply_regrouped (plain : p.infersDatatype = false)
    (same : (p.rawValues r).map scalarsOf = (p.rawValues s).map scalarsOf) :
    p.apply r = p.apply s := by
  cases constant : p.constant? with
  | none => exact (Alike.refl p).apply_eq plain constant constant same
  | some t =>
    have source := constant?_eq_some.mp constant
    simp only [apply, source]

end Producer

/-- A source that calls no function has raw values with the same scalars. -/
theorem ValueSource.rawValues_regrouped {call : String → Except Fault ValueSource} {m : TermMap}
    {position : Position} {source : ValueSource}
    (drawsOn : m.DrawsOn call position source) (own : m.functionValue = none)
    (regrouped : r.RegroupedOn s source.expressions) :
    (source.rawValues r).map scalarsOf = (source.rawValues s).map scalarsOf := by
  cases drawsOn with
  | constant => rfl
  | reference => exact regrouped _ (List.mem_singleton_self _)
  | template =>
    simp only [rawValues, templateRows, Template.rows_regrouped regrouped]
  | call declared =>
    rw [own] at declared
    cases declared

namespace Producer

variable {ctx : Context} {label : String} {m : TermMap} {position : Position} {p : Producer}
  {stack left : List Nat}

theorem constant?_of_construct (made : construct ctx label m position stack = (.ok p, left)) :
    p.constant? = m.constant.map m.constantTerm := by
  obtain ⟨source, found, rfl⟩ := construct_ok made
  have sources := m.source_constant (ctx.compileCall_varies stack) label position
  rw [found] at sources
  exact Option.ext fun t => constant?_eq_some.trans (sources t)

theorem infersDatatype_of_construct (made : construct ctx label m position stack = (.ok p, left))
    (settled : m.effectiveKind position ≠ .literal ∨ m.language ≠ none ∨ m.datatype ≠ none) :
    p.infersDatatype = false := by
  obtain ⟨source, -, rfl⟩ := construct_ok made
  rcases settled with other | tagged | typed
  · simp [infersDatatype, other]
  · simp [infersDatatype, tagged]
  · simp [infersDatatype, Option.isSome_iff_ne_none, typed]

end Producer

/--
The lexical values of raw values are those of their scalars, each in its place, or none where all
are null. So lists make no difference, wherever they begin and end: not to the rows of a
template, not to the keys of a record and, unless the literals of a term map take their datatype
from the values, not to its terms. Where a function is called it is the result that counts, and
a result makes the same terms as the same scalars read from a record.
-/
theorem regrouping_keeps_results :
    (∀ values, ((∀ leaf ∈ scalarsOf values, leaf = .null) → lexicalValues values = []) ∧
      ((∃ leaf ∈ scalarsOf values, leaf ≠ .null) →
        lexicalValues values = (scalarsOf values).map RawValue.lexical?) ∧
      ∀ leaf ∈ scalarsOf values, leaf.lexical? = none ↔ leaf = .null) ∧
    (∀ before items after,
      scalarsOf (before ++ .list items :: after) = scalarsOf (before ++ items ++ after)) ∧
    (∀ r s : Record,
      (∀ (t : Template) encoded, r.RegroupedOn s t.expressions →
        t.rows (ValueSource.slotValues encoded r) = t.rows (ValueSource.slotValues encoded s)) ∧
      ∀ expressions, r.RegroupedOn s expressions →
        r.joinKeys expressions = s.joinKeys expressions) ∧
    ∀ ctx label m position stack left p,
      Producer.construct ctx label m position stack = (.ok p, left) →
      (m.effectiveKind position ≠ .literal ∨ m.language ≠ none ∨ m.datatype ≠ none) →
      ∀ r s : Record,
        (m.functionValue = none → r.RegroupedOn s m.expressions → p.apply r = p.apply s) ∧
        (m.constant = none → ∀ q : Producer, p.Alike q → q.constant? = none →
          (p.rawValues r).map scalarsOf = (q.rawValues s).map scalarsOf →
          p.apply r = q.apply s) := by
  refine ⟨fun values => ⟨RawValue.lexicalValues_of_nulls, ?_, fun leaf member =>
    RawValue.lexical?_eq_none_iff member⟩, RawValue.scalarsOf_list, fun r s =>
    ⟨fun t encoded regrouped => Template.rows_regrouped regrouped encoded, fun expressions =>
      Record.joinKeys_regrouped⟩, ?_⟩
  · rintro ⟨leaf, member, found⟩
    exact RawValue.lexicalValues_of_mem member found
  · intro ctx label m position stack left p made settled r s
    have plain := Producer.infersDatatype_of_construct made settled
    constructor
    · intro own regrouped
      obtain ⟨source, found, rfl⟩ := Producer.construct_ok made
      have inside := TermMap.expressions_of_source found own
      exact Producer.apply_regrouped plain (ValueSource.rawValues_regrouped
        (TermMap.drawsOn_of_source found) own fun e member => regrouped e (inside member))
    · intro unfixed q alike varies same
      have also : p.constant? = none := by
        rw [Producer.constant?_of_construct made, unfixed]
        rfl
      exact alike.apply_eq plain also varies same

end

namespace Parties

def termMap : TermMap := .ofReference "name"

def producer : Producer where
  label := "guest"
  position := .subject
  kind := .iri
  source := .reference "name"
  language := none
  datatype := none
  base := none
  targets := ∅

theorem constructed : Producer.construct Visits.context "guest" termMap .subject [] =
    (.ok producer, []) := rfl

/-- The values of a visit in other lists, one of them empty. -/
def grouped : Record where
  evaluate e :=
    if e = "city" then .ok [.list [.text "Oslo", .list []], .null]
    else if e = "name" then .ok [.list [.text "Ann", .list [.text "Bo"]]]
    else .ok []
  datatype? _ := none

/-- A function that answers with the guests. -/
def caller : Producer :=
  { producer with source := .call "urn:guests" (fun _ => .ok (.list [.text "Ann", .text "Bo"])) [] }

theorem regroupedOn : (Visits.visit 30).RegroupedOn grouped ["city", "name"] :=
  List.forall_mem_cons.mpr ⟨rfl, List.forall_mem_singleton.mpr rfl⟩

end Parties

theorem parties_keep_results :
    (∃ leaf ∈ scalarsOf [.list [.text "Oslo", .list []], .null], leaf ≠ .null) ∧
    lexicalValues [.list [.text "Oslo", .list []], .null] = [some "Oslo", none] ∧
    (Visits.visit 30).RegroupedOn Parties.grouped ["city", "name"] ∧
    Visits.template.rows (ValueSource.slotValues true (Visits.visit 30)) =
      Visits.template.rows (ValueSource.slotValues true Parties.grouped) ∧
    (Visits.visit 30).joinKeys ["city", "name"] = Parties.grouped.joinKeys ["city", "name"] ∧
    Producer.construct Visits.context "guest" Parties.termMap .subject [] =
      (.ok Parties.producer, []) ∧
    Parties.termMap.effectiveKind .subject ≠ .literal ∧
    Parties.producer.apply (Visits.visit 30) = Parties.producer.apply Parties.grouped ∧
    Parties.producer.apply (Visits.visit 30) = Parties.caller.apply Parties.grouped := by
  obtain ⟨lexical, -, records, maps⟩ := regrouping_keeps_results
  have some : ∃ leaf ∈ scalarsOf [.list [.text "Oslo", .list []], .null], leaf ≠ .null :=
    ⟨.text "Oslo", List.mem_cons_self, nofun⟩
  obtain ⟨rows, keys⟩ := records (Visits.visit 30) Parties.grouped
  have iri : Parties.termMap.effectiveKind .subject ≠ .literal := nofun
  obtain ⟨grouped, called⟩ := maps _ _ _ _ _ _ _ Parties.constructed (.inl iri)
    (Visits.visit 30) Parties.grouped
  refine ⟨some, (lexical _).2.1 some, Parties.regroupedOn, rows _ _ Parties.regroupedOn,
    keys _ Parties.regroupedOn, Parties.constructed, iri, ?_, ?_⟩
  · exact grouped rfl (List.forall_mem_singleton.mpr rfl)
  · exact called rfl Parties.caller ⟨rfl, rfl, rfl, rfl, rfl⟩ rfl rfl

end RdfMapping
