import RdfMapping.Proofs.FunctionMaps
import RdfMapping.Proofs.Scalars

/-!
# Inferred datatypes

A term map of literals without language and datatype takes the datatype from its values.
There is one for all of them: that of the first scalar that has one. So a text between whole
numbers becomes a whole number too, while values of one kind keep the datatype of that kind.
-/

namespace RdfMapping

namespace Producer

variable {p : Producer} {record : Record}

/-- The literal of a lexical form. -/
def literal (p : Producer) (inferred : Option String) (text : String) : Term :=
  .literal text (if p.language.isSome then none else p.datatype.or inferred) p.language

theorem makeTerm_literal (kind : p.kind = .literal) (inferred : Option String) (text : String) :
    p.makeTerm inferred text = .ok (p.literal inferred text) := by
  rw [makeTerm, kind, literal]
  cases p.language <;> cases p.datatype <;> rfl

/-- Where the values are found the literals are too, one for each lexical form. -/
theorem apply_of_literal (kind : p.kind = .literal) (varies : p.constant? = none)
    {lexicals : List String} {inferred : Option String}
    (found : p.lexicals record = .ok (lexicals, inferred)) :
    ∃ terms, p.apply record = .ok terms ∧ ∀ routed, routed ∈ terms ↔
      ∃ text ∈ lexicals, routed = ⟨p.literal inferred text, p.targets⟩ := by
  have applied := apply_of_lexicals varies found fun text _ => makeTerm_literal kind inferred text
  refine ⟨_, applied, fun routed => ?_⟩
  simp only [List.mem_map, List.mem_eraseDups]
  constructor
  · rintro ⟨_, ⟨text, member, rfl⟩, rfl⟩
    exact ⟨text, member, rfl⟩
  · rintro ⟨text, member, rfl⟩
    exact ⟨_, ⟨text, member, rfl⟩, rfl⟩

end Producer

namespace RawValue

/-- The datatype of the first scalar that has one. -/
def sharedDatatype? (values : List RawValue) : Option String :=
  (scalarsOf values).findSome? scalarDatatype?

theorem isNull_of_lexical? {value : RawValue} {text : String}
    (lexical : value.lexical? = some text) : value.isNull = false := by
  cases value with
  | null => cases lexical
  | _ => rfl

theorem isNull_of_scalarDatatype? {value : RawValue} {type : String}
    (typed : value.scalarDatatype? = some type) : value.isNull = false := by
  cases value with
  | null => cases typed
  | _ => rfl

/-- Values of one kind share the datatype of each of them. -/
theorem sharedDatatype?_eq {values : List RawValue} {type : Option String}
    (alike : ∀ leaf ∈ scalarsOf values, leaf.isNull = false → leaf.scalarDatatype? = type)
    {leaf : RawValue} (member : leaf ∈ scalarsOf values) (present : leaf.isNull = false) :
    sharedDatatype? values = leaf.scalarDatatype? := by
  rw [alike leaf member present]
  cases found : sharedDatatype? values with
  | some shared =>
    obtain ⟨first, inside, typed⟩ := List.exists_of_findSome?_eq_some found
    rw [← alike first inside (isNull_of_scalarDatatype? typed), typed]
  | none => rw [← alike leaf member present, List.findSome?_eq_none_iff.mp found leaf member]

end RawValue

/-- The terms are the literals of the scalars of the values: all of them with the datatype that
the values share, and so with their own where the values are of one kind. -/
structure InfersFrom (values : List RawValue) (terms : List RoutedTerm) : Prop where
  mem_iff : ∀ t, t ∈ terms.map RoutedTerm.term ↔
    ∃ leaf ∈ RawValue.scalarsOf values, ∃ text, leaf.lexical? = some text ∧
      t = .literal text (RawValue.sharedDatatype? values) none
  own : ∀ type, (∀ leaf ∈ RawValue.scalarsOf values, leaf.isNull = false →
      leaf.scalarDatatype? = type) →
    ∀ t ∈ terms.map RoutedTerm.term, ∃ leaf ∈ RawValue.scalarsOf values, ∃ text,
      leaf.lexical? = some text ∧ t = .literal text leaf.scalarDatatype? none

theorem InfersFrom.of_mem_iff {values : List RawValue} {terms : List RoutedTerm}
    (mem_iff : ∀ t, t ∈ terms.map RoutedTerm.term ↔
      ∃ leaf ∈ RawValue.scalarsOf values, ∃ text, leaf.lexical? = some text ∧
        t = .literal text (RawValue.sharedDatatype? values) none) : InfersFrom values terms := by
  refine ⟨mem_iff, fun type alike t member => ?_⟩
  obtain ⟨leaf, inside, text, lexical, rfl⟩ := (mem_iff t).mp member
  refine ⟨leaf, inside, text, lexical, ?_⟩
  rw [RawValue.sharedDatatype?_eq alike inside (RawValue.isNull_of_lexical? lexical)]

namespace Producer

variable {p : Producer} {record : Record}

/-- With the inferred datatype that the values share, the literals are those of the values. -/
theorem apply_infersFrom (kind : p.kind = .literal) (varies : p.constant? = none)
    (plain : p.language = none ∧ p.datatype = none) {values : List RawValue}
    (found : p.lexicals record = .ok (RawValue.present values, RawValue.sharedDatatype? values)) :
    ∃ terms, p.apply record = .ok terms ∧ InfersFrom values terms := by
  obtain ⟨terms, applied, members⟩ := apply_of_literal kind varies found
  refine ⟨terms, applied, .of_mem_iff fun t => ?_⟩
  have literal : ∀ text, p.literal (RawValue.sharedDatatype? values) text =
      .literal text (RawValue.sharedDatatype? values) none := by
    intro text
    simp only [Producer.literal, plain.1, plain.2, Option.isSome_none, Bool.false_eq_true, if_false,
      Option.none_or]
  simp only [List.mem_map, members, literal, RawValue.present_eq, List.mem_filterMap]
  constructor
  · rintro ⟨_, ⟨text, ⟨leaf, inside, lexical⟩, rfl⟩, rfl⟩
    exact ⟨leaf, inside, text, lexical, rfl⟩
  · rintro ⟨leaf, inside, text, lexical, rfl⟩
    exact ⟨_, ⟨text, ⟨leaf, inside, lexical⟩, rfl⟩, rfl⟩

theorem infersDatatype_of_plain (kind : p.kind = .literal)
    (plain : p.language = none ∧ p.datatype = none) : p.infersDatatype = true := by
  simp [infersDatatype, kind, plain.1, plain.2]

end Producer

/-- A JSON record names the datatype that the values of a path share. -/
theorem Json.datatype?_record {value : Json} {path : String}
    (starts : StartsSmall (scalarsOf (value.select path))) :
    value.record.datatype? path = RawValue.sharedDatatype? ((value.select path).map toRaw) := by
  change datatypeOf? (value.select path) = _
  rw [datatypeOf?_eq, RawValue.sharedDatatype?, scalarsOf_map_toRaw]
  exact findSome?_datatype?_eq (fun s => ne_array_of_mem_scalarsOf) starts

theorem TriplesMap.callSource_isCall {map : TriplesMap} {functions : Registry}
    {call : String → Except Fault ValueSource} {source : ValueSource}
    (made : map.callSource functions call = .ok source) :
    ∃ iri function parameters, source = .call iri function parameters := by
  rw [callSource] at made
  obtain ⟨draft, -, made⟩ := bind_eq_ok_iff.mp made
  split at made
  · cases made
  · obtain ⟨function, -, made⟩ := bind_eq_ok_iff.mp made
    cases made
    exact ⟨_, _, _, rfl⟩

section

variable {ctx : Context} {label : String} {m : TermMap} {position : Position} {p : Producer}

/-- What a compiled term map has from its declaration, whatever its source is. -/
theorem Producer.compile_options (compiled : compile ctx label m position = .ok p) :
    p.kind = m.effectiveKind position ∧ p.language = m.language ∧ p.datatype = m.datatype ∧
      p.targets = m.targets := by
  obtain ⟨-, source, -, rfl⟩ := compile_ok_iff.mp compiled
  exact ⟨rfl, rfl, rfl, rfl⟩

theorem Producer.compile_reference (compiled : compile ctx label m position = .ok p)
    {path : String} (declared : m.reference = some path) : p.source = .reference path := by
  obtain ⟨checked, source, found, rfl⟩ := compile_ok_iff.mp compiled
  rw [TermMap.source_reference (TermMap.strategyCount_of_check checked) declared] at found
  cases found
  rfl

theorem Producer.compile_function (compiled : compile ctx label m position = .ok p)
    {iri : String} (declared : m.functionValue = some iri) :
    ∃ name function parameters, p.source = .call name function parameters := by
  obtain ⟨checked, source, found, rfl⟩ := compile_ok_iff.mp compiled
  rw [TermMap.source_function (TermMap.strategyCount_of_check checked) declared] at found
  obtain ⟨_, _, -, -, -, made⟩ := Context.compileCall_ok_iff.mp found
  exact TriplesMap.callSource_isCall made

/--
A compiled term map that reads or calls for literals, and declares neither language nor
datatype, gives on every record the literals of the values, each with the datatype that the
values share. For a reference this is seen on every JSON record, unless the first scalar with a
datatype is a whole number that no machine word with a sign holds.
-/
theorem Producer.literals_infer_from_values (compiled : compile ctx label m position = .ok p)
    (kind : m.effectiveKind position = .literal)
    (plain : m.language = none ∧ m.datatype = none) :
    (∀ path, m.reference = some path → ∀ value : Json,
      Json.StartsSmall (Json.scalarsOf (value.select path)) →
      ∃ values terms, value.record.evaluate path = .ok values ∧
        p.apply value.record = .ok terms ∧ InfersFrom values terms) ∧
    ∀ iri, m.functionValue = some iri → ∀ record raw, p.rawValues record = .ok [raw] →
      ∃ terms, p.apply record = .ok terms ∧ InfersFrom [raw] terms := by
  obtain ⟨kind', language, datatype, -⟩ := compile_options compiled
  rw [kind] at kind'
  rw [← language, ← datatype] at plain
  have infers := infersDatatype_of_plain kind' plain
  constructor
  · intro path declared value starts
    have source := compile_reference compiled declared
    have varies : p.constant? = none := by rw [constant?, source]
    have found : p.lexicals value.record =
        .ok (RawValue.present ((value.select path).map Json.toRaw),
          RawValue.sharedDatatype? ((value.select path).map Json.toRaw)) := by
      rw [lexicals, source, ← Json.datatype?_record starts, infers]
      rfl
    obtain ⟨terms, applied, inferred⟩ := apply_infersFrom kind' varies plain found
    exact ⟨_, terms, rfl, applied, inferred⟩
  · intro iri declared record raw given
    obtain ⟨name, function, parameters, source⟩ := compile_function compiled declared
    have varies : p.constant? = none := by rw [constant?, source]
    have called : ValueSource.callValue record function parameters = .ok raw := by
      rw [rawValues, source, ValueSource.rawValues] at given
      rw [ValueSource.callValue]
      obtain ⟨bound, gathered, given⟩ := bind_eq_ok_iff.mp given
      obtain ⟨result, returned, same⟩ := bind_eq_ok_iff.mp given
      cases same
      rw [gathered]
      exact returned
    have found : p.lexicals record =
        .ok (RawValue.present [raw], RawValue.sharedDatatype? [raw]) := by
      have shared : raw.firstDatatype? = RawValue.sharedDatatype? [raw] := by
        rw [RawValue.firstDatatype?_eq, RawValue.sharedDatatype?, RawValue.scalarsOf,
          RawValue.scalarsOf, List.append_nil]
      rw [lexicals, source, ← shared]
      dsimp only
      rw [called, infers]
      rfl
    exact apply_infersFrom kind' varies plain found

end

namespace Readings

def reading : TermMap := .ofReference "x"

def ctx : Context := ⟨Labels.graph, .grel, none⟩

def producer : Producer := ((Producer.compile ctx "reading" reading .object).toOption).get rfl

theorem compiled : Producer.compile ctx "reading" reading .object = .ok producer := rfl

/-- The label of a product, which is in upper case. -/
def caller : Producer := ((Producer.compile ctx "label" Labels.label .object).toOption).get rfl

theorem caller_compiled : Producer.compile ctx "label" Labels.label .object = .ok caller := rfl

def numbers : Json := .object [("x", .array [.whole 1, .null, .array [.whole 2]])]

def mixed : Json := .object [("x", .array [.whole 1, .text "a"])]

def named : Json := .object [("name", .text "pen")]

theorem numbers_startsSmall : Json.StartsSmall (Json.scalarsOf (numbers.select "x")) := by
  have scalars : Json.scalarsOf (numbers.select "x") = [.whole 1, .null, .whole 2] := rfl
  rw [scalars]
  rintro n found
  cases found
  rfl

theorem named_rawValues : caller.rawValues named.record = .ok [.text "PEN"] := rfl

end Readings

theorem readings_infer_from_values :
    (∃ values terms, Readings.numbers.record.evaluate "x" = .ok values ∧
      Readings.producer.apply Readings.numbers.record = .ok terms ∧ InfersFrom values terms) ∧
    ∃ terms, Readings.caller.apply Readings.named.record = .ok terms ∧
      InfersFrom [.text "PEN"] terms := by
  obtain ⟨read, -⟩ := Producer.literals_infer_from_values Readings.compiled rfl ⟨rfl, rfl⟩
  obtain ⟨-, called⟩ := Producer.literals_infer_from_values Readings.caller_compiled rfl ⟨rfl, rfl⟩
  exact ⟨read "x" rfl Readings.numbers Readings.numbers_startsSmall,
    called "urn:upper" rfl Readings.named.record _ Readings.named_rawValues⟩

/-- A text behind a number has no datatype of its own, and yet gets that of the number. -/
theorem readings_share_datatype :
    Producer.compile Readings.ctx "reading" Readings.reading .object = .ok Readings.producer ∧
    Readings.reading.effectiveKind .object = .literal ∧
    Readings.mixed.record.evaluate "x" = .ok [.list [.integer 1, .text "a"]] ∧
    (∀ leaf ∈ RawValue.scalarsOf [.list [.integer 1, .text "a"]], leaf.lexical? = some "a" →
      leaf.scalarDatatype? = none) ∧
    ∃ terms, Readings.producer.apply Readings.mixed.record = .ok terms ∧
      (Term.literal "a" (some Vocabulary.xsdInteger) none).unrouted ∈ terms := by
  refine ⟨Readings.compiled, rfl, rfl, ?_,
    [(Term.literal "1" (some Vocabulary.xsdInteger) none).unrouted,
      (Term.literal "a" (some Vocabulary.xsdInteger) none).unrouted], ?_, ?_⟩
  · intro leaf member text
    have either : leaf = .integer 1 ∨ leaf = .text "a" := by
      simpa [RawValue.scalarsOf, RawValue.scalars] using member
    rcases either with rfl | rfl
    · have apart : RawValue.lexical? (.integer 1) ≠ some "a" := by decide
      exact (apart text).elim
    · rfl
  · refine ok_of_toOption ?_
    decide +kernel
  · exact List.mem_cons_of_mem _ (List.mem_singleton_self _)

end RdfMapping
