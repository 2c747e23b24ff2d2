import Std.Data.String.ToInt
import RdfMapping.Proofs.InferredDatatypes
import RdfMapping.Proofs.IriTexts
import RdfMapping.Proofs.JoinKeys

/-!
# Whole numbers in records

A whole number of a JSON record that fits a machine word with a sign is written out in
decimal digits, exactly: in lexical values, in the slots of templates, in join keys and in
literals, which name a whole number as their datatype. Beyond these words a number goes
through a double, while the datatype stays.
-/

namespace RdfMapping

namespace Json

def whole? : Json → Option Int
  | .whole n => some n
  | _ => none

/-- The whole numbers that a path selects, in arrays of any depth. -/
def wholesAt (value : Json) (path : String) : List Int :=
  (scalarsOf (value.select path)).filterMap whole?

/-- The path selects whole numbers only, each a machine word with a sign. -/
def SelectsWords (value : Json) (path : String) : Prop :=
  ∀ s ∈ scalarsOf (value.select path), ∃ n, s = .whole n ∧ isSignedWord n

theorem eq_map_whole {scalars : List Json}
    (words : ∀ s ∈ scalars, ∃ n, s = .whole n ∧ isSignedWord n) :
    scalars = (scalars.filterMap whole?).map .whole := by
  induction scalars with
  | nil => rfl
  | cons s rest ih =>
    obtain ⟨⟨n, rfl, -⟩, others⟩ := List.forall_mem_cons.mp words
    have first : (Json.whole n :: rest).filterMap whole? = n :: rest.filterMap whole? := rfl
    rw [first, List.map_cons, ← ih others]

section

variable {value : Json} {path : String}

theorem SelectsWords.scalars_eq (words : value.SelectsWords path) :
    scalarsOf (value.select path) = (value.wholesAt path).map .whole :=
  eq_map_whole words

theorem SelectsWords.isSignedWord (words : value.SelectsWords path) {n : Int}
    (member : n ∈ value.wholesAt path) : isSignedWord n := by
  have inside : .whole n ∈ scalarsOf (value.select path) := by
    rw [words.scalars_eq]
    exact List.mem_map_of_mem member
  obtain ⟨m, same, word⟩ := words _ inside
  cases same
  exact word

theorem SelectsWords.leaves_eq (words : value.SelectsWords path) :
    RawValue.leavesOf ((value.select path).map toRaw) =
      ((value.wholesAt path).map toString).map some := by
  rw [RawValue.leavesOf_eq, scalarsOf_map_toRaw, words.scalars_eq, List.map_map, List.map_map,
    List.map_map]
  refine List.map_congr_left fun n member => ?_
  have raw : toRaw (.whole n) = .integer n := by rw [toRaw, if_pos (words.isSignedWord member)]
  simp only [Function.comp_apply, raw, RawValue.lexical?]

theorem SelectsWords.lexicalValues_eq (words : value.SelectsWords path) :
    RawValue.lexicalValues ((value.select path).map toRaw) =
      ((value.wholesAt path).map toString).map some :=
  RawValue.lexicalValues_of_leaves words.leaves_eq

theorem SelectsWords.present_eq (words : value.SelectsWords path) :
    RawValue.present ((value.select path).map toRaw) = (value.wholesAt path).map toString := by
  rw [RawValue.present, words.lexicalValues_eq, List.filterMap_map, Function.id_comp,
    List.filterMap_some]

theorem SelectsWords.datatype?_eq (words : value.SelectsWords path)
    (some : value.wholesAt path ≠ []) :
    value.record.datatype? path = .some Vocabulary.xsdInteger := by
  change datatypeOf? (value.select path) = _
  rw [datatypeOf?_eq, words.scalars_eq]
  cases found : value.wholesAt path with
  | nil => exact (some found).elim
  | cons n rest => rfl

end

end Json

namespace Iri

theorem isUnreserved_of_mem_repr {n : Int} {c : Char} (member : c ∈ n.repr.toList) :
    isUnreserved c := by
  have digit : ∀ m : Nat, c ∈ m.repr.toList → isUnreserved c := by
    intro m inside
    rw [Nat.repr_eq_ofList_toDigits, String.toList_ofList] at inside
    have digit := Nat.isDigit_of_mem_toDigits (by omega) (by omega) inside
    simp [isUnreserved, Char.isAlphanum, digit]
  rw [Int.repr_eq_if] at member
  split at member
  · exact digit _ member
  · rw [String.toList_append] at member
    rcases List.mem_append.mp member with sign | inside
    · rw [List.mem_singleton.mp (show c ∈ ['-'] from sign)]
      rfl
    · exact digit _ inside

/-- Normalization and encoding leave unreserved characters alone. -/
theorem safe_of_unreserved {s : String} (unreserved : ∀ c ∈ s.toList, isUnreserved c) :
    safe s = s := by
  have below : ∀ c, isUnreserved c → c.toNat < Unicode.firstCombining := by
    intro c kept
    simp only [isUnreserved, Bool.or_eq_true, decide_eq_true_eq] at kept
    rcases kept with (((alphanum | rfl) | rfl) | rfl) | rfl
    · exact Nat.lt_trans (isAlphanum_bounds alphanum).2 (by decide)
    all_goals decide
  have normal : Unicode.nfcChars s.toList = s.toList := by
    rw [Unicode.nfcChars, if_pos]
    exact List.all_eq_true.mpr fun c member => decide_eq_true (below c (unreserved c member))
  have encoded : ∀ cs : List Char, (∀ c ∈ cs, isUnreserved c) → encodeChars cs = cs := by
    intro cs kept
    induction cs with
    | nil => rfl
    | cons c rest ih =>
      obtain ⟨first, others⟩ := List.forall_mem_cons.mp kept
      have own : encodeChar c = [c] := by simp [encodeChar, first]
      rw [encodeChars, List.flatMap_cons, own, List.singleton_append]
      exact congrArg _ (ih others)
  rw [safe, normal, encoded _ unreserved, String.ofList_toList]

theorem safe_toString (n : Int) : safe (toString n) = toString n :=
  safe_of_unreserved fun _ member => isUnreserved_of_mem_repr member

end Iri

namespace Json.SelectsWords

variable {value : Json} {path : String}

theorem slotValues_eq (words : value.SelectsWords path) (encoded : Bool) {slot : Slot}
    (reads : slot.expression = path) : ValueSource.slotValues encoded value.record slot =
      .ok ((value.wholesAt path).map fun n => some (toString n)) := by
  have evaluated : value.record.evaluate slot.expression = .ok ((value.select path).map toRaw) := by
    rw [reads]
    rfl
  rw [ValueSource.slotValues, evaluated, Except.map, words.lexicalValues_eq, List.map_map,
    List.map_map]
  refine congrArg Except.ok (List.map_congr_left fun n _ => ?_)
  cases encoded with
  | false => rfl
  | true => exact congrArg some (Iri.safe_toString n)

theorem valuesOf_eq (words : value.SelectsWords path) :
    value.record.valuesOf path = (value.wholesAt path).map toString := by
  rw [← words.present_eq]
  rfl

theorem mem_valuesOf (words : value.SelectsWords path) {text : String} :
    text ∈ value.record.valuesOf path ↔ ∃ n ∈ value.wholesAt path, toString n = text := by
  rw [words.valuesOf_eq, List.mem_map]

end Json.SelectsWords

/-- Records agree on whole numbers where these are equal. -/
theorem agree_words_iff {conditions : List JoinCondition} {child parent : Json}
    (words : ∀ c ∈ conditions, child.SelectsWords c.child ∧ parent.SelectsWords c.parent) :
    agree conditions child.record parent.record ↔
      ∀ c ∈ conditions, ∃ n, n ∈ child.wholesAt c.child ∧ n ∈ parent.wholesAt c.parent := by
  rw [agree_iff]
  refine forall₂_congr fun c member => ?_
  obtain ⟨inChild, inParent⟩ := words c member
  simp only [inChild.mem_valuesOf, inParent.mem_valuesOf]
  constructor
  · rintro ⟨text, ⟨n, fromChild, rfl⟩, m, fromParent, same⟩
    have equal : m = n := Int.repr_injective same
    exact ⟨n, fromChild, equal ▸ fromParent⟩
  · rintro ⟨n, fromChild, fromParent⟩
    exact ⟨toString n, ⟨n, fromChild, rfl⟩, n, fromParent, rfl⟩

section

variable {ctx : Context} {label path : String} {m : TermMap} {position : Position} {p : Producer}
  {value : Json}

/-- The datatype of the literals of whole numbers, which is theirs unless another is declared. -/
def TermMap.wholeDatatype? (m : TermMap) : Option String :=
  if m.language.isSome then none else m.datatype.or (some Vocabulary.xsdInteger)

/-- A reference to whole numbers has the literals of these numbers. -/
theorem Producer.apply_words (compiled : compile ctx label m position = .ok p)
    (declared : m.reference = some path) (kind : m.effectiveKind position = .literal)
    (words : value.SelectsWords path) :
    ∃ terms, p.apply value.record = .ok terms ∧ ∀ routed, routed ∈ terms ↔
      ∃ n ∈ value.wholesAt path,
        routed = ⟨.literal (toString n) m.wholeDatatype? m.language, m.targets⟩ := by
  obtain ⟨kind', language, datatype, targets⟩ := compile_options compiled
  rw [kind] at kind'
  have source := compile_reference compiled declared
  have varies : p.constant? = none := by rw [constant?, source]
  have found : p.lexicals value.record = .ok ((value.wholesAt path).map toString,
      if p.infersDatatype then value.record.datatype? path else none) := by
    rw [lexicals, source, ← words.present_eq]
    rfl
  obtain ⟨terms, applied, members⟩ := apply_of_literal kind' varies found
  refine ⟨terms, applied, fun routed => ?_⟩
  have literal : ∀ n ∈ value.wholesAt path,
      p.literal (if p.infersDatatype then value.record.datatype? path else none) (toString n) =
        .literal (toString n) m.wholeDatatype? m.language := by
    intro n member
    rw [words.datatype?_eq (List.ne_nil_of_mem member), Producer.literal, infersDatatype,
      TermMap.wholeDatatype?, kind', language, datatype]
    cases m.language <;> cases m.datatype <;> rfl
  rw [members]
  constructor
  · rintro ⟨text, member, rfl⟩
    obtain ⟨n, inside, rfl⟩ := List.mem_map.mp member
    exact ⟨n, inside, by rw [literal n inside, targets]⟩
  · rintro ⟨n, inside, rfl⟩
    exact ⟨toString n, List.mem_map_of_mem inside, by rw [literal n inside, targets]⟩

end

/--
Where a path selects whole numbers that fit a machine word with a sign, their decimal
numerals, which read back as the numbers, are the lexical values of the record, the values
of slots with that path, encoded or not, and the literals of every compiled reference to it.
The record has a join key in common with a parent just where they have a number in common
for each condition.
-/
theorem Json.words_keep_value (value : Json) :
    (∀ path, value.SelectsWords path →
      (∀ n ∈ value.wholesAt path, (toString n).toInt? = some n) ∧
      (∃ values, value.record.evaluate path = .ok values ∧
        RawValue.lexicalValues values = (value.wholesAt path).map fun n => some (toString n)) ∧
      (∀ encoded slot, slot.expression = path →
        ValueSource.slotValues encoded value.record slot =
          .ok ((value.wholesAt path).map fun n => some (toString n))) ∧
      ∀ ctx label m position p, Producer.compile ctx label m position = .ok p →
        m.reference = some path → m.effectiveKind position = .literal →
        ∃ terms, p.apply value.record = .ok terms ∧ ∀ routed, routed ∈ terms ↔
          ∃ n ∈ value.wholesAt path,
            routed = ⟨.literal (toString n) m.wholeDatatype? m.language, m.targets⟩) ∧
    ∀ (reference : ReferencingMap) (parent : Json),
      (∀ c ∈ reference.conditions, value.SelectsWords c.child ∧ parent.SelectsWords c.parent) →
      ((∃ key, key ∈ foundIn (value.record.joinKeys reference.childExpressions) ∧
          key ∈ foundIn (parent.record.joinKeys reference.parentExpressions)) ↔
        ∀ c ∈ reference.conditions,
          ∃ n, n ∈ value.wholesAt c.child ∧ n ∈ parent.wholesAt c.parent) := by
  refine ⟨fun path words => ⟨fun n _ => Int.toInt?_repr n, ⟨_, rfl, ?_⟩, ?_, ?_⟩, ?_⟩
  · rw [words.lexicalValues_eq, List.map_map]
    rfl
  · exact fun encoded slot => words.slotValues_eq encoded
  · intro ctx label m position p compiled declared kind
    exact Producer.apply_words compiled declared kind words
  · intro reference parent words
    rw [shares_key_iff]
    exact agree_words_iff words

namespace Readings

def lowest : Json := .object [("x", .array [.whole (-9223372036854775808), .array [.whole 7]])]

def seven : Json := .object [("x", .whole 7)]

def bySameReading : ReferencingMap := { parent := "urn:reading", conditions := [⟨"x", "x"⟩] }

theorem lowest_selectsWords : lowest.SelectsWords "x" := by
  have scalars : Json.scalarsOf (lowest.select "x") =
      [.whole (-9223372036854775808), .whole 7] := rfl
  intro s member
  rw [scalars] at member
  rcases List.mem_pair.mp member with rfl | rfl
  · exact ⟨_, rfl, rfl⟩
  · exact ⟨_, rfl, rfl⟩

theorem seven_selectsWords : seven.SelectsWords "x" := by
  have scalars : Json.scalarsOf (seven.select "x") = [.whole 7] := rfl
  intro s member
  rw [scalars] at member
  exact ⟨7, List.mem_singleton.mp member, rfl⟩

/-- The largest word without a sign, and the one before. -/
def largest : Json := .object [("x", .whole 18446744073709551615)]

def secondLargest : Json := .object [("x", .whole 18446744073709551614)]

end Readings

theorem readings_keep_value :
    (∃ values, Readings.lowest.record.evaluate "x" = .ok values ∧
      RawValue.lexicalValues values = [some "-9223372036854775808", some "7"]) ∧
    (∃ terms, Readings.producer.apply Readings.seven.record = .ok terms ∧
      ⟨.literal "7" (some Vocabulary.xsdInteger) none, ∅⟩ ∈ terms) ∧
    ∃ key, key ∈ foundIn (Readings.lowest.record.joinKeys ["x"]) ∧
      key ∈ foundIn (Readings.seven.record.joinKeys ["x"]) := by
  obtain ⟨ofLowest, joined⟩ := Json.words_keep_value Readings.lowest
  obtain ⟨-, ⟨values, evaluated, lexical⟩, -⟩ := ofLowest _ Readings.lowest_selectsWords
  obtain ⟨ofSeven, -⟩ := Json.words_keep_value Readings.seven
  obtain ⟨-, -, -, literals⟩ := ofSeven _ Readings.seven_selectsWords
  obtain ⟨terms, applied, members⟩ := literals _ _ _ _ _ Readings.compiled rfl rfl
  refine ⟨⟨values, evaluated, lexical⟩, ⟨terms, applied, (members _).mpr ⟨7, ?_, rfl⟩⟩, ?_⟩
  · exact List.mem_singleton_self _
  · refine (joined Readings.bySameReading Readings.seven ?_).mpr ?_
    · intro c member
      rw [List.mem_singleton.mp member]
      exact ⟨Readings.lowest_selectsWords, Readings.seven_selectsWords⟩
    · intro c member
      rw [List.mem_singleton.mp member]
      exact ⟨7, List.mem_cons_of_mem _ (List.mem_singleton_self _), List.mem_singleton_self _⟩

/-- Two words without a sign have the same key, and a literal that is taken for a whole number
denotes neither. -/
theorem readings_lose_value :
    isWord 18446744073709551615 ∧ isWord 18446744073709551614 ∧
    Json.scalarsOf (Readings.largest.select "x") = [.whole 18446744073709551615] ∧
    Json.scalarsOf (Readings.secondLargest.select "x") = [.whole 18446744073709551614] ∧
    foundIn (Readings.largest.record.joinKeys ["x"]) = [["18446744073709552000"]] ∧
    foundIn (Readings.secondLargest.record.joinKeys ["x"]) = [["18446744073709552000"]] ∧
    Readings.producer.apply Readings.largest.record =
      .ok [(Term.literal "18446744073709552000" (some Vocabulary.xsdInteger) none).unrouted] := by
  refine ⟨rfl, rfl, rfl, rfl, by decide +kernel, by decide +kernel, ok_of_toOption ?_⟩
  decide +kernel

end RdfMapping
