import RdfMapping.Proofs.Executions
import RdfMapping.Proofs.ReadExpressions

/-!
# Declared constants

A term map with a constant makes one term of every record, and that is the constant as it is
written. The literal options of the map are for a constant that has none of its own. A language
of the map, though, also takes the place of a datatype that the constant has.
-/

namespace RdfMapping

namespace TermMap

/-- The term is the constant as it is written; only a literal without options has the map's. -/
inductive Uses (m : TermMap) : Term → Term → Prop where
  | iri (iri : String) : Uses m (.iri iri) (.iri iri)
  | blankNode (label : String) : Uses m (.blankNode label) (.blankNode label)
  | typed (value type : String) :
      Uses m (.literal value (some type) none) (.literal value (some type) none)
  | tagged (value tag : String) :
      Uses m (.literal value none (some tag)) (.literal value none (some tag))
  | plain (value : String) :
      Uses m (.literal value none none) (.literal value m.datatype m.language)

variable {m : TermMap} {label : String} {position : Position}

/-- A term map that passes its check has no language beside a datatype. -/
theorem options_of_check (checked : m.check label position = .ok ()) :
    m.language = none ∨ m.datatype = none := by
  by_contra both
  rw [not_or, ← ne_eq, ← ne_eq, ← Option.isSome_iff_ne_none, ← Option.isSome_iff_ne_none,
    ← Bool.and_eq_true] at both
  rw [check] at checked
  simp only [both, if_true, bind, Except.bind, pure, Except.pure, throw, throwThe,
    MonadExceptOf.throw] at checked
  -- Whichever way the earlier checks go, what is left of them is a fault.
  repeat' split at checked
  all_goals cases checked

/-- A constant with at most one option is used as written, unless it has a datatype and the map
a language. -/
theorem uses_constantTerm (options : m.language = none ∨ m.datatype = none) {constant : Term}
    (single : constant.datatype? = none ∨ constant.language? = none)
    (keeps : constant.datatype? = none ∨ m.language = none) :
    m.Uses constant (m.constantTerm constant) := by
  cases constant with
  | iri iri => exact .iri iri
  | blankNode label => exact .blankNode label
  | literal value datatype language =>
    cases datatype with
    | some type =>
      obtain rfl : language = none := single.resolve_left (Option.some_ne_none type)
      have untagged : m.language = none := keeps.resolve_left (Option.some_ne_none type)
      rw [constantTerm, untagged]
      exact .typed value type
    | none =>
      cases language with
      | some tag => exact .tagged value tag
      | none =>
        have own : m.constantTerm (.literal value none none) =
            .literal value m.datatype m.language := by
          rw [constantTerm, Option.none_or, Option.none_or]
          rcases options with untagged | untyped
          · rw [untagged]
            rfl
          · rw [untyped, ite_self]
        rw [own]
        exact .plain value

theorem constantTerm_retagged {tag : String} (tagged : m.language = some tag)
    (value type : String) :
    m.constantTerm (.literal value (some type) none) = .literal value none (some tag) := by
  rw [constantTerm, tagged]
  rfl

end TermMap

namespace Producer

variable {ctx : Context} {label : String} {m : TermMap} {position : Position} {p : Producer}
  {stack left : List Nat}

theorem check_of_construct (made : construct ctx label m position stack = (.ok p, left)) :
    m.check label position = .ok () := by
  cases checked : m.check label position with
  | ok _ => rfl
  | error f =>
    have failed : construct ctx label m position stack = (.error f, stack) := by
      rw [construct, TermMap.compileSource, checked]
      rfl
    rw [failed] at made
    cases made

theorem apply_of_constant (made : construct ctx label m position stack = (.ok p, left))
    {constant : Term} (declared : m.constant = some constant) (record : Record) :
    p.apply record = .ok [⟨m.constantTerm constant, m.targets⟩] := by
  obtain ⟨source, found, rfl⟩ := construct_ok made
  have same : m.source (ctx.compileCall stack) label position =
      .ok (.constant (m.constantTerm constant)) := by
    rw [TermMap.source, declared]
    rfl
  cases same.symm.trans found
  rfl

/--
A compiled term map with a constant makes just one term of every record, in any position. It has
the kind and the text of the constant, and it is the constant as it is written unless that has
both literal options, or a datatype where the map has a language. In that last case the language
stands in place of the datatype.
-/
theorem constants_used_as_written (made : construct ctx label m position stack = (.ok p, left))
    {constant : Term} (declared : m.constant = some constant) :
    ∃ t, (∀ record, p.apply record = .ok [⟨t, m.targets⟩]) ∧
      t.kind = constant.kind ∧ t.lexical = constant.lexical ∧
      (constant.datatype? = none ∨ constant.language? = none →
        constant.datatype? = none ∨ m.language = none → m.Uses constant t) ∧
      ∀ value type tag, constant = .literal value (some type) none → m.language = some tag →
        t = .literal value none (some tag) := by
  have options := TermMap.options_of_check (check_of_construct made)
  refine ⟨m.constantTerm constant, apply_of_constant made declared, m.kind_constantTerm constant,
    m.lexical_constantTerm constant, TermMap.uses_constantTerm options, ?_⟩
  rintro value type tag rfl tagged
  exact TermMap.constantTerm_retagged tagged value type

end Producer

namespace Prices

def context : Context := ⟨.empty, .empty, none⟩

def price : Term := .literal "5" (some Vocabulary.xsdInteger) none

def priceMap : TermMap := .ofConstant price

/-- The price is said to be English, too. -/
def labelMap : TermMap := { constant := some price, language := some "en" }

def producer (m : TermMap) : Producer where
  label := "price"
  position := .object
  kind := .literal
  source := .constant (m.constantTerm price)
  language := m.language
  datatype := none
  base := none
  targets := ∅

theorem constructed : Producer.construct context "price" priceMap .object [] =
    (.ok (producer priceMap), []) := rfl

theorem label_constructed : Producer.construct context "price" labelMap .object [] =
    (.ok (producer labelMap), []) := rfl

end Prices

theorem prices_used_as_written :
    Producer.construct Prices.context "price" Prices.priceMap .object [] =
      (.ok (Prices.producer Prices.priceMap), []) ∧
    Prices.priceMap.constant = some Prices.price ∧
    ∀ record, (Prices.producer Prices.priceMap).apply record = .ok [Prices.price.unrouted] := by
  obtain ⟨t, applied, -, -, uses, -⟩ :=
    Producer.constants_used_as_written Prices.constructed rfl
  refine ⟨Prices.constructed, rfl, fun record => ?_⟩
  have same : t = Prices.price := by
    cases uses (.inr rfl) (.inr rfl)
    rfl
  rw [applied, same]
  rfl

/-- A price with a datatype and no language loses its datatype to the language of the map. -/
theorem prices_lose_datatype :
    Producer.construct Prices.context "price" Prices.labelMap .object [] =
      (.ok (Prices.producer Prices.labelMap), []) ∧
    Prices.labelMap.constant = some Prices.price ∧ Prices.price.language? = none ∧
    (∀ record, (Prices.producer Prices.labelMap).apply record =
      .ok [(Term.literal "5" none (some "en")).unrouted]) ∧
    ¬ Prices.labelMap.Uses Prices.price (.literal "5" none (some "en")) := by
  refine ⟨Prices.label_constructed, rfl, rfl, fun _ => rfl, ?_⟩
  intro uses
  cases uses

end RdfMapping
