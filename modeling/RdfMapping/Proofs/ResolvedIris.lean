import RdfMapping.Proofs.TemplateIris

/-!
# Resolved IRIs

A text that is a valid IRI stands for itself, and any other is put behind the base. What
comes out is valid and resolves to itself against whatever base, and nothing is refused
that could become a valid IRI in either way. A valid base stays absolute whatever is put
behind it, so there only the characters of a text decide.
-/

namespace RdfMapping

namespace Iri

variable {lexical iri : String} {base : Option String}

/-- What no IRI may hold beside control characters. -/
def delimiters : List Char := [' ', '<', '>', '"', '\x7b', '\x7d', '|', '\\', '^', '\x60']

theorem isForbidden_eq_false_iff {c : Char} :
    isForbidden c = false ↔ isControl c = false ∧ c ∉ delimiters := by
  have listed : delimiters.contains c = false ↔ c ∉ delimiters := by
    rw [← Bool.not_eq_true, List.contains_iff_mem]
  rw [isForbidden, Bool.or_eq_false_iff, ← delimiters, listed]

theorem resolve?_eq_some_iff : resolve? lexical base = some iri ↔
    isValid iri ∧ (iri = lexical ∨ ¬ isValid lexical ∧ ∃ b, base = some b ∧ iri = b ++ lexical) := by
  by_cases alone : isValid lexical
  · rw [resolve?_of_isValid alone]
    constructor
    · rintro ⟨⟩
      exact ⟨alone, .inl rfl⟩
    · rintro ⟨-, rfl | ⟨invalid, -⟩⟩
      · rfl
      · exact (invalid alone).elim
  · unfold resolve?
    rw [if_neg alone]
    cases base with
    | none =>
      refine iff_of_false (fun found => by cases found) ?_
      rintro ⟨valid, rfl | ⟨-, b, given, -⟩⟩
      · exact alone valid
      · cases given
    | some b =>
      dsimp only
      constructor
      · intro found
        obtain ⟨valid, same⟩ := Option.ite_none_right_eq_some.mp found
        cases same
        exact ⟨valid, .inr ⟨alone, b, rfl, rfl⟩⟩
      · rintro ⟨valid, rfl | ⟨-, _, given, rfl⟩⟩
        · exact (alone valid).elim
        · cases given
          rw [if_pos valid]

/-- Only what is valid neither alone nor behind the base is refused. -/
theorem resolve?_eq_none_iff : resolve? lexical base = none ↔
    ¬ isValid lexical ∧ ∀ b, base = some b → ¬ isValid (b ++ lexical) := by
  constructor
  · intro refused
    have never (iri : String) : resolve? lexical base ≠ some iri := by
      rw [refused]
      exact nofun
    have invalid : ¬ isValid lexical := fun valid =>
      never lexical (resolve?_eq_some_iff.mpr ⟨valid, .inl rfl⟩)
    refine ⟨invalid, fun b given valid => never (b ++ lexical) ?_⟩
    exact resolve?_eq_some_iff.mpr ⟨valid, .inr ⟨invalid, b, given, rfl⟩⟩
  · rintro ⟨invalid, behind⟩
    refine Option.eq_none_iff_forall_ne_some.mpr fun iri found => ?_
    obtain ⟨valid, rfl | ⟨-, b, given, rfl⟩⟩ := resolve?_eq_some_iff.mp found
    · exact invalid valid
    · exact behind b given valid

/-- What a text is resolved to holds all characters of the text. -/
theorem isForbidden_eq_false_of_resolve? (found : resolve? lexical base = some iri) {c : Char}
    (member : c ∈ lexical.toList) : isForbidden c = false := by
  obtain ⟨valid, rfl | ⟨-, b, -, rfl⟩⟩ := resolve?_eq_some_iff.mp found
  · exact (isValid_iff.mp valid).2 c member
  · refine (isValid_iff.mp valid).2 c ?_
    rw [String.toList_append]
    exact List.mem_append_right _ member

end Iri

theorem Producer.makeTerm_of_unresolved {p : Producer} (kind : p.kind = .iri) {lexical : String}
    (refused : Iri.resolve? lexical p.base = none) (inferred : Option String) :
    p.makeTerm inferred lexical = .error (.invalidIri lexical (p.base.getD "<none>")) := by
  simp only [makeTerm, kind, refused]

/--
A text is resolved to itself if it is valid and else to the base followed by the text, always
to a valid IRI, which any base resolves to itself; producers of IRIs make it their term. A
text is refused only if it is valid neither alone nor behind the base, and producers of IRIs
then name the text and the base in their fault. A valid base refuses just the texts with a
control character or a delimiter.
-/
theorem Iri.resolves_soundly_and_completely (lexical : String) (base : Option String) :
    (∀ iri, resolve? lexical base = some iri →
      isValid iri ∧ (isValid lexical → iri = lexical) ∧
      (¬ isValid lexical → ∃ b, base = some b ∧ iri = b ++ lexical) ∧
      (∀ other, resolve? iri other = some iri) ∧
      ∀ p : Producer, p.kind = .iri → p.base = base →
        ∀ inferred, p.makeTerm inferred lexical = .ok (.iri iri)) ∧
    (resolve? lexical base = none →
      ¬ isValid lexical ∧ (∀ b, base = some b → ¬ isValid (b ++ lexical)) ∧
      ∀ p : Producer, p.kind = .iri → p.base = base →
        ∀ inferred, p.makeTerm inferred lexical =
          .error (.invalidIri lexical (base.getD "<none>"))) ∧
    ∀ b, base = some b → isValid b →
      ((∃ iri, resolve? lexical base = some iri) ↔
        ∀ c ∈ lexical.toList, isControl c = false ∧ c ∉ delimiters) := by
  refine ⟨fun iri found => ?_, fun refused => ?_, fun b given valid => ?_⟩
  · obtain ⟨valid, which⟩ := resolve?_eq_some_iff.mp found
    refine ⟨valid, fun alone => ?_, fun invalid => ?_, resolve?_of_isValid valid,
      fun p kind same inferred => ?_⟩
    · rcases which with here | ⟨invalid, -⟩
      · exact here
      · exact (invalid alone).elim
    · rcases which with rfl | ⟨-, behind⟩
      · exact (invalid valid).elim
      · exact behind
    · exact Producer.makeTerm_of_resolve? kind (same.symm ▸ found) inferred
  · obtain ⟨invalid, behind⟩ := resolve?_eq_none_iff.mp refused
    refine ⟨invalid, behind, fun p kind same inferred => ?_⟩
    subst same
    exact Producer.makeTerm_of_unresolved kind refused inferred
  · simp only [← isForbidden_eq_false_iff]
    constructor
    · rintro ⟨iri, found⟩ c member
      exact isForbidden_eq_false_of_resolve? found member
    · intro allowed
      rw [given]
      exact resolve?_of_isValid_base valid allowed

namespace Archive

def base : String := "http://archive.example/"

/-- Maker of IRIs behind the base of the archive. -/
def producer : Producer where
  label := "page"
  position := .subject
  kind := .iri
  source := .reference "page"
  language := none
  datatype := none
  base := some base
  targets := ∅

theorem base_isValid : Iri.isValid base := rfl

/-- The text has a colon of its own, which does not end a scheme. -/
theorem resolved : Iri.resolve? "2024/a:b" producer.base =
    some "http://archive.example/2024/a:b" := rfl

theorem refused : Iri.resolve? "2024/a b" producer.base = none := rfl

end Archive

theorem archive_resolves :
    (Iri.resolve? "2024/a:b" Archive.producer.base = some "http://archive.example/2024/a:b" ∧
      ∀ other, Iri.resolve? "http://archive.example/2024/a:b" other =
        some "http://archive.example/2024/a:b") ∧
    (Iri.resolve? "2024/a b" Archive.producer.base = none ∧
      Archive.producer.makeTerm none "2024/a b" =
        .error (.invalidIri "2024/a b" "http://archive.example/")) ∧
    Iri.isValid Archive.base ∧
    ¬ ∀ c ∈ "2024/a b".toList, Iri.isControl c = false ∧ c ∉ Iri.delimiters := by
  obtain ⟨sound, -, -⟩ := Iri.resolves_soundly_and_completely "2024/a:b" Archive.producer.base
  obtain ⟨-, refuses, decides⟩ :=
    Iri.resolves_soundly_and_completely "2024/a b" Archive.producer.base
  obtain ⟨-, -, -, stable, -⟩ := sound _ Archive.resolved
  obtain ⟨-, -, reported⟩ := refuses Archive.refused
  refine ⟨⟨Archive.resolved, stable⟩, ⟨Archive.refused, reported _ rfl rfl none⟩,
    Archive.base_isValid, fun allowed => ?_⟩
  obtain ⟨iri, found⟩ := (decides _ rfl Archive.base_isValid).mpr allowed
  cases Archive.refused.symm.trans found

end RdfMapping
