import RdfMapping.Proofs.IriTexts
import RdfMapping.Proofs.WellFormedQuads

/-!
# Written quads

A term that is written in front of a space can be read back, with whatever stands behind the
space, as long as its IRIs, labels and tags hold none of the characters that end them; the value
of a literal may hold anything. So the line that a quad is written in tells its terms, and it
is one line.
-/

namespace RdfMapping

namespace Term

/-- The character that stands behind a backslash, unescaped. -/
def unescaped (c : Char) : Char :=
  if c = 'n' then '\n' else if c = 'r' then '\r' else c

/-- A quoted value up to its closing quote, and what stands behind that. -/
def unquote? : List Char → Option (List Char × List Char)
  | [] => none
  | '"' :: behind => some ([], behind)
  | '\\' :: c :: rest =>
    (unquote? rest).map fun (value, behind) => (unescaped c :: value, behind)
  | c :: rest => (unquote? rest).map fun (value, behind) => (c :: value, behind)

/-- The characters before the first stop, and what begins with it. -/
def upTo (stop : Char) (cs : List Char) : String × List Char :=
  (String.ofList (cs.takeWhile (· ≠ stop)), cs.dropWhile (· ≠ stop))

/-- A term in front of a space, and what begins with the space. -/
def read? : List Char → Option (Term × List Char)
  | '<' :: rest =>
    let (name, behind) := upTo '>' rest
    some (.iri name, behind.tail)
  | '_' :: ':' :: rest =>
    let (label, behind) := upTo ' ' rest
    some (.blankNode label, behind)
  | '"' :: rest => do
    let (value, behind) ← unquote? rest
    match behind with
    | '@' :: rest =>
      let (tag, behind) := upTo ' ' rest
      some (.literal (String.ofList value) none (some tag), behind)
    | '^' :: '^' :: '<' :: rest =>
      let (type, behind) := upTo '>' rest
      some (.literal (String.ofList value) (some type) none, behind.tail)
    | behind => some (.plain (String.ofList value), behind)
  | _ => none

def isTagChar (c : Char) : Bool := c.isAlphanum || c = '-'

/-- IRIs are valid, labels and tags hold only their characters, and a literal has not both a
datatype and a language. Its value may be any text. -/
def Writable : Term → Prop
  | .iri name => Iri.isValid name
  | .blankNode label => ∀ c ∈ label.toList, isLabelChar c
  | .literal _ datatype language =>
    (∀ type ∈ datatype, Iri.isValid type) ∧
    (∀ tag ∈ language, ∀ c ∈ tag.toList, isTagChar c) ∧ ¬ (datatype.isSome ∧ language.isSome)

instance : (t : Term) → Decidable t.Writable
  | .iri name => inferInstanceAs (Decidable (Iri.isValid name = true))
  | .blankNode label => List.decidableBAll (fun c => isLabelChar c = true) label.toList
  | .literal _ datatype language =>
    -- over the characters of the tag, not over all there are
    have (tag : String) : Decidable (∀ c ∈ tag.toList, isTagChar c = true) :=
      List.decidableBAll _ _
    inferInstanceAs (Decidable
      ((∀ type ∈ datatype, Iri.isValid type = true) ∧
        (∀ tag ∈ language, ∀ c ∈ tag.toList, isTagChar c = true) ∧
        ¬ (datatype.isSome = true ∧ language.isSome = true)))

theorem upTo_append {stop : Char} {text : String} (apart : ∀ c ∈ text.toList, c ≠ stop)
    (rest : List Char) : upTo stop (text.toList ++ stop :: rest) = (text, stop :: rest) := by
  have before : ∀ c ∈ text.toList, decide (c ≠ stop) = true :=
    fun c member => decide_eq_true (apart c member)
  rw [upTo, List.takeWhile_append_of_pos before, List.dropWhile_append_of_pos before,
    List.takeWhile_cons_of_neg (by simp), List.dropWhile_cons_of_neg (by simp), List.append_nil,
    String.ofList_toList]

/-- Escaping lets no quote stand that could close a value, and is undone character by character. -/
theorem unquote?_escaped (value rest : List Char) :
    unquote? (value.flatMap escapeChar ++ '"' :: rest) = some (value, rest) := by
  induction value with
  | nil => rfl
  | cons c value ih =>
    rw [List.flatMap_cons, List.append_assoc]
    by_cases quote : c = '"'
    · subst quote
      simp [escapeChar, unquote?, ih, unescaped]
    by_cases backslash : c = '\\'
    · subst backslash
      simp [escapeChar, unquote?, ih, unescaped]
    by_cases lineFeed : c = '\n'
    · subst lineFeed
      simp [escapeChar, unquote?, ih, unescaped]
    by_cases carriageReturn : c = '\r'
    · subst carriageReturn
      simp [escapeChar, unquote?, ih, unescaped]
    simp [escapeChar, quote, backslash, lineFeed, carriageReturn, unquote?, ih]

theorem apart_of_isValid {iri : String} (valid : Iri.isValid iri) {stop : Char}
    (forbidden : Iri.isForbidden stop) : ∀ c ∈ iri.toList, c ≠ stop := by
  rintro c member rfl
  rw [(Iri.isValid_iff.mp valid).2 c member] at forbidden
  cases forbidden

theorem apart_of_all {p : Char → Bool} {text : String} (all : ∀ c ∈ text.toList, p c)
    {stop : Char} (outside : p stop = false) : ∀ c ∈ text.toList, c ≠ stop := by
  rintro c member rfl
  rw [all c member] at outside
  cases outside

/-- A writable term is read back from its written form, up to the space behind it. -/
theorem read?_text {t : Term} (writable : t.Writable) (rest : List Char) :
    read? (t.text.toList ++ ' ' :: rest) = some (t, ' ' :: rest) := by
  cases t with
  | iri name =>
    have apart : ∀ c ∈ name.toList, c ≠ '>' := apart_of_isValid writable (by decide)
    have written : (Term.iri name).text.toList ++ ' ' :: rest =
        '<' :: (name.toList ++ '>' :: ' ' :: rest) := by
      simp [text]
    rw [written, read?, upTo_append apart]
    rfl
  | blankNode label =>
    have apart : ∀ c ∈ label.toList, c ≠ ' ' := apart_of_all writable (by decide)
    have written : (Term.blankNode label).text.toList ++ ' ' :: rest =
        '_' :: ':' :: (label.toList ++ ' ' :: rest) := by
      simp [text]
    rw [written, read?, upTo_append apart]
  | literal value datatype language =>
    obtain ⟨types, tags, notBoth⟩ := writable
    have unquoted := unquote?_escaped value.toList
    cases language with
    | some tag =>
      cases datatype with
      | some type => exact (notBoth ⟨rfl, rfl⟩).elim
      | none =>
        have apart : ∀ c ∈ tag.toList, c ≠ ' ' := apart_of_all (tags tag rfl) (by decide)
        have written : (Term.literal value none (some tag)).text.toList ++ ' ' :: rest =
            '"' :: (value.toList.flatMap escapeChar ++
              '"' :: '@' :: (tag.toList ++ ' ' :: rest)) := by
          simp [text, quoted]
        rw [written, read?, unquoted]
        simp [upTo_append apart]
    | none =>
      cases datatype with
      | some type =>
        have apart : ∀ c ∈ type.toList, c ≠ '>' := apart_of_isValid (types type rfl) (by decide)
        have written : (Term.literal value (some type) none).text.toList ++ ' ' :: rest =
            '"' :: (value.toList.flatMap escapeChar ++
              '"' :: '^' :: '^' :: '<' :: (type.toList ++ '>' :: ' ' :: rest)) := by
          simp [text, quoted]
        rw [written, read?, unquoted]
        simp [upTo_append apart]
      | none =>
        have written : (Term.literal value none none).text.toList ++ ' ' :: rest =
            '"' :: (value.toList.flatMap escapeChar ++ '"' :: ' ' :: rest) := by
          simp [text, quoted]
        rw [written, read?, unquoted]
        simp [plain]

end Term

/-- A text in which no line ends. -/
def IsOneLine (text : String) : Prop := ∀ c ∈ text.toList, c ≠ '\n' ∧ c ≠ '\r'

instance (text : String) : Decidable (IsOneLine text) :=
  List.decidableBAll (fun c => c ≠ '\n' ∧ c ≠ '\r') text.toList

theorem IsOneLine.append {a b : String} (first : IsOneLine a) (second : IsOneLine b) :
    IsOneLine (a ++ b) := by
  intro c member
  rw [String.toList_append] at member
  rcases List.mem_append.mp member with here | there
  · exact first c here
  · exact second c there

namespace Term

theorem isOneLine_of_isValid {iri : String} (valid : Iri.isValid iri) : IsOneLine iri :=
  fun c member => ⟨apart_of_isValid valid (by decide) c member,
    apart_of_isValid valid (by decide) c member⟩

theorem isOneLine_of_all {p : Char → Bool} {text : String} (all : ∀ c ∈ text.toList, p c)
    (lineFeed : p '\n' = false) (carriageReturn : p '\r' = false) : IsOneLine text :=
  fun c member => ⟨apart_of_all all lineFeed c member, apart_of_all all carriageReturn c member⟩

theorem escapeChar_apart {c d : Char} (member : d ∈ escapeChar c) : d ≠ '\n' ∧ d ≠ '\r' := by
  by_cases special : c ∈ ['"', '\\', '\n', '\r']
  · have escaped : IsOneLine (String.ofList (escapeChar c)) := by
      simp only [List.mem_cons, List.not_mem_nil, or_false] at special
      rcases special with rfl | rfl | rfl | rfl
      all_goals decide
    exact escaped d (by rwa [String.toList_ofList])
  · simp only [List.mem_cons, List.not_mem_nil, or_false, not_or] at special
    obtain ⟨quote, backslash, lineFeed, carriageReturn⟩ := special
    rw [escapeChar, if_neg quote, if_neg backslash, if_neg lineFeed, if_neg carriageReturn,
      List.mem_singleton] at member
    exact member ▸ ⟨lineFeed, carriageReturn⟩

theorem isOneLine_quoted (value : String) : IsOneLine (quoted value) := by
  have escaped : IsOneLine (String.ofList (value.toList.flatMap escapeChar)) := by
    intro c member
    rw [String.toList_ofList] at member
    obtain ⟨d, -, inside⟩ := List.mem_flatMap.mp member
    exact escapeChar_apart inside
  have quote : IsOneLine "\"" := by decide
  exact (quote.append escaped).append quote

theorem isOneLine_text {t : Term} (writable : t.Writable) : IsOneLine t.text := by
  cases t with
  | iri name =>
    have opened : IsOneLine "<" := by decide
    have closed : IsOneLine ">" := by decide
    exact (opened.append (isOneLine_of_isValid writable)).append closed
  | blankNode label =>
    have mark : IsOneLine "_:" := by decide
    exact mark.append (isOneLine_of_all writable (by decide) (by decide))
  | literal value datatype language =>
    obtain ⟨types, tags, -⟩ := writable
    refine (isOneLine_quoted value).append ?_
    cases language with
    | some tag =>
      have mark : IsOneLine "@" := by decide
      exact mark.append (isOneLine_of_all (tags tag rfl) (by decide) (by decide))
    | none =>
      cases datatype with
      | some type =>
        have opened : IsOneLine "^^<" := by decide
        have closed : IsOneLine ">" := by decide
        exact (opened.append (isOneLine_of_isValid (types type rfl))).append closed
      | none =>
        have nothing : IsOneLine "" := by decide
        exact nothing

/-- Terms with a space behind each of them, and the dot that ends a statement. -/
def lineOf : List Term → List Char
  | [] => ['.']
  | t :: rest => t.text.toList ++ ' ' :: lineOf rest

theorem lineOf_injective {ts us : List Term} (writable : ∀ t ∈ ts, t.Writable)
    (writable' : ∀ u ∈ us, u.Writable) (same : lineOf ts = lineOf us) : ts = us := by
  have read {t : Term} (head : t.Writable) (rest : List Term) :
      read? (lineOf (t :: rest)) = some (t, ' ' :: lineOf rest) := read?_text head _
  have ended : read? (lineOf []) = none := rfl
  induction ts generalizing us with
  | nil =>
    cases us with
    | nil => rfl
    | cons u us =>
      have found := read (writable' u List.mem_cons_self) us
      rw [← same, ended] at found
      cases found
  | cons t ts ih =>
    have found := read (writable t List.mem_cons_self) ts
    cases us with
    | nil =>
      rw [same, ended] at found
      cases found
    | cons u us =>
      obtain ⟨head, later⟩ := List.forall_mem_cons.mp writable'
      rw [same, read head us, Option.some.injEq, Prod.mk.injEq, List.cons.injEq] at found
      obtain ⟨rfl, -, rest⟩ := found
      rw [ih (fun t member => writable t (List.mem_cons_of_mem _ member)) later rest.symm]

end Term

namespace Quad

theorem toList_text (q : Quad) : q.text.toList = Term.lineOf q.terms := by
  obtain ⟨subject, predicate, object, graph⟩ := q
  cases graph <;> simp [text, terms, Term.lineOf]

/-- Two quads have the same terms just when they have them in each position. -/
theorem terms_eq_iff (a b : Quad) : a.terms = b.terms ↔
    a.subject.term = b.subject.term ∧ a.predicate.term = b.predicate.term ∧
    a.object.term = b.object.term ∧
    a.graph.map RoutedTerm.term = b.graph.map RoutedTerm.term := by
  obtain ⟨s, p, o, g⟩ := a
  obtain ⟨s', p', o', g'⟩ := b
  cases g <;> cases g' <;> simp [terms]

theorem isOneLine_text {q : Quad} (writable : ∀ t ∈ q.terms, t.Writable) : IsOneLine q.text := by
  have line {ts : List Term} (writable : ∀ t ∈ ts, t.Writable) :
      ∀ c ∈ Term.lineOf ts, c ≠ '\n' ∧ c ≠ '\r' := by
    induction ts with
    | nil => exact List.forall_mem_singleton.mpr (by decide)
    | cons t ts ih =>
      obtain ⟨head, rest⟩ := List.forall_mem_cons.mp writable
      exact List.forall_mem_append.mpr
        ⟨Term.isOneLine_text head, List.forall_mem_cons.mpr ⟨by decide, ih rest⟩⟩
  rw [IsOneLine, toList_text]
  exact line writable

/--
Quads of writable terms are written in one line each, and in the same line just when they have
the same subject, predicate, object and graph, or neither has a graph.
-/
theorem lines_tell_terms (a b : Quad) (writable : ∀ t ∈ a.terms, t.Writable)
    (writable' : ∀ t ∈ b.terms, t.Writable) :
    IsOneLine a.text ∧ IsOneLine b.text ∧
    (a.text = b.text ↔
      a.subject.term = b.subject.term ∧ a.predicate.term = b.predicate.term ∧
      a.object.term = b.object.term ∧
      a.graph.map RoutedTerm.term = b.graph.map RoutedTerm.term) := by
  refine ⟨isOneLine_text writable, isOneLine_text writable', ?_⟩
  rw [← terms_eq_iff, ← String.toList_inj, toList_text, toList_text]
  exact ⟨Term.lineOf_injective writable writable', congrArg Term.lineOf⟩

end Quad

namespace Remarks

/-- The value looks like the rest of a line that names a graph. -/
def plain : Quad :=
  ⟨(Term.iri "urn:s").unrouted, (Term.iri "urn:p").unrouted,
    (Term.plain "a\n\" <urn:g> .").unrouted, none⟩

def tagged : Quad :=
  ⟨(Term.iri "urn:s").unrouted, (Term.iri "urn:p").unrouted,
    (Term.literal "a\n" none (some "en-x")).unrouted, some (Term.iri "urn:g").unrouted⟩

end Remarks

theorem remarks_lines_tell_terms :
    (∀ t ∈ Remarks.plain.terms, t.Writable) ∧ (∀ t ∈ Remarks.tagged.terms, t.Writable) ∧
    IsOneLine Remarks.plain.text ∧ IsOneLine Remarks.tagged.text ∧
    Remarks.plain.text ≠ Remarks.tagged.text := by
  have writable : ∀ t ∈ Remarks.plain.terms, t.Writable := by decide
  have writable' : ∀ t ∈ Remarks.tagged.terms, t.Writable := by decide
  obtain ⟨line, line', tells⟩ :=
    Quad.lines_tell_terms Remarks.plain Remarks.tagged writable writable'
  refine ⟨writable, writable', line, line', fun same => ?_⟩
  obtain ⟨-, -, -, graphs⟩ := tells.mp same
  cases graphs

end RdfMapping
