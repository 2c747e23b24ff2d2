import RdfMapping.Proofs.CheckedTermMaps
import RdfMapping.Proofs.IriTexts
import RdfMapping.Proofs.NormalTemplates
import RdfMapping.Proofs.TemplateRows

/-!
# IRIs made of templates

A template whose slots are kept apart by characters that no encoded value holds can
be taken to pieces again: what stands in a slot ends where the first such character
stands. If such a template starts with an absolute text, its IRIs are the texts
themselves, never put behind a base, and they tell the values of its slots apart up
to normalization.
-/

namespace RdfMapping

namespace Template

/--
No two slots meet without a character between them that no encoded value holds.
With `joined`, a slot came before and no such character since.
-/
def separatedFrom : (joined : Bool) → List Segment → Bool
  | _, [] => true
  | joined, .text text :: rest => separatedFrom (joined && text.toList.all Iri.isEncoded) rest
  | joined, .slot _ :: rest => !joined && separatedFrom true rest

/-- A text as encoded values are. -/
def Encoded (s : String) : Prop := ∀ c ∈ s.toList, Iri.isEncoded c

theorem encoded_safe (value : String) : Encoded (Iri.safe value) :=
  fun _ member => Iri.isEncoded_of_mem_safe member

theorem Encoded.append {a b : String} (first : Encoded a) (second : Encoded b) :
    Encoded (a ++ b) := by
  intro c member
  rw [String.toList_append] at member
  rcases List.mem_append.mp member with here | there
  · exact first c here
  · exact second c there

/-- An encoded text reaches up to the separator behind it. -/
theorem takeWhile_isEncoded {value between : String} (encoded : Encoded value)
    (apart : between.toList.all Iri.isEncoded = false) (after : String) :
    (value ++ (between ++ after)).toList.takeWhile Iri.isEncoded =
      value.toList ++ between.toList.takeWhile Iri.isEncoded := by
  obtain ⟨c, member, outside⟩ := List.all_eq_false.mp apart
  rw [String.toList_append, String.toList_append, List.takeWhile_append_of_pos encoded,
    Iri.takeWhile_append_of_mem member (Bool.eq_false_iff.mpr outside)]

theorem eq_of_separated {v w between a b : String} (left : Encoded v) (right : Encoded w)
    (apart : between.toList.all Iri.isEncoded = false)
    (same : v ++ (between ++ a) = w ++ (between ++ b)) : v = w := by
  have taken := takeWhile_isEncoded left apart a
  rw [same, takeWhile_isEncoded right apart b] at taken
  exact String.toList_inj.mp (List.append_cancel_right taken).symm

/-- Texts that end in the value of an open slot each, or else are the same. -/
def SameSoFar : (joined : Bool) → String → String → Prop
  | true, v, w => Encoded v ∧ Encoded w
  | false, v, w => v = w

/-- Separated segments that give the same text were filled with the same values. -/
theorem fillSegments_injective {segments : List Segment} {joined : Bool}
    (separated : separatedFrom joined segments) {v w : String} (before : SameSoFar joined v w)
    {row row' : List String} (length : row.length = (segments.filterMap Segment.slot?).length)
    (length' : row'.length = (segments.filterMap Segment.slot?).length)
    (encoded : ∀ value ∈ row, Encoded value) (encoded' : ∀ value ∈ row', Encoded value)
    (same : v ++ fillSegments segments row = w ++ fillSegments segments row') :
    v = w ∧ row = row' := by
  induction segments generalizing joined v w row row' with
  | nil =>
    have none : row = [] := List.eq_nil_of_length_eq_zero length
    have none' : row' = [] := List.eq_nil_of_length_eq_zero length'
    subst none none'
    exact ⟨(String.append_left_inj _).mp same, rfl⟩
  | cons segment rest ih =>
    cases segment with
    | text text =>
      rw [separatedFrom] at separated
      rw [fillSegments, fillSegments] at same
      have longer : v ++ text ++ fillSegments rest row = w ++ text ++ fillSegments rest row' := by
        rw [String.append_assoc, String.append_assoc, same]
      -- A separator closes the slot: what stands before it is the same on both sides.
      have next : SameSoFar (joined && text.toList.all Iri.isEncoded) (v ++ text) (w ++ text) := by
        cases joined with
        | false => exact congrArg (· ++ text) before
        | true =>
          obtain ⟨left, right⟩ := before
          cases outside : text.toList.all Iri.isEncoded with
          | false => exact congrArg (· ++ text) (eq_of_separated left right outside same)
          | true =>
            have text : Encoded text := List.all_eq_true.mp outside
            exact ⟨left.append text, right.append text⟩
      obtain ⟨texts, rows⟩ := ih separated next length length' encoded encoded' longer
      exact ⟨(String.append_left_inj text).mp texts, rows⟩
    | slot s =>
      cases joined with
      | true => cases separated
      | false =>
        have start : v = w := before
        subst start
        cases row with
        | nil => cases length
        | cons value row =>
          cases row' with
          | nil => cases length'
          | cons value' row' =>
            obtain ⟨first, encoded⟩ := List.forall_mem_cons.mp encoded
            obtain ⟨first', encoded'⟩ := List.forall_mem_cons.mp encoded'
            have behind : value ++ fillSegments rest row = value' ++ fillSegments rest row' :=
              (String.append_right_inj v).mp same
            obtain ⟨rfl, rfl⟩ := ih separated ⟨first, first'⟩ (Nat.succ.inj length)
              (Nat.succ.inj length') encoded encoded' behind
            exact ⟨rfl, rfl⟩

/-- The text of an IRI template with these values in its slots. -/
def iriOf (t : Template) (row : List String) : String := t.fill (row.map Iri.safe)

/-- Absolute from the start, free of what no IRI may hold, and with slots kept apart. -/
structure TellsApart (t : Template) : Prop where
  absolute : ∃ text rest, t.segments = .text text :: rest ∧ Iri.isAbsolute text
  allowed : ∀ text, .text text ∈ t.segments → ∀ c ∈ text.toList, Iri.isForbidden c = false
  separated : separatedFrom false t.segments

/-- What stands in filled segments stands in one of the texts or in one of the values. -/
theorem mem_fillSegments {segments : List Segment} {row : List String} {c : Char}
    (member : c ∈ (fillSegments segments row).toList) :
    (∃ text, .text text ∈ segments ∧ c ∈ text.toList) ∨ ∃ value ∈ row, c ∈ value.toList := by
  induction segments generalizing row with
  | nil => cases member
  | cons segment rest ih =>
    have later {row : List String} (inside : c ∈ (fillSegments rest row).toList) :
        (∃ text, .text text ∈ segment :: rest ∧ c ∈ text.toList) ∨
          ∃ value ∈ row, c ∈ value.toList := by
      rcases ih inside with ⟨text, listed, here⟩ | value
      · exact .inl ⟨text, List.mem_cons_of_mem _ listed, here⟩
      · exact .inr value
    cases segment with
    | text text =>
      rw [fillSegments, String.toList_append, List.mem_append] at member
      rcases member with here | inside
      · exact .inl ⟨text, List.mem_cons_self, here⟩
      · exact later inside
    | slot s =>
      cases row with
      | nil => cases member
      | cons value row =>
        rw [fillSegments, String.toList_append, List.mem_append] at member
        rcases member with here | inside
        · exact .inr ⟨value, List.mem_cons_self, here⟩
        · rcases later inside with text | ⟨value', listed, here⟩
          · exact .inl text
          · exact .inr ⟨value', List.mem_cons_of_mem _ listed, here⟩

theorem map_safe_eq_iff {row row' : List String} :
    row.map Iri.safe = row'.map Iri.safe ↔ row.map Unicode.nfc = row'.map Unicode.nfc := by
  induction row generalizing row' with
  | nil => simp
  | cons value row ih =>
    cases row' with
    | nil => simp
    | cons value' row' =>
      simp only [List.map_cons, List.cons.injEq, Iri.safe_eq_safe_iff, ih]

variable {t : Template}

def StartsAbsolute (t : Template) : Prop :=
  ∃ text rest, t.segments = .text text :: rest ∧ Iri.isAbsolute text

/-- No text holds a character that IRIs may not hold. -/
def HoldsAllowed (t : Template) : Prop :=
  ∀ text, .text text ∈ t.segments → ∀ c ∈ text.toList, Iri.isForbidden c = false

/-- Only its texts can bring a forbidden character into an IRI of the template. -/
theorem isForbidden_of_mem_iriOf (allowed : t.HoldsAllowed) {row : List String} {c : Char}
    (member : c ∈ (t.iriOf row).toList) : Iri.isForbidden c = false := by
  rcases mem_fillSegments member with ⟨text, listed, here⟩ | ⟨value, listed, here⟩
  · exact allowed text listed c here
  · obtain ⟨raw, -, rfl⟩ := List.mem_map.mp listed
    exact Iri.isForbidden_eq_false_of_isEncoded (encoded_safe raw c here)

theorem isValid_iriOf (allowed : t.HoldsAllowed) (starts : t.StartsAbsolute)
    (row : List String) : Iri.isValid (t.iriOf row) := by
  refine Iri.isValid_iff.mpr ⟨?_, fun c member => isForbidden_of_mem_iriOf allowed member⟩
  obtain ⟨text, rest, first, absolute⟩ := starts
  rw [iriOf, fill, first, fillSegments]
  exact Iri.isAbsolute_append absolute _

namespace TellsApart

/-- Rows have the same IRI just when they agree in every slot after normalization. -/
theorem iriOf_eq_iff (apart : t.TellsApart) {row row' : List String}
    (length : row.length = t.slots.length) (length' : row'.length = t.slots.length) :
    t.iriOf row = t.iriOf row' ↔ row.map Unicode.nfc = row'.map Unicode.nfc := by
  have encoded (row : List String) : ∀ value ∈ row.map Iri.safe, Encoded value := by
    intro value member
    obtain ⟨raw, -, rfl⟩ := List.mem_map.mp member
    exact encoded_safe raw
  rw [← map_safe_eq_iff]
  constructor
  · intro same
    have whole : "" ++ t.fill (row.map Iri.safe) = "" ++ t.fill (row'.map Iri.safe) :=
      congrArg ("" ++ ·) same
    have before : SameSoFar false "" "" := rfl
    have lengths : (row.map Iri.safe).length = t.slots.length := by rwa [List.length_map]
    have lengths' : (row'.map Iri.safe).length = t.slots.length := by rwa [List.length_map]
    exact (fillSegments_injective apart.separated before lengths lengths' (encoded row)
      (encoded row') whole).2
  · exact fun same => congrArg t.fill same

end TellsApart

/-- The values of a slot on a record, as they are before encoding. -/
def slotValues (record : Record) (slot : Slot) : Except Fault SlotValues :=
  (record.evaluate slot.expression).map RawValue.lexicalValues

theorem slotValues_encoded (record : Record) (slot : Slot) :
    ValueSource.slotValues true record slot =
      (slotValues record slot).map fun column => column.map (·.map Iri.safe) := by
  rw [ValueSource.slotValues, slotValues]
  cases record.evaluate slot.expression <;> rfl

/-- What stands in an encoded column is a value of the column made safe. -/
theorem encoded_column_iff {record : Record} {slot : Slot} {i : Nat} {text : String} :
    (∃ column, ValueSource.slotValues true record slot = .ok column ∧
      column[i]? = some (some text)) ↔
    ∃ value, (∃ column, slotValues record slot = .ok column ∧
      column[i]? = some (some value)) ∧ Iri.safe value = text := by
  rw [slotValues_encoded]
  cases slotValues record slot with
  | error f => simp [Except.map]
  | ok column =>
    simp only [Except.map, Except.ok.injEq, exists_eq_left', List.getElem?_map,
      Option.map_eq_some_iff]
    constructor
    · rintro ⟨entry, here, value, rfl, rfl⟩
      exact ⟨value, here, rfl⟩
    · rintro ⟨value, here, rfl⟩
      exact ⟨some value, here, value, rfl, rfl⟩

theorem hasRow_encoded_iff {record : Record} {i : Nat} {texts : List String} :
    t.HasRow (ValueSource.slotValues true record) i texts ↔
      ∃ row, t.HasRow (slotValues record) i row ∧ row.map Iri.safe = texts := by
  simp only [HasRow, encoded_column_iff]
  induction t.slots generalizing texts with
  | nil => simp
  | cons slot slots ih =>
    simp only [List.forall₂_cons_left_iff, ih]
    constructor
    · rintro ⟨text, rest, ⟨value, here, rfl⟩, ⟨row, later, rfl⟩, rfl⟩
      exact ⟨value :: row, ⟨value, row, here, later, rfl⟩, rfl⟩
    · rintro ⟨_, ⟨value, row, here, later, rfl⟩, rfl⟩
      exact ⟨_, _, ⟨value, here, rfl⟩, ⟨row, later, rfl⟩, rfl⟩

/-- What an IRI template gives on a record are the IRIs of the rows of the record. -/
theorem mem_encodedRows {record : Record} {result : Option (List String)}
    (given : t.rows (ValueSource.slotValues true record) = .ok result) (text : String) :
    text ∈ result.getD [] ↔ ∃ i row, t.HasRow (slotValues record) i row ∧ t.iriOf row = text := by
  simp only [mem_rows given, hasRow_encoded_iff]
  constructor
  · rintro ⟨i, _, ⟨row, has, rfl⟩, filled⟩
    exact ⟨i, row, has, filled⟩
  · rintro ⟨i, row, has, filled⟩
    exact ⟨i, _, ⟨row, has, rfl⟩, filled⟩

theorem encodedRows_of_even {record : Record} {n : Nat}
    (even : ∀ slot ∈ t.slots, ∃ column, slotValues record slot = .ok column ∧ column.length = n) :
    ∃ result, t.rows (ValueSource.slotValues true record) = .ok result := by
  have columns : ∀ slot ∈ t.slots, ∃ column,
      ValueSource.slotValues true record slot = .ok column ∧ column.length = n := by
    intro slot member
    obtain ⟨column, found, length⟩ := even slot member
    rw [slotValues_encoded, found]
    exact ⟨_, rfl, by rwa [List.length_map]⟩
  exact rows_of_even columns

end Template

namespace Producer

variable {p : Producer}

theorem makeTerm_of_resolve? (kind : p.kind = .iri) {lexical iri : String}
    (resolved : Iri.resolve? lexical p.base = some iri) (inferred : Option String) :
    p.makeTerm inferred lexical = .ok (.iri iri) := by
  simp only [makeTerm, kind, resolved]

variable {t : Template} {record : Record}

/-- Where all texts become IRIs, nothing fails but the filling of the slots. -/
theorem apply_eq_of_resolve? (source : p.source = .template t true) (kind : p.kind = .iri)
    {iri : String → String}
    (resolved : ∀ result, t.rows (ValueSource.slotValues true record) = .ok result →
      ∀ text ∈ result.getD [], Iri.resolve? text p.base = some (iri text)) :
    p.apply record = (t.rows (ValueSource.slotValues true record)).map fun result =>
      ((result.getD []).map fun text => Term.iri (iri text)).eraseDups.map (⟨·, p.targets⟩) := by
  have found : p.lexicals record = (t.rows (ValueSource.slotValues true record)).map fun result =>
      (result.getD [], none) := by
    rw [lexicals, source]
    dsimp only
    rw [ValueSource.templateRows]
    cases t.rows (ValueSource.slotValues true record) <;> rfl
  cases given : t.rows (ValueSource.slotValues true record) with
  | error f =>
    rw [apply, source]
    dsimp only
    rw [found, given]
    rfl
  | ok result =>
    have varies : p.constant? = none := by rw [constant?, source]
    rw [given] at found
    exact apply_of_lexicals varies found fun text member =>
      makeTerm_of_resolve? kind (resolved result given text member) none

/-- All texts are IRIs already, and none is put behind the base. -/
theorem apply_eq_of_startsAbsolute (source : p.source = .template t true) (kind : p.kind = .iri)
    (allowed : t.HoldsAllowed) (starts : t.StartsAbsolute) (record : Record) :
    p.apply record = (t.rows (ValueSource.slotValues true record)).map fun result =>
      ((result.getD []).map Term.iri).eraseDups.map (⟨·, p.targets⟩) := by
  refine apply_eq_of_resolve? source kind fun result given text member => ?_
  obtain ⟨i, row, -, rfl⟩ := (Template.mem_encodedRows given text).mp member
  exact Iri.resolve?_of_isValid (Template.isValid_iriOf allowed starts row) _

theorem apply_eq_of_tellsApart (source : p.source = .template t true) (kind : p.kind = .iri)
    (apart : t.TellsApart) (record : Record) :
    p.apply record = (t.rows (ValueSource.slotValues true record)).map fun result =>
      ((result.getD []).map Term.iri).eraseDups.map (⟨·, p.targets⟩) :=
  apply_eq_of_startsAbsolute source kind apart.allowed apart.absolute record

variable {ctx : Context} {label text : String} {m : TermMap} {position : Position}

/-- A compiled IRI template has the rows of its template, and encodes what it puts into slots. -/
theorem compile_template (compiled : compile ctx label m position = .ok p)
    (declared : m.template = some text) (kind : m.effectiveKind position = .iri)
    (readable : Template.read text = .ok t) :
    p.source = .template t true ∧ p.kind = .iri ∧ p.targets = m.targets := by
  obtain ⟨checked, source, found, rfl⟩ := compile_ok_iff.mp compiled
  have one := TermMap.strategyCount_of_check checked
  rw [TermMap.source_template one declared readable, kind] at found
  cases found
  exact ⟨rfl, kind, rfl⟩

/--
The IRIs that a term map makes of such a template are those of the rows of the record,
as they stand; slots with equally many values are never refused. Two rows, of one
record or of two, have the same IRI just when they agree in every slot after
normalization.
-/
theorem template_iris_tell_rows_apart (compiled : compile ctx label m position = .ok p)
    (declared : m.template = some text) (kind : m.effectiveKind position = .iri)
    (readable : Template.read text = .ok t) (apart : t.TellsApart) :
    (∀ record terms, p.apply record = .ok terms → ∀ routed, routed ∈ terms ↔
      ∃ i row, t.HasRow (Template.slotValues record) i row ∧
        routed = ⟨.iri (t.iriOf row), m.targets⟩) ∧
    (∀ record n, (∀ slot ∈ t.slots, ∃ column, Template.slotValues record slot = .ok column ∧
      column.length = n) → ∃ terms, p.apply record = .ok terms) ∧
    ∀ record i row record' i' row', t.HasRow (Template.slotValues record) i row →
      t.HasRow (Template.slotValues record') i' row' →
        (t.iriOf row = t.iriOf row' ↔ row.map Unicode.nfc = row'.map Unicode.nfc) := by
  obtain ⟨source, iri, targets⟩ := compile_template compiled declared kind readable
  have applied := apply_eq_of_tellsApart source iri apart
  refine ⟨fun record terms given routed => ?_, fun record n even => ?_, ?_⟩
  · rw [applied] at given
    cases found : t.rows (ValueSource.slotValues true record) with
    | error f =>
      rw [found] at given
      cases given
    | ok result =>
      rw [found] at given
      cases given
      have iris := Template.mem_encodedRows found
      simp only [List.mem_map, List.mem_eraseDups, iris, targets]
      constructor
      · rintro ⟨_, ⟨_, ⟨i, row, has, rfl⟩, rfl⟩, rfl⟩
        exact ⟨i, row, has, rfl⟩
      · rintro ⟨i, row, has, rfl⟩
        exact ⟨_, ⟨_, ⟨i, row, has, rfl⟩, rfl⟩, rfl⟩
  · obtain ⟨result, found⟩ := Template.encodedRows_of_even even
    rw [applied, found]
    exact ⟨_, rfl⟩
  · intro record i row record' i' row' has has'
    exact apart.iriOf_eq_iff has.length_eq.symm has'.length_eq.symm

end Producer

namespace Pages

def template : Template :=
  ⟨[.text "http://a/", .slot ⟨0, "section"⟩, .text "/", .slot ⟨1, "page"⟩]⟩

def termMap : TermMap := { template := some template.render }

theorem isNormal : template.IsNormal := by
  simp [Template.IsNormal, template, Segment.NormalFrom.text_cons_iff,
    Segment.NormalFrom.slot_cons_iff, Segment.NormalFrom.nil, Segment.isText, Segment.slot?]

theorem readable : Template.read template.render = .ok template :=
  Template.read_render_of_isNormal isNormal

theorem tellsApart : template.TellsApart := by
  refine ⟨⟨_, _, rfl, by decide +kernel⟩, fun text listed => ?_, by decide +kernel⟩
  simp only [template, List.mem_cons, Segment.text.injEq, reduceCtorEq, List.not_mem_nil,
    or_false, false_or] at listed
  have allowed : text.toList.all fun c => Iri.isForbidden c = false := by
    rcases listed with rfl | rfl <;> decide +kernel
  exact fun c member => of_decide_eq_true (List.all_eq_true.mp allowed c member)

def producer : Producer where
  label := "page"
  position := .subject
  kind := .iri
  source := .template template true
  language := none
  datatype := none
  base := none
  targets := ∅

theorem compiled :
    Producer.compile ⟨.empty, .empty, none⟩ "page" termMap .subject = .ok producer :=
  Producer.compile_ok_iff.mpr ⟨rfl, _, TermMap.source_template rfl rfl readable, rfl⟩

/-- A page of a section, with the same slash in another slot. -/
def record (sections pages : String) : Record where
  evaluate e := .ok [.text (if e = "section" then sections else pages)]
  datatype? _ := none

theorem hasRow (sections pages : String) :
    template.HasRow (Template.slotValues (record sections pages)) 0 [sections, pages] :=
  .cons ⟨_, rfl, rfl⟩ (.cons ⟨_, rfl, rfl⟩ .nil)

end Pages

theorem pages_tell_rows_apart :
    Producer.compile ⟨.empty, .empty, none⟩ "page" Pages.termMap .subject = .ok Pages.producer ∧
    Pages.template.TellsApart ∧
    (∃ terms, Pages.producer.apply (Pages.record "a/b" "c") = .ok terms ∧
      ⟨.iri (Pages.template.iriOf ["a/b", "c"]), ∅⟩ ∈ terms) ∧
    Pages.template.HasRow (Template.slotValues (Pages.record "a" "b/c")) 0 ["a", "b/c"] ∧
    Pages.template.iriOf ["a/b", "c"] ≠ Pages.template.iriOf ["a", "b/c"] := by
  obtain ⟨given, even, same⟩ := Producer.template_iris_tell_rows_apart Pages.compiled rfl rfl
    Pages.readable Pages.tellsApart
  have one : ∀ slot ∈ Pages.template.slots, ∃ column,
      Template.slotValues (Pages.record "a/b" "c") slot = .ok column ∧ column.length = 1 :=
    fun slot _ => ⟨_, rfl, rfl⟩
  obtain ⟨terms, applied⟩ := even _ 1 one
  have here := (given _ terms applied _).mpr ⟨0, _, Pages.hasRow "a/b" "c", rfl⟩
  have apart := same _ _ _ _ _ _ (Pages.hasRow "a/b" "c") (Pages.hasRow "a" "b/c")
  have differ : ["a/b", "c"].map Unicode.nfc ≠ ["a", "b/c"].map Unicode.nfc := by decide +kernel
  exact ⟨Pages.compiled, Pages.tellsApart, ⟨terms, applied, here⟩, Pages.hasRow "a" "b/c",
    mt apart.mp differ⟩

end RdfMapping
