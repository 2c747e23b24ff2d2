import Mathlib.Data.List.Chain
import Mathlib.Data.List.Induction
import RdfMapping.Proofs.TemplateGrammar
import RdfMapping.Template.Exchange

/-!
# Templates in normal form

A template is in normal form if no segment is empty, no two texts follow each
other and slots are numbered from zero on. Reading gives templates in normal
form only, and reading what such a template is written as gives it back. There is
one such template for each list of pieces without empty slots, and so the grammar
settles what every text is read as. Nothing is assumed of the characters in texts
and expressions.
-/

namespace RdfMapping

namespace Segment

/-- The text, or the expression of the slot. -/
def content : Segment → String
  | .text s => s
  | .slot s => s.expression

def isText (s : Segment) : Bool := s.slot?.isNone

/-- No segment is empty, no two texts follow each other, and slots are numbered from `next` on. -/
structure NormalFrom (next : Nat) (segments : List Segment) : Prop where
  filled : ∀ s ∈ segments, s.content ≠ ""
  apart : segments.IsChain fun a b => ¬ (a.isText ∧ b.isText)
  numbered : (segments.filterMap slot?).map Slot.id =
    List.range' next (segments.filterMap slot?).length

namespace NormalFrom

variable {next : Nat} {rest : List Segment}

theorem nil (next : Nat) : NormalFrom next [] :=
  ⟨fun _ member => (List.not_mem_nil member).elim, .nil, rfl⟩

theorem slot_cons_iff {s : Slot} : NormalFrom next (.slot s :: rest) ↔
    s.id = next ∧ s.expression ≠ "" ∧ NormalFrom (next + 1) rest := by
  have numbers : (List.filterMap slot? (.slot s :: rest)).map Slot.id =
      List.range' next (List.filterMap slot? (.slot s :: rest)).length ↔
      s.id = next ∧ (rest.filterMap slot?).map Slot.id =
        List.range' (next + 1) (rest.filterMap slot?).length := by
    simp [slot?, List.range'_succ]
  constructor
  · intro normal
    obtain ⟨here, later⟩ := numbers.mp normal.numbered
    refine ⟨here, normal.filled _ List.mem_cons_self, ?_, normal.apart.tail, later⟩
    exact fun a member => normal.filled a (List.mem_cons_of_mem _ member)
  · rintro ⟨here, filled, later⟩
    refine ⟨List.forall_mem_cons.mpr ⟨filled, later.filled⟩, ?_, numbers.mpr ⟨here, later.numbered⟩⟩
    refine List.isChain_cons.mpr ⟨fun b _ both => ?_, later.apart⟩
    cases both.1

theorem text_cons_iff {text : String} : NormalFrom next (.text text :: rest) ↔
    text ≠ "" ∧ (∀ a ∈ rest.head?, a.isText = false) ∧ NormalFrom next rest := by
  constructor
  · intro normal
    obtain ⟨first, later⟩ := List.isChain_cons.mp normal.apart
    refine ⟨normal.filled _ List.mem_cons_self, fun a head => ?_, ?_, later, normal.numbered⟩
    · exact Bool.eq_false_iff.mpr fun isText => first a head ⟨rfl, isText⟩
    · exact fun a member => normal.filled a (List.mem_cons_of_mem _ member)
  · rintro ⟨filled, first, later⟩
    refine ⟨List.forall_mem_cons.mpr ⟨filled, later.filled⟩, ?_, later.numbered⟩
    refine List.isChain_cons.mpr ⟨fun b head both => ?_, later.apart⟩
    have apart := first b head
    rw [both.2] at apart
    cases apart

end NormalFrom

end Segment

open Segment (NormalFrom)

namespace Template

def IsNormal (t : Template) : Prop := NormalFrom 0 t.segments

/-- A waiting text goes before what starts with a slot or is empty. -/
theorem normalFrom_textSegment {next : Nat} {done : List Char} {rest : List Segment}
    (first : ∀ a ∈ rest.head?, a.isText = false) (normal : NormalFrom next rest) :
    NormalFrom next (textSegment done ++ rest) := by
  unfold textSegment
  split
  · exact normal
  · rename_i some
    have filled : String.ofList done.reverse ≠ "" := by
      rw [ne_eq, String.ofList_eq_empty_iff, List.reverse_eq_nil_iff]
      simpa using some
    exact NormalFrom.text_cons_iff.mpr ⟨filled, first, normal⟩

/-- Whatever pieces were read and whatever text waits, they are joined into normal form. -/
theorem assemble_normalFrom (next : Nat) (done : List Char) (pieces : List Piece) :
    NormalFrom next (assemble next done pieces) := by
  induction pieces generalizing next done with
  | nil =>
    rw [assemble, ← List.append_nil (textSegment done)]
    exact normalFrom_textSegment (fun a head => by cases head) (.nil next)
  | cons piece rest ih =>
    cases piece with
    | char c => exact ih next (c :: done)
    | slot expression =>
      rw [assemble]
      split
      · exact ih next done
      · rename_i some
        have filled : String.ofList expression ≠ "" := by
          rw [ne_eq, String.ofList_eq_empty_iff]
          simpa using some
        refine normalFrom_textSegment (fun a head => ?_) ?_
        · cases head
          rfl
        · exact NormalFrom.slot_cons_iff.mpr ⟨rfl, filled, ih (next + 1) []⟩

theorem isNormal_of_read {s : String} {t : Template} (given : read s = .ok t) : t.IsNormal := by
  unfold read at given
  cases found : readText 0 s.toList with
  | error violation =>
    rw [found] at given
    cases given
  | ok pieces =>
    rw [found] at given
    cases given
    exact assemble_normalFrom 0 [] pieces

/-- Outside of slots, wherever these characters stand, they are read as these pieces. -/
def ReadsAs (cs : List Char) (pieces : List Piece) : Prop :=
  ∀ offset, readText offset cs = .ok pieces

theorem textChar_escapeChar (c : Char) : TextChar (escapeChar c) c := by
  by_cases mark : isMark c
  · rw [escapeChar, if_pos mark]
    exact .escaped mark
  · rw [escapeChar, if_neg mark]
    exact .plain (fun same => mark (same ▸ isMark_openMark))
      fun same => mark (same ▸ isMark_escapeMark)

theorem slotChar_escapeChar (c : Char) : SlotChar (escapeChar c) c := by
  by_cases mark : isMark c
  · rw [escapeChar, if_pos mark]
    exact .escaped mark
  · rw [escapeChar, if_neg mark]
    exact .plain (by simpa using mark)

theorem slotText_escape (expression : List Char) : SlotText (escape expression) expression := by
  induction expression using List.reverseRecOn with
  | nil => exact .nil
  | append_singleton expression c ih =>
    rw [escape, List.flatMap_append, List.flatMap_singleton]
    exact ih.snoc (slotChar_escapeChar c)

theorem Written.escape {text : List Char} {pieces : List Piece} (before : Written text pieces)
    (cs : List Char) : Written (text ++ escape cs) (pieces ++ cs.map Piece.char) := by
  induction cs using List.reverseRecOn with
  | nil => simpa [Template.escape] using before
  | append_singleton cs c ih =>
    rw [Template.escape, List.flatMap_append, List.flatMap_singleton, List.map_append,
      ← List.append_assoc, ← List.append_assoc]
    exact ih.char (textChar_escapeChar c)

/-- The pieces of a segment: characters, or a slot. -/
def segmentPieces : Segment → List Piece
  | .text text => text.toList.map Piece.char
  | .slot s => [.slot s.expression.toList]

/-- Segments are written by the grammar. -/
theorem written_render (segments : List Segment) :
    Written (segments.flatMap renderSegment) (segments.flatMap segmentPieces) := by
  induction segments using List.reverseRecOn with
  | nil => exact .nil
  | append_singleton segments segment ih =>
    rw [List.flatMap_append, List.flatMap_append, List.flatMap_singleton, List.flatMap_singleton]
    cases segment with
    | text text => exact ih.escape text.toList
    | slot s =>
      rw [renderSegment, ← List.append_assoc]
      exact ih.slot (slotText_escape s.expression.toList)

theorem readsAs_render (segments : List Segment) :
    ReadsAs (segments.flatMap renderSegment) (segments.flatMap segmentPieces) :=
  readText_of_written (written_render segments)

theorem assemble_chars (next : Nat) (done : List Char) (cs : List Char) (pieces : List Piece) :
    assemble next done (cs.map Piece.char ++ pieces) = assemble next (cs.reverse ++ done) pieces := by
  induction cs generalizing done with
  | nil => rfl
  | cons c cs ih =>
    rw [List.map_cons, List.cons_append, assemble, ih, List.reverse_cons, List.append_assoc,
      List.singleton_append]

/-- A waiting text becomes a segment of its own, if no text follows it; the rest stays as it is. -/
theorem assemble_pieces {next : Nat} {done : List Char} {segments : List Segment}
    (normal : NormalFrom next segments)
    (first : done ≠ [] → ∀ a ∈ segments.head?, a.isText = false) :
    assemble next done (segments.flatMap segmentPieces) = textSegment done ++ segments := by
  induction segments generalizing next done with
  | nil => rw [List.flatMap_nil, assemble, List.append_nil]
  | cons segment rest ih =>
    rw [List.flatMap_cons]
    cases segment with
    | text text =>
      obtain ⟨filled, apart, later⟩ := NormalFrom.text_cons_iff.mp normal
      have none : done = [] := by
        refine Decidable.byContradiction fun some => ?_
        cases first some _ rfl
      have whole : textSegment text.toList.reverse = [.text text] := by
        have some : text.toList.reverse ≠ [] := by
          rw [ne_eq, List.reverse_eq_nil_iff, String.toList_eq_nil_iff]
          exact filled
        rw [textSegment, if_neg (by simpa using some), List.reverse_reverse, String.ofList_toList]
      rw [segmentPieces, assemble_chars, none, List.append_nil, ih later fun _ => apart, whole]
      rfl
    | slot s =>
      obtain ⟨rfl, filled, later⟩ := NormalFrom.slot_cons_iff.mp normal
      have some : s.expression.toList.isEmpty = false := by
        rw [List.isEmpty_eq_false_iff, ne_eq, String.toList_eq_nil_iff]
        exact filled
      rw [segmentPieces, List.singleton_append, assemble, some, String.ofList_toList,
        ih later fun none => (none rfl).elim]
      rfl

theorem read_render_of_isNormal {t : Template} (normal : t.IsNormal) : read t.render = .ok t := by
  rw [read, render, String.toList_ofList, readsAs_render t.segments 0]
  change Except.ok (Template.mk (assemble 0 [] (t.segments.flatMap segmentPieces))) = _
  rw [assemble_pieces normal fun none => (none rfl).elim]
  rfl

/-- The exchange forms of templates are the texts that can be read. -/
theorem ofOutline?_eq_some_iff {outline : Json.Outline} {t : Template} :
    ofOutline? outline = some t ↔ ∃ s, outline = .text s ∧ read s = .ok t := by
  cases outline with
  | text s =>
    cases found : read s with
    | ok u => simp [ofOutline?, Json.Outline.text?, found, Except.toOption]
    | error violation => simp [ofOutline?, Json.Outline.text?, found, Except.toOption]
  | _ => simp [ofOutline?, Json.Outline.text?]

/--
Reading gives templates in normal form, and each is read back from what it is
written as and from its exchange form. Every template in normal form is read from
what it is written as. Templates that were read and are written alike are the same.
-/
theorem normal_forms_round_trip :
    (∀ s t, read s = .ok t →
      t.IsNormal ∧ read t.render = read s ∧ ofOutline? t.toJson.outline = some t) ∧
    (∀ t : Template, t.IsNormal → read t.render = .ok t) ∧
    ∀ s t u v, read s = .ok t → read u = .ok v → t.render = v.render → t = v := by
  refine ⟨fun s t given => ?_, fun t normal => read_render_of_isNormal normal, ?_⟩
  · have normal := isNormal_of_read given
    have again := read_render_of_isNormal normal
    exact ⟨normal, again.trans given.symm, ofOutline?_eq_some_iff.mpr ⟨_, rfl, again⟩⟩
  · intro s t u v first next same
    have back := read_render_of_isNormal (isNormal_of_read next)
    rw [← same, read_render_of_isNormal (isNormal_of_read first)] at back
    exact Except.ok.inj back

/-- A text with empty slots and escapes, inside of a slot and outside. -/
def winding : String := "\x7b\x7da\\\x7b\x7b\x7db\x7bc\\\x7d\x7d\x7bd\x7d\x7b\x7d"

def windingTemplate : Template :=
  ⟨[.text "a\x7bb", .slot ⟨0, "c\x7d"⟩, .slot ⟨1, "d"⟩]⟩

theorem winding_round_trip :
    read winding = .ok windingTemplate ∧ windingTemplate.IsNormal ∧
      read windingTemplate.render = read winding ∧
      ofOutline? windingTemplate.toJson.outline = some windingTemplate := by
  have exchanged : ofOutline? (.text winding) = some windingTemplate := by decide +kernel
  obtain ⟨s, same, given⟩ := ofOutline?_eq_some_iff.mp exchanged
  cases same
  exact ⟨given, normal_forms_round_trip.1 winding windingTemplate given⟩

/-- The pieces of which segments are made: all but empty slots. -/
def filled (pieces : List Piece) : List Piece := pieces.filter (· ≠ .slot [])

theorem segmentPieces_textSegment (done : List Char) :
    (textSegment done).flatMap segmentPieces = done.reverse.map Piece.char := by
  unfold textSegment
  split
  · rename_i empty
    simp_all
  · simp [segmentPieces]

/-- Joining pieces neither loses nor adds any, but for empty slots. -/
theorem flatMap_assemble (next : Nat) (done : List Char) (pieces : List Piece) :
    (assemble next done pieces).flatMap segmentPieces =
      done.reverse.map Piece.char ++ filled pieces := by
  induction pieces generalizing next done with
  | nil => rw [assemble, segmentPieces_textSegment, filled, List.filter_nil, List.append_nil]
  | cons piece rest ih =>
    cases piece with
    | char c =>
      rw [assemble, ih]
      simp [filled]
    | slot expression =>
      by_cases empty : expression = []
      · subst empty
        rw [assemble]
        simp [filled, ih]
      · rw [assemble]
        simp [filled, ih, empty, segmentPieces_textSegment, segmentPieces]

/-- One template in normal form is made of these pieces. -/
theorem assemble_eq_iff {pieces : List Piece} {t : Template} :
    (⟨assemble 0 [] pieces⟩ : Template) = t ↔
      t.IsNormal ∧ t.segments.flatMap segmentPieces = filled pieces := by
  have normal := assemble_normalFrom 0 [] pieces
  have made := flatMap_assemble 0 [] pieces
  constructor
  · rintro rfl
    exact ⟨normal, made⟩
  · rintro ⟨isNormal, same⟩
    have again : assemble 0 [] ((assemble 0 [] pieces).flatMap segmentPieces) =
        assemble 0 [] pieces := assemble_pieces normal fun none => (none rfl).elim
    have back : assemble 0 [] (t.segments.flatMap segmentPieces) = t.segments :=
      assemble_pieces isNormal fun none => (none rfl).elim
    rw [made] at again
    rw [same] at back
    have segments : assemble 0 [] pieces = t.segments := again.symm.trans back
    rw [segments]

theorem read_eq_ok_iff {s : String} {t : Template} :
    read s = .ok t ↔ ∃ pieces, Written s.toList pieces ∧
      t.IsNormal ∧ t.segments.flatMap segmentPieces = filled pieces := by
  rw [read]
  constructor
  · intro given
    cases found : readText 0 s.toList with
    | error violation =>
      rw [found] at given
      cases given
    | ok pieces =>
      rw [found] at given
      exact ⟨pieces, readText_eq_ok_iff.mp found, assemble_eq_iff.mp (Except.ok.inj given)⟩
  · rintro ⟨pieces, written, made⟩
    rw [readText_eq_ok_iff.mpr written]
    exact congrArg Except.ok (assemble_eq_iff.mpr made)

theorem read_eq_error_iff {s : String} {violation : Violation} :
    read s = .error violation ↔ Violates s.toList violation := by
  rw [read, ← readText_eq_error_iff]
  cases readText 0 s.toList <;> simp [Except.map]

/--
A text can be read just when it follows the grammar. It is then read as the template in
normal form that is made of its pieces but for empty slots, and so the texts around these
are one. Any other text is refused with the first rule that it breaks and with its place.
-/
theorem reading_follows_grammar (s : String) :
    ((∃ t, read s = .ok t) ↔ ∃ pieces, Written s.toList pieces) ∧
    (∀ t, read s = .ok t ↔ ∃ pieces, Written s.toList pieces ∧
      t.IsNormal ∧ t.segments.flatMap segmentPieces = filled pieces) ∧
    ∀ violation, read s = .error violation ↔ Violates s.toList violation := by
  refine ⟨?_, fun t => read_eq_ok_iff, fun violation => read_eq_error_iff⟩
  constructor
  · rintro ⟨t, given⟩
    obtain ⟨pieces, written, -⟩ := read_eq_ok_iff.mp given
    exact ⟨pieces, written⟩
  · rintro ⟨pieces, written⟩
    have made := assemble_eq_iff.mp (rfl : (⟨assemble 0 [] pieces⟩ : Template) = _)
    exact ⟨_, read_eq_ok_iff.mpr ⟨pieces, written, made⟩⟩

end Template

end RdfMapping
