import RdfMapping.Template.Reader

/-!
# The grammar of template texts

What template texts are, said without the reader: characters and slots in any order, each
of them plain or escaped. Reading accepts these texts and no others. Any other text breaks
a rule somewhere behind a part that breaks none, and the reader reports that place in
bytes of UTF-8. Nothing is assumed of the characters.
-/

namespace RdfMapping.Template

/-- How a character is written outside of slots. -/
inductive TextChar : List Char → Char → Prop where
  | plain {c : Char} (apart : c ≠ openMark) (unescaped : c ≠ escapeMark) : TextChar [c] c
  | escaped {c : Char} (mark : isMark c) : TextChar [escapeMark, c] c

/-- How a character is written inside of a slot. -/
inductive SlotChar : List Char → Char → Prop where
  | plain {c : Char} (unmarked : isMark c = false) : SlotChar [c] c
  | escaped {c : Char} (mark : isMark c) : SlotChar [escapeMark, c] c

/-- How an expression is written; it may be empty. -/
inductive SlotText : List Char → List Char → Prop where
  | nil : SlotText [] []
  | snoc {text last expression : List Char} {c : Char} (before : SlotText text expression)
      (next : SlotChar last c) : SlotText (text ++ last) (expression ++ [c])

/-- How pieces are written. -/
inductive Written : List Char → List Piece → Prop where
  | nil : Written [] []
  | char {text last : List Char} {pieces : List Piece} {c : Char} (before : Written text pieces)
      (next : TextChar last c) : Written (text ++ last) (pieces ++ [.char c])
  | slot {text inner expression : List Char} {pieces : List Piece} (before : Written text pieces)
      (inside : SlotText inner expression) :
      Written (text ++ openMark :: inner ++ [closeMark]) (pieces ++ [.slot expression])

/-- Text in which no rule is broken, up to some place outside or inside of a slot. -/
inductive Sound : (inside : Bool) → List Char → Prop where
  | outside {text : List Char} {pieces : List Piece} (written : Written text pieces) :
      Sound false text
  | inside {text inner expression : List Char} {pieces : List Piece}
      (written : Written text pieces) (slot : SlotText inner expression) :
      Sound true (text ++ openMark :: inner)

/-- The text that follows breaks a rule where it begins, at this offset. -/
inductive BreaksAt (offset : Nat) : (inside : Bool) → List Char → Violation → Prop where
  | dangling (inside : Bool) :
      BreaksAt offset inside [escapeMark] (.invalidEscape none offset)
  | escape (inside : Bool) {c : Char} (unmarked : isMark c = false) (rest : List Char) :
      BreaksAt offset inside (escapeMark :: c :: rest) (.invalidEscape (some c) offset)
  | nested (rest : List Char) : BreaksAt offset true (openMark :: rest) (.nestedSlot offset)
  | unclosed : BreaksAt offset true [] .unclosedSlot

/-- Bytes in UTF-8. -/
def byteLength (cs : List Char) : Nat := (String.ofList cs).utf8ByteSize

/-- The first rule that a text breaks. -/
def Violates (cs : List Char) (violation : Violation) : Prop :=
  ∃ before rest inside, cs = before ++ rest ∧ Sound inside before ∧
    BreaksAt (byteLength before) inside rest violation

theorem byteLength_nil : byteLength [] = 0 := rfl

theorem byteLength_append (as bs : List Char) :
    byteLength (as ++ bs) = byteLength as + byteLength bs := by
  rw [byteLength, String.ofList_append, String.utf8ByteSize_append]
  rfl

theorem byteLength_singleton (c : Char) : byteLength [c] = c.utf8Size := by
  rw [byteLength, ← String.singleton_eq_ofList, String.utf8ByteSize_singleton]

theorem byteLength_cons (c : Char) (cs : List Char) :
    byteLength (c :: cs) = c.utf8Size + byteLength cs := by
  have split := byteLength_append [c] cs
  rw [byteLength_singleton] at split
  exact split

theorem isMark_escapeMark : isMark escapeMark = true := by decide

theorem isMark_openMark : isMark openMark = true := by decide

theorem isMark_closeMark : isMark closeMark = true := by decide

/-- Whatever follows decides nothing about a character that is no backslash. -/
theorem readText_cons (offset : Nat) {c : Char} (plain : c ≠ escapeMark) (rest : List Char) :
    readText offset (c :: rest) =
      if c = openMark then readSlot (offset + c.utf8Size) [] rest
      else (readText (offset + c.utf8Size) rest).map (Piece.char c :: ·) := by
  cases rest <;> (conv => lhs; rw [readText, if_neg plain])

theorem readText_escape (offset : Nat) {c : Char} (mark : isMark c) (rest : List Char) :
    readText offset (escapeMark :: c :: rest) =
      (readText (offset + escapeMark.utf8Size + c.utf8Size) rest).map (Piece.char c :: ·) := by
  rw [readText, if_pos rfl, if_pos mark]

theorem readSlot_cons (offset : Nat) (done : List Char) {c : Char} (plain : c ≠ escapeMark)
    (rest : List Char) :
    readSlot offset done (c :: rest) =
      if c = openMark then .error (.nestedSlot offset)
      else if c = closeMark then
        (readText (offset + c.utf8Size) rest).map (Piece.slot done.reverse :: ·)
      else readSlot (offset + c.utf8Size) (c :: done) rest := by
  cases rest <;> (conv => lhs; rw [readSlot, if_neg plain])

theorem readSlot_escape (offset : Nat) (done : List Char) {c : Char} (mark : isMark c)
    (rest : List Char) :
    readSlot offset done (escapeMark :: c :: rest) =
      readSlot (offset + escapeMark.utf8Size + c.utf8Size) (c :: done) rest := by
  rw [readSlot, if_pos rfl, if_pos mark]

theorem except_map_map {ε α β γ : Type} (x : Except ε α) (f : α → β) (g : β → γ) :
    (x.map f).map g = x.map (g ∘ f) := by
  cases x <;> rfl

theorem readText_textChar {text : List Char} {c : Char} (written : TextChar text c) (offset : Nat)
    (rest : List Char) : readText offset (text ++ rest) =
      (readText (offset + byteLength text) rest).map (Piece.char c :: ·) := by
  cases written with
  | plain apart unescaped =>
    rw [List.singleton_append, readText_cons offset unescaped, if_neg apart, byteLength_singleton]
  | escaped mark =>
    rw [List.cons_append, List.singleton_append, readText_escape offset mark, byteLength_cons,
      byteLength_singleton, Nat.add_assoc]

theorem readSlot_slotChar {text : List Char} {c : Char} (written : SlotChar text c) (offset : Nat)
    (done rest : List Char) :
    readSlot offset done (text ++ rest) = readSlot (offset + byteLength text) (c :: done) rest := by
  cases written with
  | plain unmarked =>
    have apart : ∀ mark, isMark mark → c ≠ mark := by
      rintro mark isMark rfl
      rw [unmarked] at isMark
      cases isMark
    rw [List.singleton_append, readSlot_cons offset done (apart _ isMark_escapeMark),
      if_neg (apart _ isMark_openMark), if_neg (apart _ isMark_closeMark), byteLength_singleton]
  | escaped mark =>
    rw [List.cons_append, List.singleton_append, readSlot_escape offset done mark,
      byteLength_cons, byteLength_singleton, Nat.add_assoc]

theorem readSlot_slotText {text expression : List Char} (written : SlotText text expression)
    (offset : Nat) (rest : List Char) :
    readSlot offset [] (text ++ rest) =
      readSlot (offset + byteLength text) expression.reverse rest := by
  induction written generalizing rest with
  | nil => rfl
  | snoc before next ih =>
    rw [List.append_assoc, ih, readSlot_slotChar next, byteLength_append, Nat.add_assoc,
      List.reverse_append]
    rfl

theorem readText_openSlot {inner expression : List Char} (written : SlotText inner expression)
    (offset : Nat) (rest : List Char) :
    readText offset (openMark :: inner ++ rest) =
      readSlot (offset + byteLength (openMark :: inner)) expression.reverse rest := by
  rw [List.cons_append, readText_cons offset (by decide), if_pos rfl, readSlot_slotText written,
    byteLength_cons, Nat.add_assoc]

theorem readSlot_close (offset : Nat) (expression rest : List Char) :
    readSlot offset expression.reverse (closeMark :: rest) =
      (readText (offset + byteLength [closeMark]) rest).map (Piece.slot expression :: ·) := by
  rw [readSlot_cons _ _ (by decide), if_neg (by decide), if_pos rfl, List.reverse_reverse,
    byteLength_singleton]

/-- What was written before is read, and then the rest. -/
theorem readText_written {text : List Char} {pieces : List Piece} (written : Written text pieces)
    (offset : Nat) (rest : List Char) :
    readText offset (text ++ rest) =
      (readText (offset + byteLength text) rest).map (pieces ++ ·) := by
  induction written generalizing rest with
  | nil =>
    rw [List.nil_append, byteLength_nil, Nat.add_zero]
    cases readText offset rest <;> rfl
  | char before next ih =>
    rw [List.append_assoc, ih, readText_textChar next, byteLength_append, Nat.add_assoc,
      except_map_map]
    simp [Function.comp_def]
  | @slot text inner expression pieces before inside ih =>
    have shape : text ++ openMark :: inner ++ [closeMark] ++ rest =
        text ++ (openMark :: inner ++ closeMark :: rest) := by simp
    have length : byteLength (text ++ openMark :: inner ++ [closeMark]) =
        byteLength text + byteLength (openMark :: inner) + byteLength [closeMark] := by
      rw [byteLength_append, byteLength_append]
    rw [shape, ih, readText_openSlot inside, readSlot_close, except_map_map, length]
    simp [Function.comp_def, Nat.add_assoc]

theorem readText_of_written {text : List Char} {pieces : List Piece}
    (written : Written text pieces) (offset : Nat) : readText offset text = .ok pieces := by
  have whole := readText_written written offset []
  rw [List.append_nil, readText.eq_1] at whole
  rw [whole, Except.map, List.append_nil]

theorem readText_of_breaksAt {offset : Nat} {rest : List Char} {violation : Violation}
    (breaks : BreaksAt offset false rest violation) : readText offset rest = .error violation := by
  cases breaks with
  | dangling => rw [readText, if_pos rfl]
  | escape _ unmarked rest => rw [readText, if_pos rfl, if_neg (by simp [unmarked])]

theorem readSlot_of_breaksAt {offset : Nat} {rest : List Char} {violation : Violation}
    (breaks : BreaksAt offset true rest violation) (done : List Char) :
    readSlot offset done rest = .error violation := by
  cases breaks with
  | dangling => rw [readSlot, if_pos rfl]
  | escape _ unmarked rest => rw [readSlot, if_pos rfl, if_neg (by simp [unmarked])]
  | nested rest => rw [readSlot_cons offset done (by decide), if_pos rfl]
  | unclosed => rw [readSlot]

/-- The reader stops where a rule is broken, and says so. -/
theorem readText_of_violates {cs : List Char} {violation : Violation}
    (violates : Violates cs violation) : readText 0 cs = .error violation := by
  obtain ⟨before, rest, inside, rfl, sound, breaks⟩ := violates
  cases sound with
  | outside written =>
    have stops := readText_of_breaksAt breaks
    rw [readText_written written, Nat.zero_add, stops]
    rfl
  | @inside text inner expression pieces written slot =>
    have stops := readSlot_of_breaksAt breaks expression.reverse
    rw [byteLength_append] at stops
    rw [List.append_assoc, readText_written written, readText_openSlot slot, Nat.zero_add, stops]
    rfl

/-- An escaped mark breaks no rule anywhere. -/
theorem Sound.escaped {inside : Bool} {text : List Char} (sound : Sound inside text) {c : Char}
    (mark : isMark c) : Sound inside (text ++ [escapeMark, c]) := by
  cases sound with
  | outside written => exact .outside (written.char (.escaped mark))
  | @inside text inner expression pieces written slot =>
    have shape : text ++ openMark :: inner ++ [escapeMark, c] =
        text ++ openMark :: (inner ++ [escapeMark, c]) := by simp
    rw [shape]
    exact .inside written (slot.snoc (.escaped mark))

/-- A character that is no backslash goes on with what breaks no rule, or opens a slot in a slot. -/
theorem Sound.next {inside : Bool} {text : List Char} (sound : Sound inside text) {c : Char}
    (unescaped : c ≠ escapeMark) (unnested : ¬ (inside ∧ c = openMark)) :
    ∃ inside', Sound inside' (text ++ [c]) := by
  cases sound with
  | outside written =>
    by_cases opens : c = openMark
    · subst opens
      exact ⟨true, .inside written .nil⟩
    · exact ⟨false, .outside (written.char (.plain opens unescaped))⟩
  | @inside text inner expression pieces written slot =>
    by_cases closes : c = closeMark
    · subst closes
      exact ⟨false, .outside (written.slot slot)⟩
    · have opens : c ≠ openMark := fun opens => unnested ⟨rfl, opens⟩
      have unmarked : isMark c = false := by simp [isMark, opens, closes, unescaped]
      have shape : text ++ openMark :: inner ++ [c] = text ++ openMark :: (inner ++ [c]) := by simp
      rw [shape]
      exact ⟨true, .inside written (slot.snoc (.plain unmarked))⟩

/-- Whatever follows a part that breaks no rule, the whole is a template text or breaks one. -/
theorem Sound.written_or_violates {inside : Bool} {before : List Char}
    (sound : Sound inside before) (rest : List Char) :
    (∃ pieces, Written (before ++ rest) pieces) ∨ ∃ violation, Violates (before ++ rest) violation := by
  induction size : rest.length using Nat.strongRecOn generalizing inside before rest with
  | ind n ih =>
    cases rest with
    | nil =>
      cases sound with
      | outside written => exact .inl ⟨_, by simpa using written⟩
      | inside written slot => exact .inr ⟨_, _, [], _, rfl, .inside written slot, .unclosed⟩
    | cons c rest =>
      by_cases escapes : c = escapeMark
      · subst escapes
        cases rest with
        | nil => exact .inr ⟨_, _, _, _, rfl, sound, .dangling inside⟩
        | cons e rest =>
          by_cases mark : isMark e
          · have later := ih rest.length (by simp at size; omega) (sound.escaped mark) rest rfl
            simpa using later
          · have unmarked : isMark e = false := by simpa using mark
            exact .inr ⟨_, _, _, _, rfl, sound, .escape inside unmarked rest⟩
      · by_cases nested : inside = true ∧ c = openMark
        · obtain ⟨rfl, rfl⟩ := nested
          exact .inr ⟨_, _, _, _, rfl, sound, .nested rest⟩
        · obtain ⟨inside', next⟩ := sound.next escapes nested
          have later := ih rest.length (by simp at size; omega) next rest rfl
          simpa using later

theorem written_or_violates (cs : List Char) :
    (∃ pieces, Written cs pieces) ∨ ∃ violation, Violates cs violation :=
  (Sound.outside .nil).written_or_violates cs

theorem readText_eq_ok_iff {cs : List Char} {pieces : List Piece} :
    readText 0 cs = .ok pieces ↔ Written cs pieces := by
  constructor
  · intro given
    rcases written_or_violates cs with ⟨found, written⟩ | ⟨violation, violates⟩
    · rw [readText_of_written written] at given
      cases given
      exact written
    · rw [readText_of_violates violates] at given
      cases given
  · intro written
    exact readText_of_written written 0

theorem readText_eq_error_iff {cs : List Char} {violation : Violation} :
    readText 0 cs = .error violation ↔ Violates cs violation := by
  constructor
  · intro failed
    rcases written_or_violates cs with ⟨found, written⟩ | ⟨violation, violates⟩
    · rw [readText_of_written written] at failed
      cases failed
    · rw [readText_of_violates violates] at failed
      cases failed
      exact violates
  · exact readText_of_violates

end RdfMapping.Template
