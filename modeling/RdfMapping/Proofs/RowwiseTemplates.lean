import RdfMapping.Proofs.NormalTemplates
import RdfMapping.Proofs.TemplateRows

/-!
# Templates row by row

Evaluating a template asks for its slots in turn, up to the first that fails or has no
values. When all of them have values the result is given index by index, without the
columns that rows are built from: an index counts where every slot has a value that is
not null, and its row is the text of all segments, each slot replaced by its own value.
Nothing is assumed of what slots are answered with.
-/

namespace RdfMapping

variable {resolve : Slot → Except Fault SlotValues}

namespace Segment

def text? : Segment → Option String
  | .text s => some s
  | .slot _ => none

/-- The text at an index; a slot has none where it has a null or no value. -/
def textAt? (resolve : Slot → Except Fault SlotValues) (i : Nat) : Segment → Option String
  | .text s => some s
  | .slot t => match resolve t with
    | .ok values => values[i]?.join
    | .error _ => none

end Segment

namespace Template

/-- The texts of all segments at an index, one behind the other. -/
def rowAt? (t : Template) (resolve : Slot → Except Fault SlotValues) (i : Nat) : Option String :=
  (t.segments.mapM (Segment.textAt? resolve i)).map String.join

/-- The slot is answered with these values, and there are some. -/
def Answers (resolve : Slot → Except Fault SlotValues) (slot : Slot) (values : SlotValues) : Prop :=
  resolve slot = .ok values ∧ values ≠ []

/-- The slots that are asked for, in order, and what comes of it. -/
inductive Evaluates (t : Template) (resolve : Slot → Except Fault SlotValues) :
    List Slot → Except Fault (Option (List String)) → Prop where
  | failed {before after : List Slot} {slot : Slot} {columns : List SlotValues} {f : Fault}
      (split : t.slots = before ++ slot :: after)
      (answered : List.Forall₂ (Answers resolve) before columns)
      (fails : resolve slot = .error f) :
      Evaluates t resolve (before ++ [slot]) (.error f)
  | missing {before after : List Slot} {slot : Slot} {columns : List SlotValues}
      (split : t.slots = before ++ slot :: after)
      (answered : List.Forall₂ (Answers resolve) before columns)
      (empty : resolve slot = .ok []) :
      Evaluates t resolve (before ++ [slot]) (.ok none)
  | constant (slotless : t.slots = []) :
      Evaluates t resolve [] (.ok (some [String.join (t.segments.filterMap Segment.text?)]))
  | uneven {columns : List SlotValues} (answered : List.Forall₂ (Answers resolve) t.slots columns)
      {a b : SlotValues} (left : a ∈ columns) (right : b ∈ columns)
      (differ : a.length ≠ b.length) :
      Evaluates t resolve t.slots (.error (.unevenSlots t.render (columns.map List.length)))
  | aligned {columns : List SlotValues} (answered : List.Forall₂ (Answers resolve) t.slots columns)
      {n : Nat} (slotted : t.slots ≠ []) (even : ∀ column ∈ columns, column.length = n)
      {i : Nat} (inside : i < n) (complete : t.rowAt? resolve i ≠ none) :
      Evaluates t resolve t.slots (.ok (some ((List.range n).filterMap (t.rowAt? resolve))))
  | noRow {columns : List SlotValues} (answered : List.Forall₂ (Answers resolve) t.slots columns)
      {n : Nat} (slotted : t.slots ≠ []) (even : ∀ column ∈ columns, column.length = n)
      (incomplete : ∀ i, i < n → t.rowAt? resolve i = none) :
      Evaluates t resolve t.slots (.ok none)

/-- Slots that have values are asked for, and then the others. -/
theorem resolveSlots_append {before : List Slot} {columns : List SlotValues}
    (answered : List.Forall₂ (Answers resolve) before columns) (rest : List Slot) :
    resolveSlots resolve (before ++ rest) =
      ⟨before ++ (resolveSlots resolve rest).asked,
        (resolveSlots resolve rest).columns.map (·.map (columns ++ ·))⟩ := by
  induction answered with
  | nil =>
    cases found : resolveSlots resolve rest with
    | mk asked columns =>
      rcases columns with f | _ | columns <;> simp [found, Except.map]
  | @cons slot column slots columns here _ ih =>
    obtain ⟨resolved, some⟩ := here
    rw [List.cons_append, resolveSlots, resolved]
    cases column with
    | nil => exact absurd rfl some
    | cons value column =>
      dsimp only
      rw [ih]
      rcases (resolveSlots resolve rest).columns with f | _ | columns <;> simp [Except.map]

theorem resolution_of_answered {t : Template} {columns : List SlotValues}
    (answered : List.Forall₂ (Answers resolve) t.slots columns) :
    t.resolution resolve = ⟨t.slots, .ok (some columns)⟩ := by
  have whole := resolveSlots_append answered []
  simpa [resolution, resolveSlots, Except.map] using whole

/-- All slots have values, or there is a first one that fails or has none. -/
theorem answered_or_stops (resolve : Slot → Except Fault SlotValues) (slots : List Slot) :
    (∃ columns, List.Forall₂ (Answers resolve) slots columns) ∨
    ∃ before slot after columns, slots = before ++ slot :: after ∧
      List.Forall₂ (Answers resolve) before columns ∧
      ((∃ f, resolve slot = .error f) ∨ resolve slot = .ok []) := by
  induction slots with
  | nil => exact .inl ⟨[], .nil⟩
  | cons first slots ih =>
    cases found : resolve first with
    | error f => exact .inr ⟨[], first, slots, [], rfl, .nil, .inl ⟨f, found⟩⟩
    | ok values =>
      by_cases empty : values = []
      · exact .inr ⟨[], first, slots, [], rfl, .nil, .inr (empty ▸ found)⟩
      · have here : Answers resolve first values := ⟨found, empty⟩
        rcases ih with ⟨columns, answered⟩ | ⟨before, slot, after, columns, rfl, answered, stops⟩
        · exact .inl ⟨values :: columns, .cons here answered⟩
        · exact .inr ⟨first :: before, slot, after, values :: columns, rfl,
            .cons here answered, stops⟩

theorem map_join_mapM_cons {α : Type} (f : α → Option String) (a : α) (as : List α) :
    ((a :: as).mapM f).map String.join =
      (f a).bind fun text => ((as.mapM f).map String.join).map (text ++ ·) := by
  rw [List.mapM_cons]
  cases f a with
  | none => rfl
  | some text => cases as.mapM f <;> simp [String.join_cons]

/-- The values that columns have at an index fill the template as the slots do themselves. -/
theorem map_fillSegments_valuesAt? {segments : List Segment} {columns : List SlotValues}
    (answered : List.Forall₂ (Answers resolve) (segments.filterMap Segment.slot?) columns)
    (i : Nat) :
    (valuesAt? columns i).map (fillSegments segments) =
      (segments.mapM (Segment.textAt? resolve i)).map String.join := by
  induction segments generalizing columns with
  | nil =>
    cases answered
    rfl
  | cons segment segments ih =>
    rw [map_join_mapM_cons]
    cases segment with
    | text text =>
      have value : Segment.textAt? resolve i (.text text) = some text := rfl
      rw [← ih answered, value, Option.bind_some, Option.map_map]
      rfl
    | slot s =>
      obtain ⟨column, columns, here, later, rfl⟩ := List.forall₂_cons_left_iff.mp answered
      have value : Segment.textAt? resolve i (.slot s) = column[i]?.join := by
        rw [Segment.textAt?, here.1]
      rw [← ih later, valuesAt?_cons, value]
      cases column[i]?.join with
      | none => rfl
      | some value =>
        rw [Option.bind_some, Option.bind_some, Option.map_map, Option.map_map]
        rfl

theorem join_texts_of_slotless {segments : List Segment}
    (slotless : segments.filterMap Segment.slot? = []) :
    fillSegments segments [] = String.join (segments.filterMap Segment.text?) := by
  induction segments with
  | nil => rfl
  | cons segment segments ih =>
    cases segment with
    | text text =>
      have later := ih slotless
      rw [fillSegments, later]
      exact String.join_cons.symm
    | slot s => cases slotless

theorem align_ne_some_nil (t : Template) (columns : List SlotValues) :
    t.align columns ≠ .ok (some []) := by
  unfold align
  dsimp only
  split
  · split
    · nofun
    · rename_i filled
      intro same
      exact filled (Option.some.inj (Except.ok.inj same))
  · nofun

/-- Columns of one length give the rows of their indices, or nothing where no row is complete. -/
theorem align_eq_of_even {t : Template} {columns : List SlotValues}
    (answered : List.Forall₂ (Answers resolve) t.slots columns)
    (even : ∀ column ∈ columns, column.length = height columns) :
    t.align columns = .ok (match (List.range (height columns)).filterMap (t.rowAt? resolve) with
      | [] => none
      | rows => some rows) := by
  obtain ⟨result, aligned, texts⟩ := align_of_even answered.length_eq even
  have rows : ∀ i, (valuesAt? columns i).map t.fill = t.rowAt? resolve i :=
    map_fillSegments_valuesAt? answered
  simp only [rows] at texts
  rw [aligned, ← texts]
  cases result with
  | none => rfl
  | some given =>
    cases given with
    | nil => exact absurd aligned (align_ne_some_nil t columns)
    | cons first given => rfl

theorem height_eq {columns : List SlotValues} {n : Nat} (some : columns ≠ [])
    (even : ∀ column ∈ columns, column.length = n) : height columns = n := by
  cases columns with
  | nil => exact absurd rfl some
  | cons first rest => exact even first List.mem_cons_self

theorem align_of_uneven {t : Template} {columns : List SlotValues} {a b : SlotValues}
    (left : a ∈ columns) (right : b ∈ columns) (differ : a.length ≠ b.length) :
    t.align columns = .error (.unevenSlots t.render (columns.map List.length)) := by
  have uneven : ¬ (columns.map List.length).all (· = height columns) := by
    intro all
    have even : ∀ column ∈ columns, column.length = height columns := by simpa using all
    exact differ ((even a left).trans (even b right).symm)
  rw [align, ← height, if_neg uneven]

variable {t : Template}

theorem rows_of_answered {columns : List SlotValues}
    (answered : List.Forall₂ (Answers resolve) t.slots columns) :
    t.rows resolve = t.align columns := by
  rw [rows, resolution_of_answered answered]

theorem rows_of_columns {columns : List SlotValues} {n : Nat}
    (answered : List.Forall₂ (Answers resolve) t.slots columns) (slotted : t.slots ≠ [])
    (even : ∀ column ∈ columns, column.length = n) :
    t.rows resolve = .ok (match (List.range n).filterMap (t.rowAt? resolve) with
      | [] => none
      | rows => some rows) := by
  have some : columns ≠ [] := by
    rintro rfl
    exact slotted (List.forall₂_nil_right_iff.mp answered)
  have size : height columns = n := height_eq some even
  rw [rows_of_answered answered, ← size]
  exact align_eq_of_even answered (size ▸ even)

/-- In every case no other slots are asked for, and nothing else comes of it. -/
theorem Evaluates.eq {asked : List Slot} {result : Except Fault (Option (List String))}
    (evaluates : t.Evaluates resolve asked result) :
    (t.resolution resolve).asked = asked ∧ t.rows resolve = result := by
  cases evaluates with
  | failed split answered fails =>
    rw [rows, resolution, split, resolveSlots_append answered, resolveSlots, fails]
    exact ⟨rfl, rfl⟩
  | missing split answered empty =>
    rw [rows, resolution, split, resolveSlots_append answered, resolveSlots, empty]
    exact ⟨rfl, rfl⟩
  | constant slotless =>
    have answered : List.Forall₂ (Answers resolve) t.slots [] := by
      rw [slotless]
      exact .nil
    have text : t.rowAt? resolve 0 = some (String.join (t.segments.filterMap Segment.text?)) := by
      rw [rowAt?, ← map_fillSegments_valuesAt? answered 0, valuesAt?_nil, Option.map_some,
        join_texts_of_slotless slotless]
    have aligned := align_eq_of_even answered fun column member => by cases member
    refine ⟨by rw [resolution_of_answered answered, slotless], ?_⟩
    rw [rows_of_answered answered, aligned]
    simp [height, text]
  | uneven answered left right differ =>
    refine ⟨by rw [resolution_of_answered answered], ?_⟩
    rw [rows_of_answered answered, align_of_uneven left right differ]
  | @aligned columns answered n slotted even i inside complete =>
    refine ⟨by rw [resolution_of_answered answered], ?_⟩
    rw [rows_of_columns answered slotted even]
    obtain ⟨text, row⟩ := Option.ne_none_iff_exists'.mp complete
    have listed : text ∈ (List.range n).filterMap (t.rowAt? resolve) :=
      List.mem_filterMap.mpr ⟨i, List.mem_range.mpr inside, row⟩
    split
    · rename_i nothing
      rw [nothing] at listed
      cases listed
    · rfl
  | @noRow columns answered n slotted even incomplete =>
    refine ⟨by rw [resolution_of_answered answered], ?_⟩
    have nothing : (List.range n).filterMap (t.rowAt? resolve) = [] :=
      List.filterMap_eq_nil_iff.mpr fun i member => incomplete i (List.mem_range.mp member)
    rw [rows_of_columns answered slotted even, nothing]

theorem exists_evaluates (t : Template) (resolve : Slot → Except Fault SlotValues) :
    ∃ asked result, t.Evaluates resolve asked result := by
  rcases answered_or_stops resolve t.slots with
    ⟨columns, answered⟩ | ⟨before, slot, after, columns, split, answered, ⟨f, fails⟩ | empty⟩
  · by_cases slotless : t.slots = []
    · exact ⟨_, _, .constant slotless⟩
    · by_cases even : ∀ column ∈ columns, column.length = height columns
      · by_cases complete : ∃ i, i < height columns ∧ t.rowAt? resolve i ≠ none
        · obtain ⟨i, inside, complete⟩ := complete
          exact ⟨_, _, .aligned answered slotless even inside complete⟩
        · push Not at complete
          exact ⟨_, _, .noRow answered slotless even complete⟩
      · push Not at even
        obtain ⟨column, member, differ⟩ := even
        cases columns with
        | nil => cases member
        | cons first rest => exact ⟨_, _, .uneven answered member List.mem_cons_self differ⟩
  · exact ⟨_, _, .failed split answered fails⟩
  · exact ⟨_, _, .missing split answered empty⟩

/--
The slots of a template that was read are numbered, so each may be answered in a way of its
own. Evaluating the template asks for them and gives what `Evaluates` describes: one case
always applies, and it settles which slots are asked for and what comes of it.
-/
theorem rows_row_by_row {s : String} (readable : read s = .ok t)
    (resolve : Slot → Except Fault SlotValues) :
    t.slots.map Slot.id = List.range t.slots.length ∧
    ∀ asked result, t.Evaluates resolve asked result ↔
      (t.resolution resolve).asked = asked ∧ t.rows resolve = result := by
  have normal := isNormal_of_read readable
  refine ⟨normal.numbered.trans List.range_eq_range'.symm, fun asked result => ?_⟩
  constructor
  · exact Evaluates.eq
  · rintro ⟨rfl, rfl⟩
    obtain ⟨asked, result, evaluates⟩ := exists_evaluates t resolve
    obtain ⟨sameSlots, sameResult⟩ := evaluates.eq
    rw [sameSlots, sameResult]
    exact evaluates

/-- Two slots with one expression, each of them with values of its own. -/
def twins : Template := ⟨[.slot ⟨0, "a"⟩, .text "-", .slot ⟨1, "a"⟩]⟩

def twinValues (slot : Slot) : Except Fault SlotValues :=
  .ok (if slot.id = 0 then [some "x", none, some "z"] else [some "1", some "2", some "3"])

theorem twins_row_by_row :
    read twins.render = .ok twins ∧ twins.slots.map Slot.id = [0, 1] ∧
      (twins.resolution twinValues).asked = twins.slots ∧
      twins.rows twinValues = .ok (some ["x-1", "z-3"]) := by
  have normal : twins.IsNormal := by
    simp [IsNormal, twins, Segment.NormalFrom.text_cons_iff, Segment.NormalFrom.slot_cons_iff,
      Segment.NormalFrom.nil, Segment.isText, Segment.slot?]
  have readable : read twins.render = .ok twins := read_render_of_isNormal normal
  obtain ⟨numbered, evaluates⟩ := rows_row_by_row readable twinValues
  have answered : List.Forall₂ (Answers twinValues) twins.slots
      [[some "x", none, some "z"], [some "1", some "2", some "3"]] :=
    .cons ⟨rfl, by simp⟩ (.cons ⟨rfl, by simp⟩ .nil)
  have even : ∀ column ∈ [[some "x", none, some "z"], [some "1", some "2", some "3"]],
      column.length = 3 := by decide
  have given := Evaluates.aligned answered (by decide) even (i := 0) (by decide) (by decide)
  exact ⟨readable, numbered, (evaluates _ _).mp given⟩

end Template

end RdfMapping
