import Mathlib.Data.List.Forall2
import RdfMapping.Template.Rows

/-!
# Rows of templates

A row of a template has one value for each slot, all from the same index of what
the slots resolve to. Filling a template gives the texts of its rows and nothing
else; an index at which a slot has a null or no value has no row.
-/

namespace RdfMapping.Template

/-- The segments with values in place of the slots. -/
def fillSegments : List Segment → List String → String
  | [], _ => ""
  | .text text :: rest, values => text ++ fillSegments rest values
  | .slot _ :: rest, value :: values => value ++ fillSegments rest values
  | .slot _ :: _, [] => ""

def fill (t : Template) (row : List String) : String := fillSegments t.segments row

/-- Each slot has a value at the index, and these are the values. -/
def HasRow (t : Template) (resolve : Slot → Except Fault SlotValues) (i : Nat)
    (row : List String) : Prop :=
  List.Forall₂ (fun slot value => ∃ column, resolve slot = .ok column ∧
    column[i]? = some (some value)) t.slots row

/-- The values of the columns at an index, unless one of them is null or missing. -/
def valuesAt? (columns : List SlotValues) (i : Nat) : Option (List String) :=
  columns.mapM fun column => column[i]?.join

theorem valuesAt?_nil (i : Nat) : valuesAt? [] i = some [] := rfl

theorem valuesAt?_cons (column : SlotValues) (columns : List SlotValues) (i : Nat) :
    valuesAt? (column :: columns) i =
      column[i]?.join.bind fun value => (valuesAt? columns i).map (value :: ·) := by
  rw [valuesAt?, List.mapM_cons]
  cases column[i]?.join with
  | none => rfl
  | some value =>
    rw [valuesAt?]
    cases columns.mapM fun column => column[i]?.join <;> rfl

theorem valuesAt?_eq_some_iff {columns : List SlotValues} {i : Nat} {row : List String} :
    valuesAt? columns i = some row ↔
      List.Forall₂ (fun column value => column[i]? = some (some value)) columns row := by
  induction columns generalizing row with
  | nil => rw [valuesAt?_nil, List.forall₂_nil_left_iff, Option.some.injEq, eq_comm]
  | cons column columns ih =>
    simp only [valuesAt?_cons, List.forall₂_cons_left_iff, Option.bind_eq_some_iff,
      Option.map_eq_some_iff, Option.join_eq_some_iff, ih]
    constructor
    · rintro ⟨value, here, values, later, rfl⟩
      exact ⟨value, values, here, later, rfl⟩
    · rintro ⟨value, values, here, later, rfl⟩
      exact ⟨value, here, values, later, rfl⟩

/-- Filling goes index by index: what a row of texts holds already comes before the rest. -/
theorem getElem?_fillRows {rows : List (Option String)} {segments : List Segment}
    {columns : List SlotValues}
    (paired : (segments.filterMap Segment.slot?).length = columns.length)
    (even : ∀ column ∈ columns, column.length = rows.length) (i : Nat) :
    (fillRows rows segments columns)[i]? = rows[i]?.map fun row => row.bind fun done =>
      (valuesAt? columns i).map fun values => done ++ fillSegments segments values := by
  induction segments generalizing rows columns with
  | nil =>
    have none : columns = [] := List.eq_nil_of_length_eq_zero paired.symm
    subst none
    rw [fillRows]
    cases rows[i]? with
    | none => rfl
    | some row => cases row <;> simp [valuesAt?_nil, fillSegments]
  | cons segment segments ih =>
    cases segment with
    | text text =>
      have lengths : ∀ column ∈ columns, column.length = (rows.map (·.map (· ++ text))).length := by
        rwa [List.length_map]
      rw [fillRows, ih paired lengths, List.getElem?_map]
      cases rows[i]? with
      | none => rfl
      | some row => cases row <;> simp [fillSegments, String.append_assoc]
    | slot s =>
      cases columns with
      | nil => cases paired
      | cons column columns =>
        have first : column.length = rows.length := even column List.mem_cons_self
        have length : (extendRows rows column).length = rows.length := by
          simp [extendRows, first]
        have paired : (segments.filterMap Segment.slot?).length = columns.length :=
          Nat.succ.inj paired
        have lengths : ∀ c ∈ columns, c.length = (extendRows rows column).length :=
          fun c member => (even c (List.mem_cons_of_mem _ member)).trans length.symm
        rw [fillRows, ih paired lengths, valuesAt?_cons, extendRows, List.getElem?_zipWith]
        by_cases inside : i < rows.length
        · rw [List.getElem?_eq_getElem inside, List.getElem?_eq_getElem (first ▸ inside)]
          cases rows[i] with
          | none => cases column[i] <;> rfl
          | some done =>
            cases column[i] with
            | none => rfl
            | some value =>
              cases valuesAt? columns i <;> simp [fillSegments, String.append_assoc]
        · have outside : rows[i]? = none := List.getElem?_eq_none (by omega)
          rw [outside]
          rfl

/-- The texts of columns of one length: an index counts where every column has a value. -/
theorem fillRows_eq {segments : List Segment} {columns : List SlotValues} {n : Nat}
    (paired : (segments.filterMap Segment.slot?).length = columns.length)
    (even : ∀ column ∈ columns, column.length = n) :
    fillRows (List.replicate n (some "")) segments columns =
      (List.range n).map fun i => (valuesAt? columns i).map (fillSegments segments) := by
  have lengths : ∀ column ∈ columns, column.length = (List.replicate n (some "")).length := by
    rwa [List.length_replicate]
  refine List.ext_getElem? fun i => ?_
  rw [getElem?_fillRows paired lengths, List.getElem?_map, List.getElem?_replicate]
  by_cases inside : i < n
  · rw [if_pos inside, List.getElem?_range inside]
    simp
  · rw [if_neg inside, List.getElem?_eq_none (by simpa using inside)]
    rfl

variable {t : Template} {columns : List SlotValues}

/-- How many rows columns have; without columns there is one row. -/
def height (columns : List SlotValues) : Nat := (columns.map List.length).headD 1

theorem align_of_even (paired : t.slots.length = columns.length)
    (even : ∀ column ∈ columns, column.length = height columns) :
    ∃ result, t.align columns = .ok result ∧
      result.getD [] =
        (List.range (height columns)).filterMap fun i => (valuesAt? columns i).map t.fill := by
  have all : (columns.map List.length).all (· = height columns) := by
    simpa using even
  have texts := fillRows_eq paired even
  rw [align, ← height, if_pos all, texts, List.filterMap_map]
  split
  · rename_i nothing
    exact ⟨none, rfl, nothing.symm⟩
  · exact ⟨_, rfl, rfl⟩

theorem even_of_align {result : Option (List String)} (aligned : t.align columns = .ok result) :
    ∀ column ∈ columns, column.length = height columns := by
  rw [align, ← height] at aligned
  split at aligned
  · rename_i even
    simpa using even
  · cases aligned

/-- An index at which every column has a value is one of the rows, or there are no columns. -/
theorem mem_align (paired : t.slots.length = columns.length) {result : Option (List String)}
    (aligned : t.align columns = .ok result) (text : String) :
    text ∈ result.getD [] ↔ ∃ i row, valuesAt? columns i = some row ∧ t.fill row = text := by
  obtain ⟨_, same, texts⟩ := align_of_even paired (even_of_align aligned)
  cases aligned.symm.trans same
  simp only [texts, List.mem_filterMap, List.mem_range, Option.map_eq_some_iff]
  constructor
  · rintro ⟨i, -, row, values, filled⟩
    exact ⟨i, row, values, filled⟩
  · rintro ⟨i, row, values, filled⟩
    cases columns with
    | nil => exact ⟨0, Nat.one_pos, row, values, filled⟩
    | cons column columns =>
      obtain ⟨value, _, here, -, -⟩ :=
        List.forall₂_cons_left_iff.mp (valuesAt?_eq_some_iff.mp values)
      exact ⟨i, (List.getElem?_eq_some_iff.mp here).1, row, values, filled⟩

variable {resolve : Slot → Except Fault SlotValues}

/-- Slots that all have values resolve to these, and one that has none ends the asking. -/
theorem resolveSlots_ok {slots : List Slot} {found : Option (List SlotValues)}
    (resolved : (resolveSlots resolve slots).columns = .ok found) :
    match found with
    | none => ∃ slot ∈ slots, resolve slot = .ok []
    | some columns =>
      List.Forall₂ (fun slot column => resolve slot = .ok column) slots columns := by
  induction slots generalizing found with
  | nil =>
    cases resolved
    exact .nil
  | cons slot rest ih =>
    rw [resolveSlots] at resolved
    split at resolved
    · cases resolved
    · rename_i empty
      cases resolved
      exact ⟨slot, List.mem_cons_self, empty⟩
    · rename_i column here
      dsimp only at resolved
      cases later : (resolveSlots resolve rest).columns with
      | error f =>
        rw [later] at resolved
        cases resolved
      | ok found =>
        rw [later] at resolved
        cases resolved
        cases found with
        | none =>
          obtain ⟨s, member, empty⟩ := ih later
          exact ⟨s, List.mem_cons_of_mem _ member, empty⟩
        | some columns => exact .cons here (ih later)

theorem resolveSlots_ne_error {slots : List Slot}
    (each : ∀ slot ∈ slots, ∃ column, resolve slot = .ok column) (f : Fault) :
    (resolveSlots resolve slots).columns ≠ .error f := by
  induction slots with
  | nil => nofun
  | cons slot rest ih =>
    obtain ⟨first, later⟩ := List.forall_mem_cons.mp each
    have apart := ih later
    rw [resolveSlots]
    split
    · rename_i failed
      obtain ⟨column, here⟩ := first
      rw [here] at failed
      cases failed
    · nofun
    · intro failed
      dsimp only at failed
      cases found : (resolveSlots resolve rest).columns with
      | error g =>
        rw [found] at failed
        cases failed
        exact apart found
      | ok found =>
        rw [found] at failed
        cases failed

/-- A row has the values that the columns have at its index. -/
theorem forall₂_slots_iff {slots : List Slot} {columns : List SlotValues}
    (resolved : List.Forall₂ (fun slot column => resolve slot = .ok column) slots columns)
    (i : Nat) (row : List String) :
    List.Forall₂ (fun slot value => ∃ column, resolve slot = .ok column ∧
      column[i]? = some (some value)) slots row ↔ valuesAt? columns i = some row := by
  rw [valuesAt?_eq_some_iff]
  induction resolved generalizing row with
  | nil => simp
  | cons here _ ih => simp [List.forall₂_cons_left_iff, here, ih]

/-- The texts of a template are what it is with its rows filled in. -/
theorem mem_rows {result : Option (List String)} (given : t.rows resolve = .ok result)
    (text : String) :
    text ∈ result.getD [] ↔ ∃ i row, t.HasRow resolve i row ∧ t.fill row = text := by
  rw [rows] at given
  split at given
  · cases given
  · rename_i found
    cases given
    obtain ⟨slot, member, empty⟩ := resolveSlots_ok found
    refine iff_of_false List.not_mem_nil ?_
    rintro ⟨i, row, has, -⟩
    obtain ⟨place, inside, rfl⟩ := List.getElem_of_mem member
    obtain ⟨column, resolved, here⟩ := has.get inside (has.length_eq ▸ inside)
    rw [List.get_eq_getElem, empty] at resolved
    cases resolved
    cases here
  · rename_i columns found
    have resolved := resolveSlots_ok found
    rw [mem_align resolved.length_eq given]
    simp only [HasRow, forall₂_slots_iff resolved]

/-- Slots with equally many values are not refused. -/
theorem rows_of_even {n : Nat}
    (even : ∀ slot ∈ t.slots, ∃ column, resolve slot = .ok column ∧ column.length = n) :
    ∃ result, t.rows resolve = .ok result := by
  rw [rows, resolution]
  cases found : (resolveSlots resolve t.slots).columns with
  | error f =>
    refine (resolveSlots_ne_error (fun slot member => ?_) f found).elim
    obtain ⟨column, resolved, -⟩ := even slot member
    exact ⟨column, resolved⟩
  | ok found' =>
    cases found' with
    | none => exact ⟨none, rfl⟩
    | some columns =>
      have resolved := resolveSlots_ok found
      have lengths : ∀ column ∈ columns, column.length = n := by
        intro column member
        obtain ⟨place, inside, rfl⟩ := List.getElem_of_mem member
        have listed : place < t.slots.length := resolved.length_eq ▸ inside
        obtain ⟨_, same, length⟩ := even _ (List.getElem_mem listed)
        cases (resolved.get listed inside).symm.trans same
        exact length
      have even : ∀ column ∈ columns, column.length = height columns := by
        cases columns with
        | nil => simp
        | cons first rest =>
          intro column member
          exact (lengths column member).trans (lengths first List.mem_cons_self).symm
      obtain ⟨result, aligned, -⟩ := align_of_even resolved.length_eq even
      exact ⟨result, aligned⟩

end RdfMapping.Template
