import RdfMapping.Fault

/-!
# Filling templates

Every slot is given a list of values, all of one length; the rows of the result
are aligned by index. A null leaves its row out without moving the others.
-/

namespace RdfMapping

/-- The values of a slot; `none` is a null inside a list of values. -/
abbrev SlotValues := List (Option String)

namespace Template

/-- The slots that were asked for, in order, and what came of it: a column of values for each. -/
structure Resolution where
  asked : List Slot
  columns : Except Fault (Option (List SlotValues))

/-- Asks for each slot in turn, until one fails or has no values. -/
def resolveSlots (resolve : Slot → Except Fault SlotValues) : List Slot → Resolution
  | [] => ⟨[], .ok (some [])⟩
  | slot :: rest => match resolve slot with
    | .error f => ⟨[slot], .error f⟩
    | .ok [] => ⟨[slot], .ok none⟩
    | .ok values =>
      let tail := resolveSlots resolve rest
      ⟨slot :: tail.asked, tail.columns.map fun columns => columns.map (values :: ·)⟩

/-- Extends rows by a column; a row ends where its value is null. -/
def extendRows (rows column : List (Option String)) : List (Option String) :=
  List.zipWith (fun row value => match row, value with
    | some r, some v => some (r ++ v)
    | _, _ => none) rows column

/-- Fills the segments from left to right, taking a column for each slot. -/
def fillRows (rows : List (Option String)) : List Segment → List SlotValues → List (Option String)
  | [], _ => rows
  | .text t :: rest, columns => fillRows (rows.map (·.map (· ++ t))) rest columns
  | .slot _ :: rest, column :: columns => fillRows (extendRows rows column) rest columns
  | .slot _ :: _, [] => rows

/-- The rows of a template whose slots have these columns; none if no row is complete. -/
def align (t : Template) (columns : List SlotValues) : Except Fault (Option (List String)) :=
  let counts := columns.map List.length
  let size := counts.headD 1
  if counts.all (· = size) then
    match (fillRows (List.replicate size (some "")) t.segments columns).filterMap id with
    | [] => .ok none
    | rows => .ok (some rows)
  else .error (.unevenSlots t.render counts)

def resolution (t : Template) (resolve : Slot → Except Fault SlotValues) : Resolution :=
  resolveSlots resolve t.slots

/-- The rows of a template; none if a slot has no values or no row is complete. -/
def rows (t : Template) (resolve : Slot → Except Fault SlotValues) :
    Except Fault (Option (List String)) :=
  match (t.resolution resolve).columns with
  | .error f => .error f
  | .ok none => .ok none
  | .ok (some columns) => t.align columns

end Template

end RdfMapping
