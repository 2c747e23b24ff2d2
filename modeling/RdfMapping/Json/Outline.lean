import RdfMapping.Json.Basic

/-!
# Outlines of JSON texts

What a JSON text says, before it is known which parts of it are wanted. A part
may be well written and still have no value: a number beyond all doubles, a text
with half a surrogate pair, an array or object nested too deep. Such a part is
void. It spoils what needs its value, and nothing else.
-/

namespace RdfMapping.Json

inductive Outline where
  | void
  | null
  | bool (b : Bool)
  | whole (n : Int)
  | double (d : Binary64)
  | text (s : String)
  | array (items : List Outline)
  | object (members : List (String × Outline))
  deriving Inhabited, Repr

namespace Outline

mutual

/-- The value of an outline that is nowhere void. -/
def value? : Outline → Option Json
  | .void => none
  | .null => some .null
  | .bool b => some (.bool b)
  | .whole n => some (.whole n)
  | .double d => some (.double d)
  | .text s => some (.text s)
  | .array items => (itemValues? items).map .array
  | .object members => (memberValues? members).map .object

def itemValues? : List Outline → Option (List Json)
  | [] => some []
  | item :: rest => do
    let item ← item.value?
    let rest ← itemValues? rest
    return item :: rest

def memberValues? : List (String × Outline) → Option (List (String × Json))
  | [] => some []
  | (key, value) :: rest => do
    let value ← value.value?
    let rest ← memberValues? rest
    return (key, value) :: rest

end

/-- Nothing in the outline is void. -/
def isComplete (o : Outline) : Bool := o.value?.isSome

/-- Voids the arrays and objects that are nested deeper than so many levels. -/
def limitDepth : Nat → Outline → Outline
  | 0, .array _ => .void
  | 0, .object _ => .void
  | depth + 1, .array items => .array (items.map (limitDepth depth))
  | depth + 1, .object members => .object (members.map fun m => (m.1, limitDepth depth m.2))
  | _, scalar => scalar

end Outline

mutual

/-- A value as the outline of its text. -/
def outline : Json → Outline
  | .null => .null
  | .bool b => .bool b
  | .whole n => .whole n
  | .double d => .double d
  | .text s => .text s
  | .array items => .array (outlineItems items)
  | .object members => .object (outlineMembers members)

def outlineItems : List Json → List Outline
  | [] => []
  | item :: rest => item.outline :: outlineItems rest

def outlineMembers : List (String × Json) → List (String × Outline)
  | [] => []
  | (key, value) :: rest => (key, value.outline) :: outlineMembers rest

end

mutual

/-- The outline of a value is nowhere void, and the value can be taken from it again. -/
@[simp] theorem value?_outline (v : Json) : v.outline.value? = some v := by
  cases v with
  | array items => simp [outline, Outline.value?, itemValues?_outlineItems items]
  | object members => simp [outline, Outline.value?, memberValues?_outlineMembers members]
  | _ => simp [outline, Outline.value?]

theorem itemValues?_outlineItems (items : List Json) :
    Outline.itemValues? (outlineItems items) = some items := by
  cases items with
  | nil => rfl
  | cons item rest =>
    simp [outlineItems, Outline.itemValues?, value?_outline item, itemValues?_outlineItems rest]

theorem memberValues?_outlineMembers (members : List (String × Json)) :
    Outline.memberValues? (outlineMembers members) = some members := by
  cases members with
  | nil => rfl
  | cons m rest =>
    simp [outlineMembers, Outline.memberValues?, value?_outline m.2,
      memberValues?_outlineMembers rest]

end

end RdfMapping.Json
