import RdfMapping.Json.Outline
import RdfMapping.Number.Word

/-!
# Shapes of JSON documents

Readers for the parts of a document with a fixed shape. A record of named fields
may be written as an object, where known members stand at most once and unknown
ones do not matter, void or not, or as an array of its fields in their order.
-/

namespace RdfMapping.Json.Outline

universe u

variable {α : Type u}

def text? : Outline → Option String
  | .text s => some s
  | _ => none

def bool? : Outline → Option Bool
  | .bool b => some b
  | _ => none

/-- A whole number from zero to the largest machine word. -/
def machineWord? : Outline → Option Nat
  | .whole (.ofNat n) => if n < wordEnd then some n else none
  | _ => none

/-- Null, or a value of the given shape. -/
def orNull? (shape : Outline → Option α) : Outline → Option (Option α)
  | .null => some none
  | value => (shape value).map some

def listOf? (shape : Outline → Option α) : Outline → Option (List α)
  | .array items => items.mapM shape
  | _ => none

/-- The member with this name, if any; `none` if it stands more than once. -/
def uniqueMember? (members : List (String × Outline)) (name : String) : Option (Option Outline) :=
  match members.filter (·.1 = name) with
  | [] => some none
  | [m] => some (some m.2)
  | _ => none

/-- The named fields of an object, each present or not. -/
def objectFields? (names : List String) : Outline → Option (List (Option Outline))
  | .object members => names.mapM (uniqueMember? members)
  | _ => none

/-- The named fields of an object or array, each present or not. -/
def fields? (names : List String) : Outline → Option (List (Option Outline))
  | .array items =>
    if items.length ≤ names.length then
      some (items.map some ++ List.replicate (names.length - items.length) none)
    else none
  | value => objectFields? names value

def required? (shape : Outline → Option α) : Option Outline → Option α
  | some value => shape value
  | none => none

def withDefault? (default : α) (shape : Outline → Option α) : Option Outline → Option α
  | some value => shape value
  | none => some default

/-- A field that may be missing or null. -/
def optional? (shape : Outline → Option α) : Option Outline → Option (Option α) :=
  withDefault? none (orNull? shape)

/-- A choice by name: the name alone, or an object with the name as its only member. -/
def choice? : Outline → Option (String × Option Outline)
  | .text name => some (name, none)
  | .object [(name, payload)] => some (name, some payload)
  | _ => none

end RdfMapping.Json.Outline
