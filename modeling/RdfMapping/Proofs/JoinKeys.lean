import Mathlib.Data.List.Forall2
import RdfMapping.Join.Key
import RdfMapping.Rules.TriplesMap

/-!
# Keys and conditions

A key of a record chooses a value for each expression. So a child and a parent
have a key in common just when they have a value in common for each condition.
-/

namespace RdfMapping

/-- What was found; nothing where looking failed. -/
def foundIn {α : Type} : Except Fault (List α) → List α
  | .ok found => found
  | .error _ => []

@[simp] theorem foundIn_ok {α : Type} (found : List α) : foundIn (.ok found) = found := rfl

@[simp] theorem foundIn_error {α : Type} (f : Fault) :
    foundIn (.error f : Except Fault (List α)) = [] := rfl

namespace Record

/-- The lexical values of an expression. -/
def valuesOf (r : Record) (expression : String) : List String := foundIn (r.present expression)

def Chooses (r : Record) (key : JoinKey) (expressions : List String) : Prop :=
  List.Forall₂ (fun value expression => value ∈ r.valuesOf expression) key expressions

theorem mem_extendKeys {keys : List JoinKey} {values : List String} {key : JoinKey} :
    key ∈ extendKeys keys values ↔ ∃ k ∈ keys, ∃ value ∈ values, key = k ++ [value] := by
  simp only [extendKeys, List.mem_flatMap, List.mem_map, eq_comm]

theorem mem_keysFrom (r : Record) (keys : List JoinKey) (expressions : List String)
    (key : JoinKey) : key ∈ foundIn (r.keysFrom keys expressions) ↔
      ∃ k ∈ keys, ∃ rest, key = k ++ rest ∧ r.Chooses rest expressions := by
  induction expressions generalizing keys with
  | nil => simp [keysFrom, Chooses]
  | cons e expressions ih =>
    have none : r.valuesOf e = [] → ∀ rest, ¬ r.Chooses rest (e :: expressions) := by
      intro nothing rest chooses
      cases chooses with
      | cons value _ => exact List.not_mem_nil (nothing ▸ value)
    rw [keysFrom]
    split
    · rename_i f failed
      have nothing := none (by rw [valuesOf, failed]; rfl)
      simp [nothing]
    · rename_i empty
      have nothing := none (by rw [valuesOf, empty]; rfl)
      simp [nothing]
    · rename_i values _ present
      have held : r.valuesOf e = values := by rw [valuesOf, present]; rfl
      rw [ih]
      constructor
      · rintro ⟨k, extended, rest, rfl, chooses⟩
        obtain ⟨start, member, value, inside, rfl⟩ := mem_extendKeys.mp extended
        refine ⟨start, member, value :: rest, by simp, ?_⟩
        exact .cons (held ▸ inside) chooses
      · rintro ⟨start, member, rest, rfl, chooses⟩
        cases chooses with
        | @cons value _ rest _ inside chooses =>
          refine ⟨start ++ [value], ?_, rest, by simp, chooses⟩
          exact mem_extendKeys.mpr ⟨start, member, value, held ▸ inside, rfl⟩

/-- The keys of a record are the choices of a value for each expression. -/
theorem mem_joinKeys (r : Record) (expressions : List String) (key : JoinKey) :
    key ∈ foundIn (r.joinKeys expressions) ↔ r.Chooses key expressions := by
  rw [joinKeys, mem_keysFrom]
  simp

end Record

/-- For each condition the records have a value in common. -/
def agree (conditions : List JoinCondition) (child parent : Record) : Bool :=
  conditions.all fun c => (child.valuesOf c.child).any fun value =>
    (parent.valuesOf c.parent).contains value

theorem agree_iff {conditions : List JoinCondition} {child parent : Record} :
    agree conditions child parent ↔ ∀ c ∈ conditions, ∃ value,
      value ∈ child.valuesOf c.child ∧ value ∈ parent.valuesOf c.parent := by
  simp [agree]

/-- Records agree when they have a key in common. -/
theorem shares_key_iff (reference : ReferencingMap) (child parent : Record) :
    (∃ key, key ∈ foundIn (child.joinKeys reference.childExpressions) ∧
      key ∈ foundIn (parent.joinKeys reference.parentExpressions)) ↔
    agree reference.conditions child parent := by
  simp only [Record.mem_joinKeys, Record.Chooses, ReferencingMap.childExpressions,
    ReferencingMap.parentExpressions, List.forall₂_map_right_iff, agree_iff]
  induction reference.conditions with
  | nil =>
    refine iff_of_true ⟨[], .nil, .nil⟩ fun c member => (List.not_mem_nil member).elim
  | cons c conditions ih =>
    rw [List.forall_mem_cons, ← ih]
    constructor
    · rintro ⟨key, fromChild, fromParent⟩
      cases fromChild with
      | @cons value _ rest _ inChild restChild =>
        cases fromParent with
        | cons inParent restParent => exact ⟨⟨value, inChild, inParent⟩, rest, restChild, restParent⟩
    · rintro ⟨⟨value, inChild, inParent⟩, rest, restChild, restParent⟩
      exact ⟨value :: rest, .cons inChild restChild, .cons inParent restParent⟩

end RdfMapping
