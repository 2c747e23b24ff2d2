import RdfMapping.Json.DotPath

/-!
# Scalars

A list counts as the scalars in it from left to right, to any depth, and so does an array
of JSON. Lexical forms and datatypes are read off the scalars one by one, and a JSON record
hands out raw values with just the scalars that its path selects.
-/

namespace RdfMapping

namespace RawValue

mutual

/-- The value itself, or the scalars of a list. Nulls count. -/
def scalars : RawValue → List RawValue
  | .list items => scalarsOf items
  | value => [value]

def scalarsOf : List RawValue → List RawValue
  | [] => []
  | item :: rest => item.scalars ++ scalarsOf rest

end

mutual

theorem leaves_eq (value : RawValue) : value.leaves = value.scalars.map lexical? := by
  cases value with
  | list items =>
    rw [leaves, scalars]
    exact leavesOf_eq items
  | _ => rfl

theorem leavesOf_eq (values : List RawValue) :
    leavesOf values = (scalarsOf values).map lexical? := by
  cases values with
  | nil => rfl
  | cons item rest =>
    rw [leavesOf, scalarsOf, List.map_append, leaves_eq item, leavesOf_eq rest]

end

mutual

theorem firstDatatype?_eq (value : RawValue) :
    value.firstDatatype? = value.scalars.findSome? scalarDatatype? := by
  cases value with
  | list items =>
    rw [firstDatatype?, scalars]
    exact firstDatatypeOf?_eq items
  | _ => rfl

theorem firstDatatypeOf?_eq (values : List RawValue) :
    firstDatatypeOf? values = (scalarsOf values).findSome? scalarDatatype? := by
  cases values with
  | nil => rfl
  | cons item rest =>
    rw [firstDatatypeOf?, scalarsOf, List.findSome?_append, ← firstDatatype?_eq item,
      ← firstDatatypeOf?_eq rest]
    cases item.firstDatatype? <;> rfl

end

theorem present_eq (values : List RawValue) :
    present values = (scalarsOf values).filterMap lexical? := by
  have found : (scalarsOf values).filterMap lexical? = (leavesOf values).filterMap id := by
    rw [leavesOf_eq, List.filterMap_map, Function.id_comp]
  rw [found, present, lexicalValues]
  split
  · rename_i none
    rw [eq_comm, List.filterMap_nil, List.filterMap_eq_nil_iff]
    exact fun leaf member => Option.isNone_iff_eq_none.mp (List.all_eq_true.mp none leaf member)
  · rfl

/-- Where every scalar has a lexical form none is lost. -/
theorem lexicalValues_of_leaves {values : List RawValue} {texts : List String}
    (leaves : leavesOf values = texts.map some) : lexicalValues values = texts.map some := by
  rw [lexicalValues, leaves]
  cases texts <;> simp

end RawValue

namespace Json

mutual

/-- The value itself, or the scalars of an array. Objects count as scalars. -/
def scalars : Json → List Json
  | .array items => scalarsOf items
  | value => [value]

def scalarsOf : List Json → List Json
  | [] => []
  | item :: rest => item.scalars ++ scalarsOf rest

end

mutual

theorem datatype?_eq (value : Json) : value.datatype? = value.scalars.findSome? datatype? := by
  cases value with
  | array items =>
    rw [datatype?, scalars]
    exact datatypeOf?_eq items
  | _ => rfl

theorem datatypeOf?_eq (values : List Json) :
    datatypeOf? values = (scalarsOf values).findSome? datatype? := by
  cases values with
  | nil => rfl
  | cons item rest =>
    rw [datatypeOf?, scalarsOf, List.findSome?_append, ← datatype?_eq item, ← datatypeOf?_eq rest]
    cases item.datatype? <;> rfl

end

mutual

theorem scalars_toRaw (value : Json) : value.toRaw.scalars = value.scalars.map toRaw := by
  cases value with
  | array items =>
    rw [toRaw, RawValue.scalars, scalars]
    exact scalarsOf_toRawItems items
  | whole n =>
    simp only [toRaw, scalars, List.map_cons, List.map_nil]
    split <;> rfl
  | _ => rfl

theorem scalarsOf_toRawItems (items : List Json) :
    RawValue.scalarsOf (toRawItems items) = (scalarsOf items).map toRaw := by
  cases items with
  | nil => rfl
  | cons item rest =>
    rw [toRawItems, RawValue.scalarsOf, scalarsOf, List.map_append, scalars_toRaw item,
      scalarsOf_toRawItems rest]

end

theorem toRawItems_eq_map (items : List Json) : toRawItems items = items.map toRaw := by
  induction items with
  | nil => rfl
  | cons item rest ih => rw [toRawItems, ih, List.map_cons]

/-- The values of a path have the scalars that the path selects. -/
theorem scalarsOf_map_toRaw (found : List Json) :
    RawValue.scalarsOf (found.map toRaw) = (scalarsOf found).map toRaw := by
  rw [← toRawItems_eq_map, scalarsOf_toRawItems]

mutual

theorem ne_array_of_mem_scalars {value s : Json} (member : s ∈ value.scalars)
    (items : List Json) : s ≠ .array items := by
  cases value with
  | array inside =>
    rw [scalars] at member
    exact ne_array_of_mem_scalarsOf member items
  | _ =>
    rw [List.mem_singleton.mp member]
    exact Json.noConfusion

theorem ne_array_of_mem_scalarsOf {values : List Json} {s : Json} (member : s ∈ scalarsOf values)
    (items : List Json) : s ≠ .array items := by
  cases values with
  | nil => exact (List.not_mem_nil member).elim
  | cons item rest =>
    rw [scalarsOf] at member
    rcases List.mem_append.mp member with here | later
    · exact ne_array_of_mem_scalars here items
    · exact ne_array_of_mem_scalarsOf later items

end

/-- The datatype of a scalar is that of its raw value, but for large whole numbers. -/
theorem datatype?_eq_scalarDatatype? {s : Json} (scalar : ∀ items, s ≠ .array items)
    (small : ∀ n, s = .whole n → isSignedWord n) : s.datatype? = s.toRaw.scalarDatatype? := by
  cases s with
  | array items => exact (scalar items rfl).elim
  | whole n =>
    rw [toRaw, if_pos (small n rfl)]
    rfl
  | _ => rfl

/-- The first of the scalars that has a datatype is no large whole number. -/
def StartsSmall (scalars : List Json) : Prop :=
  ∀ n, scalars.find? (fun s => s.datatype?.isSome) = some (.whole n) → isSignedWord n

theorem findSome?_datatype?_eq {scalars : List Json}
    (flat : ∀ s ∈ scalars, ∀ items, s ≠ .array items) (starts : StartsSmall scalars) :
    scalars.findSome? datatype? = (scalars.map toRaw).findSome? RawValue.scalarDatatype? := by
  induction scalars with
  | nil => rfl
  | cons s rest ih =>
    obtain ⟨first, others⟩ := List.forall_mem_cons.mp flat
    -- A whole number has a datatype, so the first scalar is small if it is one.
    have small : ∀ n, s = .whole n → isSignedWord n := by
      rintro n rfl
      exact starts n rfl
    have same := datatype?_eq_scalarDatatype? first small
    rw [List.map_cons, List.findSome?_cons, List.findSome?_cons, ← same]
    cases found : s.datatype? with
    | some type => rfl
    | none =>
      refine ih others fun n start => starts n ?_
      rw [List.find?_cons, found]
      exact start

end Json

end RdfMapping
