/-!
# Finite sets kept in ascending order

A set is the strictly ascending list of its elements, so two sets with the same
elements are equal and reading a set off needs no sorting.
-/

namespace RdfMapping

universe u

variable {α : Type u} [Ord α]

/-- Strictly ascending: every element is below all that follow it. -/
def Ascending (xs : List α) : Prop :=
  xs.Pairwise fun a b => compare a b = .lt

/-- Places `x` in an ascending list; an element already there stays as it is. -/
def insertAscending (x : α) : List α → List α
  | [] => [x]
  | y :: ys => match compare x y with
    | .lt => x :: y :: ys
    | .eq => y :: ys
    | .gt => y :: insertAscending x ys

theorem mem_insertAscending_of [Std.LawfulEqOrd α] {x a : α} {xs : List α} :
    a ∈ insertAscending x xs ↔ a = x ∨ a ∈ xs := by
  induction xs with
  | nil => simp [insertAscending]
  | cons y ys ih =>
    simp only [insertAscending]
    split
    · simp
    · rename_i h
      have hxy : x = y := Std.LawfulEqCmp.eq_of_compare h
      subst hxy
      simp
    · simp only [List.mem_cons, ih]
      constructor
      · rintro (h | h | h) <;> simp [h]
      · rintro (h | h | h) <;> simp [h]

theorem ascending_insertAscending [Std.TransOrd α] [Std.LawfulEqOrd α] (x : α)
    {xs : List α} (h : Ascending xs) : Ascending (insertAscending x xs) := by
  induction xs with
  | nil => simp [insertAscending, Ascending]
  | cons y ys ih =>
    obtain ⟨hy, hys⟩ := List.pairwise_cons.mp h
    simp only [insertAscending]
    split
    · rename_i hlt
      refine List.pairwise_cons.mpr ⟨?_, h⟩
      intro a ha
      rcases List.mem_cons.mp ha with rfl | ha
      · exact hlt
      · exact Std.TransCmp.lt_trans hlt (hy a ha)
    · exact h
    · rename_i hgt
      refine List.pairwise_cons.mpr ⟨?_, ih hys⟩
      intro a ha
      rcases mem_insertAscending_of.mp ha with rfl | ha
      · exact Std.OrientedCmp.gt_iff_lt.mp hgt
      · exact hy a ha

theorem insertAscending_of_above {x : α} {xs : List α} (above : ∀ y ∈ xs, compare x y = .gt) :
    insertAscending x xs = xs ++ [x] := by
  induction xs with
  | nil => rfl
  | cons y ys ih =>
    obtain ⟨first, later⟩ := List.forall_mem_cons.mp above
    rw [insertAscending, first, ih later, List.cons_append]

/-- A finite set, held as the ascending list of its elements. -/
structure OrderedSet (α : Type u) [Ord α] where
  toList : List α
  ascending : Ascending toList

namespace OrderedSet

theorem toList_injective {s t : OrderedSet α} (h : s.toList = t.toList) : s = t := by
  cases s
  cases t
  cases h
  rfl

instance [DecidableEq α] : DecidableEq (OrderedSet α) := fun s t =>
  if h : s.toList = t.toList then isTrue (toList_injective h)
  else isFalse fun hst => h (hst ▸ rfl)

def empty : OrderedSet α := ⟨[], List.Pairwise.nil⟩

instance : EmptyCollection (OrderedSet α) := ⟨empty⟩
instance : Inhabited (OrderedSet α) := ⟨empty⟩
instance : Membership α (OrderedSet α) := ⟨fun s a => a ∈ s.toList⟩

def size (s : OrderedSet α) : Nat := s.toList.length

variable [Std.TransOrd α] [Std.LawfulEqOrd α]

def insert (s : OrderedSet α) (x : α) : OrderedSet α :=
  ⟨insertAscending x s.toList, ascending_insertAscending x s.ascending⟩

def ofList (xs : List α) : OrderedSet α := xs.foldl insert empty

def union (s t : OrderedSet α) : OrderedSet α := t.toList.foldl insert s

theorem mem_insert {s : OrderedSet α} {x a : α} : a ∈ s.insert x ↔ a = x ∨ a ∈ s :=
  mem_insertAscending_of

theorem mem_foldl_insert {s : OrderedSet α} {xs : List α} {a : α} :
    a ∈ xs.foldl insert s ↔ a ∈ s ∨ a ∈ xs := by
  induction xs generalizing s with
  | nil => simp
  | cons x xs ih =>
    rw [List.foldl_cons, ih, mem_insert, List.mem_cons]
    constructor
    · rintro ((h | h) | h) <;> simp [h]
    · rintro (h | h | h) <;> simp [h]

theorem mem_ofList {xs : List α} {a : α} : a ∈ ofList xs ↔ a ∈ xs := by
  have hnil : ¬ a ∈ (empty : OrderedSet α) := List.not_mem_nil
  simp [ofList, mem_foldl_insert, hnil]

theorem toList_foldl_insert {s : OrderedSet α} {xs : List α}
    (ascending : Ascending (s.toList ++ xs)) : (xs.foldl insert s).toList = s.toList ++ xs := by
  induction xs generalizing s with
  | nil => simp
  | cons x xs ih =>
    obtain ⟨_, _, below⟩ := List.pairwise_append.mp ascending
    have above : ∀ y ∈ s.toList, compare x y = .gt := fun y listed =>
      Std.OrientedCmp.gt_iff_lt.mpr (below y listed x List.mem_cons_self)
    have appended : (s.insert x).toList = s.toList ++ [x] := insertAscending_of_above above
    rw [List.append_cons, ← appended] at ascending
    rw [List.foldl_cons, ih ascending, appended, List.append_assoc, List.singleton_append]

/-- A set is the set of the elements that are read off it. -/
theorem ofList_toList (s : OrderedSet α) : ofList s.toList = s :=
  toList_injective (toList_foldl_insert s.ascending)

theorem mem_union {s t : OrderedSet α} {a : α} : a ∈ s.union t ↔ a ∈ s ∨ a ∈ t :=
  mem_foldl_insert

end OrderedSet

end RdfMapping
