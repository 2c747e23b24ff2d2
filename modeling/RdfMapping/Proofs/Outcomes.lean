import Mathlib.Data.List.Forall2
import RdfMapping.Fault

/-!
# Computations that succeed

What a computation in several steps gives when it does not fail, read back step by
step. Of a run over a list every step succeeded, and a fold went from state to state.
-/

namespace RdfMapping

variable {α β γ : Type}

theorem ok_of_toOption {x : Except Fault α} {a : α} (found : x.toOption = some a) :
    x = .ok a := by
  cases x with
  | ok b =>
    cases found
    rfl
  | error f => cases found

theorem bind_eq_ok_iff {x : Except Fault α} {f : α → Except Fault β} {b : β} :
    (x >>= f) = .ok b ↔ ∃ a, x = .ok a ∧ f a = .ok b := by
  cases x with
  | error fault =>
    refine iff_of_false ?_ ?_
    · intro ran
      cases ran
    · rintro ⟨a, given, -⟩
      cases given
  | ok a =>
    constructor
    · exact fun ran => ⟨a, rfl, ran⟩
    · rintro ⟨_, given, ran⟩
      cases given
      exact ran

theorem map_eq_ok_iff {x : Except Fault α} {f : α → β} {b : β} :
    x.map f = .ok b ↔ ∃ a, x = .ok a ∧ f a = b := by
  cases x <;> simp [Except.map]

/-- A run over a list that succeeds gives what each of its steps gives. -/
theorem mapM_eq_ok_iff {f : α → Except Fault β} {xs : List α} {ys : List β} :
    xs.mapM f = .ok ys ↔ List.Forall₂ (fun x y => f x = .ok y) xs ys := by
  induction xs generalizing ys with
  | nil =>
    rw [List.mapM_nil, List.forall₂_nil_left_iff]
    constructor
    · intro ran
      cases ran
      rfl
    · rintro rfl
      rfl
  | cons x xs ih =>
    simp only [List.mapM_cons, bind_eq_ok_iff, ih, List.forall₂_cons_left_iff]
    constructor
    · rintro ⟨y, here, ys, later, same⟩
      cases same
      exact ⟨y, ys, here, later, rfl⟩
    · rintro ⟨y, ys, here, later, rfl⟩
      exact ⟨y, here, ys, later, rfl⟩

/-- What stands in one list has something in the other that it is related to. -/
theorem exists_left_of_forall₂ {related : α → β → Prop} {as : List α} {bs : List β}
    (all : List.Forall₂ related as bs) {b : β} (member : b ∈ bs) : ∃ a ∈ as, related a b := by
  induction all with
  | nil => exact (List.not_mem_nil member).elim
  | cons first _ ih =>
    rcases List.mem_cons.mp member with rfl | later
    · exact ⟨_, List.mem_cons_self, first⟩
    · obtain ⟨a, inside, found⟩ := ih later
      exact ⟨a, List.mem_cons_of_mem _ inside, found⟩

theorem exists_right_of_forall₂ {related : α → β → Prop} {as : List α} {bs : List β}
    (all : List.Forall₂ related as bs) {a : α} (member : a ∈ as) : ∃ b ∈ bs, related a b :=
  exists_left_of_forall₂ all.flip member

theorem exists_mem_zipIdx {xs : List α} {x : α} (member : x ∈ xs) : ∃ i, (x, i) ∈ xs.zipIdx := by
  obtain ⟨i, here⟩ := List.mem_iff_getElem?.mp member
  exact ⟨i, List.mk_mem_zipIdx_iff_getElem?.mpr here⟩

/-- Each step of a fold that succeeds took its state to the next one. -/
theorem foldlM_eq_ok {f : β → α → Except Fault β} {xs : List α} {b c : β}
    (ran : xs.foldlM f b = .ok c) : ∀ x ∈ xs, ∃ before after, f before x = .ok after := by
  induction xs generalizing b with
  | nil => exact fun x member => (List.not_mem_nil member).elim
  | cons x xs ih =>
    rw [List.foldlM_cons] at ran
    obtain ⟨next, here, later⟩ := bind_eq_ok_iff.mp ran
    exact List.forall_mem_cons.mpr ⟨⟨b, next, here⟩, ih later⟩

end RdfMapping
