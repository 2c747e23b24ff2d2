import RdfMapping.Proofs.Places
import RdfMapping.Proofs.Postings
import RdfMapping.Proofs.Realization

/-!
# A ledger by its history

What has happened to a ledger is told by the postings it took, the triples maps
that are complete and the joins that are resolved. `after` reads the whole ledger
off these three lists, and each operation only makes one of them longer.
-/

namespace RdfMapping

/-- Each join leads to a store that its parent fills. -/
def Ledger.Linked (l : Ledger) : Prop :=
  ∀ i join, l.join? i = some join →
    ∃ slot, l.stores[join.spec.store]? = some slot ∧ slot.parent = join.spec.parent

/-- A join that got these entries. -/
def Join.after (join : Join) (entries : List ChildEntry) (completed : List Nat)
    (resolved : Bool) : Join where
  spec := join.spec
  phase := if resolved then .resolved
    else if entries = [] ∧ join.spec.child ∉ completed then .pending else .awaitingParent
  buffered := if resolved then [] else entries
  claimed := Ledger.isResolvable completed join

/-- A store that got these subjects. -/
def StoreSlot.after (slot : StoreSlot) (pairs : List (JoinKey × Term)) (completed : List Nat) :
    StoreSlot :=
  { slot with
    store := ParentStore.fill ⟨[], 0, decide (slot.parent ∈ completed)⟩ pairs }

/-- The joins and stores of `l`, as they are once all this has happened. -/
def Ledger.after (l : Ledger) (postings : List Posting) (completed resolved : List Nat) :
    Ledger where
  joins := l.joins.mapIdx fun i join =>
    join.after (entriesFor i postings) completed (resolved.contains i)
  stores := l.stores.mapIdx fun i slot => slot.after (pairsFor i postings) completed
  completed

/-- The joins that both their triples maps allow to resolve only now. -/
def Ledger.readied (l : Ledger) (completed : List Nat) (map : Nat) : List Nat :=
  l.joins.zipIdx.filterMap fun (join, i) =>
    if isResolvable (completed ++ [map]) join && !isResolvable completed join then some i else none

theorem isResolvable_iff {completed : List Nat} {join : Join} :
    Ledger.isResolvable completed join ↔
      join.spec.parent ∈ completed ∧ join.spec.child ∈ completed := by
  simp [Ledger.isResolvable]

theorem isResolvable_mono {completed : List Nat} {join : Join} (place : Nat)
    (both : Ledger.isResolvable completed join) :
    Ledger.isResolvable (completed ++ [place]) join := by
  obtain ⟨parent, child⟩ := isResolvable_iff.mp both
  exact isResolvable_iff.mpr ⟨List.mem_append_left _ parent, List.mem_append_left _ child⟩

namespace Join

variable {join : Join} {entries : List ChildEntry} {completed : List Nat}

@[simp] theorem spec_after {resolved : Bool} :
    (join.after entries completed resolved).spec = join.spec := rfl

theorem receive_after {resolved : Bool} {more : List ChildEntry}
    (accepted : more ≠ [] → resolved = false) :
    (join.after entries completed resolved).receive more =
      join.after (entries ++ more) completed resolved := by
  by_cases none : more = []
  · simp [none]
  · simp [receive, none, after, accepted none]

/-- A join once its child or its parent, `map`, is complete. -/
def complete (map : Nat) (completed : List Nat) (join : Join) : Join :=
  { join with
    phase := if join.spec.child = map ∧ join.phase = .pending then .awaitingParent else join.phase
    claimed := join.claimed || Ledger.isResolvable completed join }

theorem complete_after (resolved : Bool) (map : Nat) :
    (join.after entries completed resolved).complete map (completed ++ [map]) =
      join.after entries (completed ++ [map]) resolved := by
  have grown : (Ledger.isResolvable completed join ||
      Ledger.isResolvable (completed ++ [map]) join) =
      Ledger.isResolvable (completed ++ [map]) join := by
    simp only [Ledger.isResolvable, List.contains_append]
    cases completed.contains join.spec.parent <;> cases completed.contains join.spec.child <;> simp
  have phase : ((join.after entries completed resolved).complete map (completed ++ [map])).phase =
      (join.after entries (completed ++ [map]) resolved).phase := by
    cases resolved with
    | true => simp [complete, after]
    | false =>
      by_cases child : join.spec.child = map
      · by_cases none : entries = [] ∧ map ∉ completed
        · simp [complete, after, child, none]
        · simp [complete, after, child, none]
      · simp [complete, after, child]
  exact (Join.mk.injEq ..).mpr ⟨rfl, phase, rfl, grown⟩

end Join

namespace Ledger

theorem after_fresh {l : Ledger} (fresh : l.Fresh) : l.after [] [] [] = l := by
  have joins : l.joins.mapIdx (fun i join => join.after (entriesFor i []) [] false) = l.joins := by
    refine List.ext_getElem? fun i => ?_
    rw [List.getElem?_mapIdx]
    cases found : l.joins[i]? with
    | none => rfl
    | some join =>
      rw [fresh.joins join (List.mem_of_getElem? found)]
      simp [Join.after, isResolvable]
  have stores : l.stores.mapIdx (fun i slot => slot.after (pairsFor i []) []) = l.stores := by
    refine List.ext_getElem? fun i => ?_
    rw [List.getElem?_mapIdx]
    cases found : l.stores[i]? with
    | none => rfl
    | some slot =>
      have emptied := fresh.stores slot (List.mem_of_getElem? found)
      obtain ⟨parent, expressions, store⟩ := slot
      simp only at emptied
      subst emptied
      rfl
  simp only [after, joins, stores, List.contains_nil]
  rw [← fresh.completed]

variable {l : Ledger} {postings : List Posting} {completed resolved : List Nat}

theorem join?_after (i : Nat) : (l.after postings completed resolved).join? i =
    (l.join? i).map fun join =>
      join.after (entriesFor i postings) completed (resolved.contains i) := by
  simp [join?, after]

theorem store?_after (i : Nat) : (l.after postings completed resolved).store? i =
    (l.stores[i]?).map fun slot =>
      ParentStore.fill ⟨[], 0, decide (slot.parent ∈ completed)⟩ (pairsFor i postings) := by
  simp only [store?, after, List.getElem?_mapIdx, Option.map_map]
  rfl

/-- A posting is taken as long as its parent goes on or its join is not resolved. -/
theorem accepts_after {posting : Posting}
    (allowed : match posting with
      | .parent store _ _ => ∀ slot, l.stores[store]? = some slot → slot.parent ∉ completed
      | .child join _ => (l.join? join).isSome ∧ join ∉ resolved) :
    (l.after postings completed resolved).Accepts posting := by
  cases posting with
  | parent store key subject =>
    intro slot found
    simp only [after, List.getElem?_mapIdx, Option.map_eq_some_iff] at found
    obtain ⟨before, found, rfl⟩ := found
    simpa [StoreSlot.after] using allowed before found
  | child join entry =>
    obtain ⟨registered, open'⟩ := allowed
    obtain ⟨held, found⟩ := Option.isSome_iff_exists.mp registered
    refine ⟨_, by rw [join?_after, found]; rfl, ?_⟩
    simp only [Join.after, List.contains_eq_mem, open', decide_false, Bool.false_eq_true, if_false]
    split <;> simp

theorem take_after {more : List Posting}
    (accepted : ∀ posting ∈ more, (l.after postings completed resolved).Accepts posting) :
    (l.after postings completed resolved).take more =
      l.after (postings ++ more) completed resolved := by
  have joins : (l.after postings completed resolved).joins.mapIdx
      (fun i join => join.receive (entriesFor i more)) =
      (l.after (postings ++ more) completed resolved).joins := by
    refine List.ext_getElem? fun i => ?_
    simp only [after, List.getElem?_mapIdx, Option.map_map]
    cases found : l.joins[i]? with
    | none => rfl
    | some join =>
      have unresolved : entriesFor i more ≠ [] → resolved.contains i = false := by
        intro some
        obtain ⟨entry, member⟩ := List.exists_mem_of_ne_nil _ some
        obtain ⟨held, here, phase⟩ := accepted _ (mem_entriesFor.mp member)
        rw [join?_after, show l.join? i = _ from found] at here
        cases here
        cases done : resolved.contains i with
        | false => rfl
        | true => simp [Join.after, List.contains_iff_mem.mp done] at phase
      simp only [Option.map_some, Function.comp_apply, entriesFor_append]
      rw [Join.receive_after unresolved]
  have stores : (l.after postings completed resolved).stores.mapIdx
      (fun i slot => { slot with store := slot.store.fill (pairsFor i more) }) =
      (l.after (postings ++ more) completed resolved).stores := by
    refine List.ext_getElem? fun i => ?_
    simp only [after, List.getElem?_mapIdx, Option.map_map]
    cases l.stores[i]? with
    | none => rfl
    | some slot => simp [StoreSlot.after, pairsFor_append, ParentStore.fill_append]
  simp only [take, joins, stores]
  rfl

theorem filterMap_zipIdx_where {α : Type} (p : α → Bool) (xs : List α) :
    xs.zipIdx.filterMap (fun (x, i) => if p x then some i else none) =
      (xs.map p).zipIdx.filterMap fun (holds, i) => if holds then some i else none := by
  rw [List.zipIdx_map, List.filterMap_map]
  rfl

theorem mem_readied {map i : Nat} : i ∈ l.readied completed map ↔
    ∃ join, l.join? i = some join ∧ isResolvable (completed ++ [map]) join = true ∧
      isResolvable completed join = false := by
  simp only [readied, List.mem_filterMap, Prod.exists, List.mk_mem_zipIdx_iff_getElem?, join?]
  constructor
  · rintro ⟨join, j, found, ready⟩
    split at ready
    · rename_i both
      cases ready
      exact ⟨join, found, by simpa using both⟩
    · cases ready
  · rintro ⟨join, found, now, before⟩
    exact ⟨join, i, found, by simp [now, before]⟩

theorem not_resolvable_of_readied {map i : Nat} (readied : i ∈ l.readied completed map) :
    ¬ ∃ join, l.join? i = some join ∧ isResolvable completed join := by
  rintro ⟨other, same, both⟩
  obtain ⟨join, found, -, before⟩ := mem_readied.mp readied
  cases found.symm.trans same
  rw [before] at both
  cases both

theorem resolvable_or_readied (map i : Nat) :
    (∃ join, l.join? i = some join ∧ isResolvable completed join) ∨ i ∈ l.readied completed map ↔
      ∃ join, l.join? i = some join ∧ isResolvable (completed ++ [map]) join := by
  rw [mem_readied]
  constructor
  · rintro (⟨join, found, both⟩ | ⟨join, found, both, -⟩)
    · exact ⟨join, found, isResolvable_mono map both⟩
    · exact ⟨join, found, both⟩
  · rintro ⟨join, found, both⟩
    cases before : isResolvable completed join with
    | true => exact .inl ⟨join, found, before⟩
    | false => exact .inr ⟨join, found, both, before⟩

theorem nodup_readied (map : Nat) : (l.readied completed map).Nodup := by
  refine (pairwise_zipIdx l.joins).filterMap _ ?_
  rintro ⟨first, i⟩ ⟨next, j⟩ apart a here b there
  obtain ⟨-, fromFirst⟩ := Option.ite_none_right_eq_some.mp here
  obtain ⟨-, fromNext⟩ := Option.ite_none_right_eq_some.mp there
  cases fromFirst
  cases fromNext
  exact apart

/-- The stores of the map are sealed, its joins wait, and those with both maps complete are
answered. -/
theorem markComplete_after {map : Nat} (new : map ∉ completed) :
    (l.after postings completed resolved).markComplete map =
      (l.readied completed map, l.after postings (completed ++ [map]) resolved) := by
  let held := (l.after postings completed resolved).joins
  let waiting := held.map fun j =>
    if j.spec.child = map ∧ j.phase = .pending then { j with phase := .awaitingParent } else j
  have joins : waiting.map (fun j =>
        { j with claimed := j.claimed || isResolvable (completed ++ [map]) j }) =
      (l.after postings (completed ++ [map]) resolved).joins := by
    refine List.ext_getElem? fun i => ?_
    simp only [waiting, held, after, List.getElem?_map, List.getElem?_mapIdx, Option.map_map]
    refine congrArg (Option.map · _) (funext fun join => ?_)
    rw [← Join.complete_after]
    simp only [Function.comp_apply, Join.complete]
    split <;> rfl
  have stores : (l.after postings completed resolved).stores.map
        (fun s => if s.parent = map then { s with store := s.store.sealed } else s) =
      (l.after postings (completed ++ [map]) resolved).stores := by
    refine List.ext_getElem? fun i => ?_
    simp only [after, List.getElem?_map, List.getElem?_mapIdx, Option.map_map]
    refine congrArg (Option.map · _) (funext fun slot => ?_)
    by_cases here : slot.parent = map
    · simp only [Function.comp_apply, StoreSlot.after, here, if_true, ParentStore.sealed_fill]
      simp [ParentStore.sealed]
    · simp [StoreSlot.after, here]
  have ready : waiting.zipIdx.filterMap (fun (j, i) =>
        if isResolvable (completed ++ [map]) j && !j.claimed then some i else none) =
      l.readied completed map := by
    rw [readied,
      filterMap_zipIdx_where (fun j => isResolvable (completed ++ [map]) j && !j.claimed),
      filterMap_zipIdx_where
        (fun join => isResolvable (completed ++ [map]) join && !isResolvable completed join)]
    refine congrArg (fun flags => List.filterMap _ (List.zipIdx flags)) ?_
    refine List.ext_getElem? fun i => ?_
    simp only [waiting, held, after, List.getElem?_map, List.getElem?_mapIdx, Option.map_map]
    refine congrArg (Option.map · _) (funext fun join => ?_)
    simp only [Function.comp_apply]
    split <;> rfl
  have noted : (l.after postings completed resolved).completed = completed := rfl
  simp only [markComplete, noted, new, if_false]
  exact Prod.ext ready ((Ledger.mk.injEq ..).mpr ⟨joins, stores, rfl⟩)

theorem setJoin_after {i : Nat} {join : Join} (found : l.join? i = some join) :
    (l.after postings completed resolved).setJoin i
        ⟨join.spec, .resolved, [], isResolvable completed join⟩ =
      l.after postings completed (resolved ++ [i]) := by
  have joins : (l.after postings completed resolved).joins.set i
        ⟨join.spec, .resolved, [], isResolvable completed join⟩ =
      (l.after postings completed (resolved ++ [i])).joins := by
    refine List.ext_getElem? fun j => ?_
    rw [List.getElem?_set]
    by_cases here : i = j
    · subst here
      obtain ⟨inside, registered⟩ := List.getElem?_eq_some_iff.mp found
      simp [inside, registered, after, Join.after]
    · have apart : ¬ j = i := fun same => here same.symm
      simp [here, apart, after]
  exact congrArg (fun joins => Ledger.mk joins _ _) joins

theorem exists_of_mem_joins_after {held : Join}
    (member : held ∈ (l.after postings completed resolved).joins) :
    ∃ join : Join, ∃ entries done, held = join.after entries completed done := by
  obtain ⟨i, _, same⟩ := List.mem_mapIdx.mp member
  exact ⟨_, _, _, same.symm⟩

/-- A map that is complete already leaves the ledger as it is. -/
theorem markComplete_again {map : Nat} (done : map ∈ completed) :
    (l.after postings completed resolved).markComplete map =
      ([], l.after postings completed resolved) := by
  have joins : (l.after postings completed resolved).joins.map (fun j =>
        if j.spec.child = map ∧ j.phase = .pending then { j with phase := .awaitingParent } else j) =
      (l.after postings completed resolved).joins := by
    refine (List.map_congr_left fun held member => ?_).trans (List.map_id _)
    obtain ⟨join, entries, resolved, rfl⟩ := exists_of_mem_joins_after member
    rw [if_neg]
    · rfl
    · rintro ⟨child, pending⟩
      rw [Join.spec_after] at child
      cases resolved <;> simp [Join.after, child, done] at pending
  have claims : (l.after postings completed resolved).joins.map (fun j =>
        { j with claimed := j.claimed || isResolvable completed j }) =
      (l.after postings completed resolved).joins := by
    refine (List.map_congr_left fun held member => ?_).trans (List.map_id _)
    obtain ⟨join, entries, resolved, rfl⟩ := exists_of_mem_joins_after member
    exact (Join.mk.injEq ..).mpr ⟨rfl, rfl, rfl, Bool.or_self _⟩
  have stores : (l.after postings completed resolved).stores.map
        (fun s => if s.parent = map then { s with store := s.store.sealed } else s) =
      (l.after postings completed resolved).stores := by
    refine (List.map_congr_left fun held member => ?_).trans (List.map_id _)
    obtain ⟨i, _, rfl⟩ := List.mem_mapIdx.mp member
    split
    · rename_i parent
      simp only [StoreSlot.after] at parent
      simp only [StoreSlot.after, parent, done, decide_true, ParentStore.sealed_fill]
      rfl
    · rfl
  have ready : (l.after postings completed resolved).joins.zipIdx.filterMap (fun (j, i) =>
        if isResolvable completed j && !j.claimed then some i else none) = [] := by
    rw [List.filterMap_eq_nil_iff]
    rintro ⟨held, i⟩ numbered
    obtain ⟨join, entries, resolved, rfl⟩ :=
      exists_of_mem_joins_after (List.fst_mem_of_mem_zipIdx numbered)
    simp [isResolvable, Join.after]
  have noted : (l.after postings completed resolved).completed = completed := rfl
  simp only [markComplete, noted, done, if_true, joins, stores, ready]
  exact congrArg (fun joins => ([], Ledger.mk joins _ _)) claims

/-- What a join that could be resolved tells of its history: it waits, and its store is sealed. -/
theorem resolve_after_ok {i : Nat} {quads : List Quad} (linked : l.Linked)
    (answered : ((l.after postings completed resolved).resolve i).1 = .ok quads) :
    i ∉ resolved ∧ ((l.after postings completed resolved).resolve i).2 =
        l.after postings completed (resolved ++ [i]) ∧
      ∃ join slot, l.join? i = some join ∧ l.stores[join.spec.store]? = some slot ∧
        slot.parent ∈ completed ∧ quads = (entriesFor i postings).flatMap
          (entryQuads (slot.after (pairsFor join.spec.store postings) completed).store
            join.spec.targets) := by
  obtain ⟨held, here, waits, isSealed, made, behind⟩ := resolve_ok answered
  rw [join?_after] at here
  obtain ⟨join, found, same⟩ := Option.map_eq_some_iff.mp here
  subst same
  have new : i ∉ resolved := by
    intro old
    rw [Join.after, if_pos (List.contains_iff_mem.mpr old)] at waits
    cases waits
  rw [Join.spec_after] at isSealed made behind
  obtain ⟨slot, stored, parent⟩ := linked i join found
  have store : ((l.after postings completed resolved).store? join.spec.store).getD .empty
      = (slot.after (pairsFor join.spec.store postings) completed).store := by
    rw [store?_after, stored]
    rfl
  have done : slot.parent ∈ completed := by
    rw [store] at isSealed
    simpa [StoreSlot.after] using isSealed
  refine ⟨new, ?_, join, slot, found, stored, done, ?_⟩
  · rw [behind, ← setJoin_after found]
    rfl
  · rw [made, store]
    simp [Join.after, new]

theorem resolve_after {i : Nat} {join : Join} (linked : l.Linked) (found : l.join? i = some join)
    (both : isResolvable completed join) (new : i ∉ resolved) :
    (l.after postings completed resolved).resolve i =
      (.ok ((entriesFor i postings).flatMap
        (entryQuads (((l.after postings completed resolved).store? join.spec.store).getD .empty)
          join.spec.targets)),
        l.after postings completed (resolved ++ [i])) := by
  obtain ⟨parentDone, childDone⟩ : join.spec.parent ∈ completed ∧ join.spec.child ∈ completed := by
    simpa [isResolvable] using both
  have held : (l.after postings completed resolved).join? i =
      some ⟨join.spec, .awaitingParent, entriesFor i postings, isResolvable completed join⟩ := by
    rw [join?_after, found]
    simp [Join.after, new, childDone]
  have isSealed : (((l.after postings completed resolved).store? join.spec.store).getD
      .empty).isSealed = true := by
    obtain ⟨slot, stored, parent⟩ := linked i join found
    simp [store?_after, stored, parent, parentDone]
  simp only [resolve, held, isSealed, ne_eq, not_true_eq_false, if_false, Bool.not_true,
    Bool.false_eq_true, setJoin_after found]

end Ledger

end RdfMapping
