import RdfMapping.Plan.Basic

/-!
# Postings that are taken

A store that is not sealed takes every subject, and a join that is not resolved
takes every entry. So a ledger either refuses a posting or becomes what `take`
says, which is the same whatever the ledger holds; the postings of several
records can be put into one list. A join that is resolved looks its entries up.
-/

namespace RdfMapping

namespace ParentStore

theorem mem_lookup_addTo (entries : List (JoinKey × OrderedSet Term)) (key other : JoinKey)
    (term t : Term) : t ∈ ((addTo key term entries).lookup other).getD ∅ ↔
      (other, t) = (key, term) ∨ t ∈ (entries.lookup other).getD ∅ := by
  have empty : ¬ t ∈ (∅ : OrderedSet Term) := List.not_mem_nil
  induction entries with
  | nil =>
    by_cases same : other = key
    · subst same
      have single : t ∈ OrderedSet.empty.insert term ↔ t = term ∨ t ∈ (∅ : OrderedSet Term) :=
        OrderedSet.mem_insert
      simp [addTo, single, empty]
    · simp [addTo, List.lookup_cons, beq_false_of_ne same, same, empty]
  | cons entry rest ih =>
    obtain ⟨k, terms⟩ := entry
    by_cases held : k = key
    · subst held
      by_cases same : other = k
      · subst same
        simp [addTo, OrderedSet.mem_insert]
      · simp [addTo, List.lookup_cons, beq_false_of_ne same, same]
    · by_cases same : other = k
      · subst same
        simp [addTo, held]
      · simpa [addTo, held, List.lookup_cons, beq_false_of_ne same] using ih

/-- Adds a subject, sealed or not. -/
def add (s : ParentStore) (pair : JoinKey × Term) : ParentStore :=
  { s with
    entries := addTo pair.1 pair.2 s.entries
    termCount := if pair.2 ∉ (s.lookup pair.1).toList then s.termCount + 1 else s.termCount }

def fill (s : ParentStore) (pairs : List (JoinKey × Term)) : ParentStore := pairs.foldl add s

@[simp] theorem fill_nil (s : ParentStore) : s.fill [] = s := rfl

theorem fill_append (s : ParentStore) (first next : List (JoinKey × Term)) :
    s.fill (first ++ next) = (s.fill first).fill next :=
  List.foldl_append

theorem insert_of_open {s : ParentStore} (opened : s.isSealed = false) (key : JoinKey)
    (term : Term) :
    s.insert key term = (.ok (decide (term ∉ (s.lookup key).toList)), s.add (key, term)) := by
  simp [insert, opened, add]

theorem insert_of_sealed {s : ParentStore} (done : s.isSealed = true) (key : JoinKey)
    (term : Term) : s.insert key term = (.error Fault.sealedStore, s) := by
  rw [insert, if_pos done]

@[simp] theorem isSealed_fill (s : ParentStore) (pairs : List (JoinKey × Term)) :
    (s.fill pairs).isSealed = s.isSealed := by
  induction pairs generalizing s with
  | nil => rfl
  | cons pair rest ih => exact ih (s.add pair)

theorem sealed_fill (s : ParentStore) (pairs : List (JoinKey × Term)) :
    (s.fill pairs).sealed = s.sealed.fill pairs := by
  induction pairs generalizing s with
  | nil => rfl
  | cons pair rest ih => exact ih (s.add pair)

theorem mem_lookup_fill (s : ParentStore) (pairs : List (JoinKey × Term)) (key : JoinKey)
    (t : Term) : t ∈ (s.fill pairs).lookup key ↔ t ∈ s.lookup key ∨ (key, t) ∈ pairs := by
  induction pairs generalizing s with
  | nil => simp
  | cons pair rest ih =>
    have first : t ∈ (s.add pair).lookup key ↔ (key, t) = pair ∨ t ∈ s.lookup key :=
      mem_lookup_addTo s.entries pair.1 key pair.2 t
    change t ∈ ((s.add pair).fill rest).lookup key ↔ _
    rw [ih, first, List.mem_cons]
    constructor
    · rintro ((here | held) | later) <;> simp [*]
    · rintro (held | here | later) <;> simp [*]

end ParentStore

/-- What the postings add to one store. -/
def pairsFor (store : Nat) (postings : List Posting) : List (JoinKey × Term) :=
  postings.filterMap fun
    | .parent i key subject => if i = store then some (key, subject) else none
    | .child .. => none

/-- What the postings add to one join. -/
def entriesFor (join : Nat) (postings : List Posting) : List ChildEntry :=
  postings.filterMap fun
    | .parent .. => none
    | .child i entry => if i = join then some entry else none

@[simp] theorem pairsFor_nil (store : Nat) : pairsFor store [] = [] := rfl

@[simp] theorem entriesFor_nil (join : Nat) : entriesFor join [] = [] := rfl

theorem pairsFor_append (store : Nat) (first next : List Posting) :
    pairsFor store (first ++ next) = pairsFor store first ++ pairsFor store next :=
  List.filterMap_append

theorem entriesFor_append (join : Nat) (first next : List Posting) :
    entriesFor join (first ++ next) = entriesFor join first ++ entriesFor join next :=
  List.filterMap_append

theorem mem_pairsFor {store : Nat} {postings : List Posting} {key : JoinKey} {subject : Term} :
    (key, subject) ∈ pairsFor store postings ↔ .parent store key subject ∈ postings := by
  simp only [pairsFor, List.mem_filterMap]
  constructor
  · rintro ⟨posting, member, found⟩
    cases posting with
    | parent i k s =>
      by_cases here : i = store
      · simp only [here, if_true, Option.some.injEq, Prod.mk.injEq] at found
        obtain ⟨rfl, rfl⟩ := found
        exact here ▸ member
      · simp [here] at found
    | child i entry => cases found
  · intro member
    exact ⟨_, member, by simp⟩

theorem mem_entriesFor {join : Nat} {postings : List Posting} {entry : ChildEntry} :
    entry ∈ entriesFor join postings ↔ .child join entry ∈ postings := by
  simp only [entriesFor, List.mem_filterMap]
  constructor
  · rintro ⟨posting, member, found⟩
    cases posting with
    | parent i k s => cases found
    | child i e =>
      by_cases here : i = join
      · simp only [here, if_true, Option.some.injEq] at found
        exact here ▸ found ▸ member
      · simp [here] at found
  · intro member
    exact ⟨_, member, by simp⟩

/-- A join behind further entries of child records. -/
def Join.receive (join : Join) (entries : List ChildEntry) : Join :=
  if entries = [] then join
  else { join with phase := .awaitingParent, buffered := join.buffered ++ entries }

@[simp] theorem Join.receive_nil (join : Join) : join.receive [] = join := rfl

theorem Join.buffered_receive (join : Join) (entries : List ChildEntry) :
    (join.receive entries).buffered = join.buffered ++ entries := by
  rw [receive]
  split
  · rename_i none
    rw [none, List.append_nil]
  · rfl

theorem Join.receive_append (join : Join) (first next : List ChildEntry) :
    join.receive (first ++ next) = (join.receive first).receive next := by
  by_cases none : first = []
  · simp [none]
  · by_cases stop : next = []
    · simp [stop]
    · simp [receive, none, stop]

namespace Ledger

/-- The ledger with the postings made, refused or not. -/
def take (l : Ledger) (postings : List Posting) : Ledger where
  joins := l.joins.mapIdx fun i join => join.receive (entriesFor i postings)
  stores := l.stores.mapIdx fun i slot =>
    { slot with store := slot.store.fill (pairsFor i postings) }
  completed := l.completed

theorem take_nil (l : Ledger) : l.take [] = l := by
  simp [take, List.mapIdx_eq_zipIdx_map]

theorem take_append (l : Ledger) (first next : List Posting) :
    l.take (first ++ next) = (l.take first).take next := by
  simp only [take, List.mapIdx_mapIdx, Function.comp_def, pairsFor_append, entriesFor_append,
    ParentStore.fill_append, Join.receive_append]

/-- The store of a posting is not sealed, or its join is not resolved. -/
def Accepts (l : Ledger) : Posting → Prop
  | .parent store _ _ => ∀ slot, l.stores[store]? = some slot → slot.store.isSealed = false
  | .child join _ => ∃ held, l.join? join = some held ∧ held.phase ≠ .resolved

theorem Accepts.take {l : Ledger} {posting : Posting} (accepts : l.Accepts posting)
    (postings : List Posting) : (l.take postings).Accepts posting := by
  cases posting with
  | parent store key subject =>
    intro slot found
    simp only [Ledger.take, List.getElem?_mapIdx, Option.map_eq_some_iff] at found
    obtain ⟨before, found, rfl⟩ := found
    simpa using accepts before found
  | child join entry =>
    obtain ⟨held, found, unresolved⟩ := accepts
    refine ⟨held.receive (entriesFor join postings), ?_, ?_⟩
    · simp only [join?, Ledger.take, List.getElem?_mapIdx]
      rw [show l.joins[join]? = some held from found]
      rfl
    · rw [Join.receive]
      split
      · exact unresolved
      · simp

/-- Putting a store back where it was found changes nothing. -/
theorem setStore_getD (l : Ledger) (i : Nat) : l.setStore i ((l.store? i).getD .empty) = l := by
  have stores : l.stores.modify i (fun slot => { slot with store := (l.store? i).getD .empty }) =
      l.stores := by
    refine List.ext_getElem? fun j => ?_
    rw [List.getElem?_modify]
    by_cases here : i = j
    · subst here
      cases found : l.stores[i]? with
      | none => rfl
      | some slot => simp [store?, found]
    · simp [here]
  rw [setStore, stores]

theorem insert_eq_take {l : Ledger} {store : Nat} {key : JoinKey} {subject : Term}
    (accepts : l.Accepts (.parent store key subject)) : l.insert store key subject =
      (.ok (decide (subject ∉ (((l.store? store).getD .empty).lookup key).toList)),
        l.take [.parent store key subject]) := by
  have opened : ((l.store? store).getD .empty).isSealed = false := by
    cases found : l.stores[store]? with
    | none => simp [store?, found, ParentStore.empty]
    | some slot => simpa [store?, found] using accepts slot found
  rw [insert, ParentStore.insert_of_open opened]
  refine congrArg (Prod.mk _) ?_
  have joins : l.joins = l.joins.mapIdx fun i join =>
      join.receive (entriesFor i [.parent store key subject]) := by
    simp [entriesFor, List.mapIdx_eq_zipIdx_map]
  have stores : l.stores.modify store (fun slot =>
        { slot with store := ((l.store? store).getD .empty).add (key, subject) }) =
      l.stores.mapIdx fun i slot =>
        { slot with store := slot.store.fill (pairsFor i [.parent store key subject]) } := by
    refine List.ext_getElem? fun i => ?_
    rw [List.getElem?_modify, List.getElem?_mapIdx]
    by_cases here : store = i
    · subst here
      cases found : l.stores[store]? with
      | none => rfl
      | some slot => simp [pairsFor, store?, found, ParentStore.fill]
    · simp [pairsFor, here]
  rw [setStore, stores]
  exact congrArg (fun joins => Ledger.mk joins _ _) joins

theorem buffer_eq_take {l : Ledger} {join : Nat} {entry : ChildEntry}
    (accepts : l.Accepts (.child join entry)) :
    l.buffer join entry = (.ok (), l.take [.child join entry]) := by
  obtain ⟨held, found, unresolved⟩ := accepts
  simp only [buffer, found, unresolved, if_false]
  refine congrArg (Prod.mk _) ?_
  have stores : l.stores = l.stores.mapIdx fun i slot =>
      { slot with store := slot.store.fill (pairsFor i [.child join entry]) } := by
    simp [pairsFor, List.mapIdx_eq_zipIdx_map]
  have joins : l.joins.set join
        { held with phase := .awaitingParent, buffered := held.buffered ++ [entry] } =
      l.joins.mapIdx fun i held => held.receive (entriesFor i [.child join entry]) := by
    refine List.ext_getElem? fun i => ?_
    rw [List.getElem?_set, List.getElem?_mapIdx]
    by_cases here : join = i
    · subst here
      rw [show l.joins[join]? = some held from found]
      obtain ⟨inside, -⟩ := List.getElem?_eq_some_iff.mp found
      simp [inside, entriesFor, Join.receive]
    · simp [entriesFor, here]
  rw [setJoin, joins]
  exact congrArg (fun stores => Ledger.mk _ stores _) stores

theorem post_eq_take {l : Ledger} {posting : Posting} (accepts : l.Accepts posting) :
    l.post posting = (.ok (), l.take [posting]) := by
  cases posting with
  | parent store key subject =>
    rw [post, insert_eq_take accepts]
    rfl
  | child join entry => exact buffer_eq_take accepts

theorem postAll_eq_take {l : Ledger} {postings : List Posting}
    (accepts : ∀ posting ∈ postings, l.Accepts posting) :
    l.postAll postings = (.ok (), l.take postings) := by
  induction postings generalizing l with
  | nil => rw [take_nil]; rfl
  | cons posting rest ih =>
    have first := post_eq_take (accepts posting List.mem_cons_self)
    simp only [postAll, first]
    rw [ih fun later member => (accepts later (List.mem_cons_of_mem _ member)).take _,
      ← take_append, List.singleton_append]

theorem insert_of_not_accepts {l : Ledger} {store : Nat} {key : JoinKey} {subject : Term}
    (closed : ¬ l.Accepts (.parent store key subject)) :
    ∃ f, l.insert store key subject = (.error f, l) := by
  have done : ((l.store? store).getD .empty).isSealed = true := by
    refine Bool.of_not_eq_false fun opened => closed fun slot found => ?_
    rwa [store?, found] at opened
  rw [insert, ParentStore.insert_of_sealed done]
  exact ⟨_, congrArg (Prod.mk _) (setStore_getD l store)⟩

theorem buffer_of_not_accepts {l : Ledger} {join : Nat} {entry : ChildEntry}
    (closed : ¬ l.Accepts (.child join entry)) : ∃ f, l.buffer join entry = (.error f, l) := by
  rw [buffer]
  split
  · exact ⟨_, rfl⟩
  · rename_i held found
    split
    · exact ⟨_, rfl⟩
    · rename_i unresolved
      exact (closed ⟨held, found, unresolved⟩).elim

/-- A ledger takes a posting, or refuses it and stays as it was. -/
theorem post_cases (l : Ledger) (posting : Posting) :
    l.post posting = (.ok (), l.take [posting]) ∨ ∃ f, l.post posting = (.error f, l) := by
  by_cases accepts : l.Accepts posting
  · exact .inl (post_eq_take accepts)
  · right
    cases posting with
    | parent store key subject =>
      obtain ⟨f, refused⟩ := insert_of_not_accepts accepts
      exact ⟨f, by rw [post, refused]; rfl⟩
    | child join entry => exact buffer_of_not_accepts accepts

/-- A ledger takes postings up to the first that it refuses. -/
theorem postAll_takes (l : Ledger) (postings : List Posting) :
    ∃ taken, taken <+: postings ∧ (l.postAll postings).2 = l.take taken := by
  induction postings generalizing l with
  | nil => exact ⟨[], List.prefix_refl _, (take_nil l).symm⟩
  | cons posting rest ih =>
    rw [postAll]
    rcases l.post_cases posting with posted | ⟨f, refused⟩
    · obtain ⟨taken, earlier, ran⟩ := ih (l.take [posting])
      refine ⟨posting :: taken, List.cons_prefix_cons.mpr ⟨rfl, earlier⟩, ?_⟩
      rw [posted, ran, ← take_append, List.singleton_append]
    · rw [refused]
      exact ⟨[], List.nil_prefix, (take_nil l).symm⟩

end Ledger

/-- A record whose postings are all taken gives what its survey says. -/
theorem MapPlan.process_eq_take {plan : MapPlan} {emitClasses : Bool} {record : Record}
    {l : Ledger} (accepts : ∀ posting ∈ (plan.survey emitClasses record).postings,
      l.Accepts posting) :
    plan.process emitClasses record l = (l.take (plan.survey emitClasses record).postings,
      (plan.survey emitClasses record).outcome) := by
  simp only [process, Ledger.postAll_eq_take accepts]

/-- A record only posts to the ledger, and gives quads only when all of it is taken. -/
theorem MapPlan.process_takes (plan : MapPlan) (emitClasses : Bool) (record : Record)
    (l : Ledger) : (∃ taken, taken <+: (plan.survey emitClasses record).postings ∧
      (plan.process emitClasses record l).1 = l.take taken) ∧
    ∀ quads, (plan.process emitClasses record l).2 = .ok quads →
      (plan.survey emitClasses record).outcome = .ok quads := by
  obtain ⟨taken, earlier, ran⟩ := l.postAll_takes (plan.survey emitClasses record).postings
  simp only [process]
  split
  · rename_i f next refused
    rw [refused] at ran
    refine ⟨⟨taken, earlier, ran⟩, fun quads none => ?_⟩
    cases none
  · rename_i next posted
    rw [posted] at ran
    exact ⟨⟨taken, earlier, ran⟩, fun quads given => given⟩

namespace Ledger

theorem mem_matchedParents {store : ParentStore} {entry : ChildEntry} {t : Term} :
    t ∈ (matchedParents store entry).toList ↔ ∃ key ∈ entry.keys, t ∈ store.lookup key := by
  suffices onward : ∀ (keys : List JoinKey) (parents : OrderedSet Term),
      t ∈ keys.foldl (fun parents key => parents.union (store.lookup key)) parents ↔
        t ∈ parents ∨ ∃ key ∈ keys, t ∈ store.lookup key by
    have none : ¬ t ∈ (∅ : OrderedSet Term) := List.not_mem_nil
    exact (onward entry.keys ∅).trans (or_iff_right none)
  intro keys
  induction keys with
  | nil => simp
  | cons key keys ih =>
    intro parents
    simp only [List.foldl_cons, ih, OrderedSet.mem_union, List.mem_cons, exists_eq_or_imp, or_assoc]

/-- A join is resolved from the entries that wait for its store, or the ledger stays as it was. -/
theorem resolve_cases (l : Ledger) (i : Nat) :
    (∃ join, l.join? i = some join ∧ join.phase = .awaitingParent ∧
      ((l.store? join.spec.store).getD .empty).isSealed ∧
      l.resolve i = (.ok (join.buffered.flatMap
          (entryQuads ((l.store? join.spec.store).getD .empty) join.spec.targets)),
        l.setJoin i { join with phase := .resolved, buffered := [] })) ∨
    ∃ f, l.resolve i = (.error f, l) := by
  rw [resolve]
  split
  · exact .inr ⟨_, rfl⟩
  · rename_i join found
    dsimp only
    split
    · exact .inr ⟨_, rfl⟩
    · rename_i waiting
      split
      · exact .inr ⟨_, rfl⟩
      · rename_i done
        exact .inl ⟨join, found, by simpa using waiting, by simpa using done, rfl⟩

/-- What a join that could be resolved gave, and what it left behind. -/
theorem resolve_ok {l : Ledger} {i : Nat} {quads : List Quad}
    (resolved : (l.resolve i).1 = .ok quads) :
    ∃ join, l.join? i = some join ∧ join.phase = .awaitingParent ∧
      ((l.store? join.spec.store).getD .empty).isSealed ∧
      quads = join.buffered.flatMap
        (entryQuads ((l.store? join.spec.store).getD .empty) join.spec.targets) ∧
      (l.resolve i).2 = l.setJoin i { join with phase := .resolved, buffered := [] } := by
  rcases l.resolve_cases i with ⟨join, found, waits, done, ran⟩ | ⟨f, refused⟩
  · rw [ran] at resolved ⊢
    exact ⟨join, found, waits, done, (Except.ok.inj resolved).symm, rfl⟩
  · rw [refused] at resolved
    cases resolved

end Ledger

end RdfMapping
