import Mathlib.Algebra.GroupWithZero.Nat
import RdfMapping.Proofs.NestedLoop
import RdfMapping.Proofs.Surveys

/-!
# Requests to a store

A store takes every pair of a key and a subject until it is sealed, and none afterwards. Under
a key it holds the subjects that were taken with just this key, each once and in ascending
order, and its counts are those of the keys and of the pairs. In which order the pairs came
leaves no trace.
-/

namespace RdfMapping

namespace OrderedSet

theorem eq_of_mem_iff {s t : OrderedSet Term} (same : ∀ a, a ∈ s ↔ a ∈ t) : s = t := by
  have perm : s.toList.Perm t.toList := (List.perm_ext_iff_of_nodup s.nodup t.nodup).mpr same
  refine toList_injective (perm.eq_of_pairwise (fun a b _ _ below above => ?_) s.ascending
    t.ascending)
  rw [Std.OrientedCmp.gt_iff_lt.mpr below] at above
  cases above

theorem size_insert (s : OrderedSet Term) (x : Term) :
    (s.insert x).size = s.size + if x ∈ s.toList then 0 else 1 := by
  split
  · rename_i held
    have same : s.insert x = s := eq_of_mem_iff fun a => by
      rw [mem_insert]
      exact or_iff_right_of_imp fun here => here ▸ held
    rw [same]
    rfl
  · rename_i fresh
    have perm : (s.insert x).toList.Perm (x :: s.toList) := by
      refine (List.perm_ext_iff_of_nodup (s.insert x).nodup ?_).mpr fun a => ?_
      · exact List.nodup_cons.mpr ⟨fresh, s.nodup⟩
      · exact mem_insert.trans List.mem_cons.symm
    exact perm.length_eq

end OrderedSet

namespace ParentStore

/-- How many pairs of a key and a subject the entries hold. -/
def pairCount (entries : List (JoinKey × OrderedSet Term)) : Nat :=
  (entries.map fun entry => entry.2.size).sum

section

variable (entries : List (JoinKey × OrderedSet Term)) (key : JoinKey) (subject : Term)

theorem keys_addTo : (addTo key subject entries).map Prod.fst =
    if key ∈ entries.map Prod.fst then entries.map Prod.fst
    else entries.map Prod.fst ++ [key] := by
  induction entries with
  | nil => rfl
  | cons entry rest ih =>
    obtain ⟨k, terms⟩ := entry
    by_cases held : k = key
    · simp [addTo, held]
    · have other : ¬ key = k := fun same => held same.symm
      simp only [addTo, if_neg held, List.map_cons, ih, List.mem_cons, other, false_or]
      split <;> rfl

theorem pairCount_addTo : pairCount (addTo key subject entries) =
    pairCount entries + if subject ∈ ((entries.lookup key).getD ∅).toList then 0 else 1 := by
  induction entries with
  | nil => rfl
  | cons entry rest ih =>
    obtain ⟨k, terms⟩ := entry
    by_cases held : k = key
    · subst held
      simp only [addTo, if_true, pairCount, List.map_cons, List.sum_cons, OrderedSet.size_insert,
        List.lookup_cons_self, Option.getD_some]
      omega
    · have other : (key == k) = false := beq_false_of_ne fun same => held same.symm
      simp only [addTo, if_neg held, List.lookup_cons, other]
      simp only [pairCount, List.map_cons, List.sum_cons] at ih ⊢
      rw [ih, Nat.add_assoc]

end

theorem lookup_of_mem {entries : List (JoinKey × OrderedSet Term)}
    (distinct : (entries.map Prod.fst).Nodup) {entry : JoinKey × OrderedSet Term}
    (member : entry ∈ entries) : entries.lookup entry.1 = some entry.2 := by
  induction entries with
  | nil => cases member
  | cons first rest ih =>
    obtain ⟨apart, distinct⟩ := List.nodup_cons.mp distinct
    rcases List.mem_cons.mp member with rfl | later
    · exact List.lookup_cons_self
    · have other : (entry.1 == first.1) = false :=
        beq_false_of_ne fun same => apart (same ▸ List.mem_map_of_mem later)
      rw [List.lookup_cons, other]
      exact ih distinct later

/-- The store holds these pairs and no others, and has counted them. -/
structure Holds (s : ParentStore) (pairs : List (JoinKey × Term)) : Prop where
  mem_lookup : ∀ key t, t ∈ s.lookup key ↔ (key, t) ∈ pairs
  distinct : (s.entries.map Prod.fst).Nodup
  mem_keys : ∀ key, key ∈ s.entries.map Prod.fst ↔ key ∈ pairs.map Prod.fst
  counted : s.termCount = pairCount s.entries

variable {s t : ParentStore} {pairs others : List (JoinKey × Term)}

theorem holds_empty : Holds .empty [] where
  mem_lookup _ _ := iff_of_false List.not_mem_nil List.not_mem_nil
  distinct := List.nodup_nil
  mem_keys _ := Iff.rfl
  counted := rfl

theorem Holds.sealed (holds : s.Holds pairs) : s.sealed.Holds pairs :=
  ⟨holds.mem_lookup, holds.distinct, holds.mem_keys, holds.counted⟩

theorem Holds.add (holds : s.Holds pairs) (pair : JoinKey × Term) :
    (s.add pair).Holds (pairs ++ [pair]) where
  mem_lookup key t := by
    rw [List.mem_append, List.mem_singleton, or_comm, ← holds.mem_lookup]
    exact mem_lookup_addTo s.entries pair.1 key pair.2 t
  distinct := by
    have keys := keys_addTo s.entries pair.1 pair.2
    rw [ParentStore.add, keys]
    split
    · exact holds.distinct
    · rename_i fresh
      exact List.nodup_append.mpr ⟨holds.distinct, List.nodup_singleton _, by
        rintro k listed _ here rfl
        exact fresh (List.mem_singleton.mp here ▸ listed)⟩
  mem_keys key := by
    have keys := keys_addTo s.entries pair.1 pair.2
    rw [ParentStore.add, keys, List.map_append, List.mem_append, ← holds.mem_keys]
    split
    · rename_i listed
      refine (or_iff_left_of_imp fun here => ?_).symm
      exact List.mem_singleton.mp here ▸ listed
    · exact List.mem_append
  counted := by
    rw [ParentStore.add, pairCount_addTo, holds.counted, lookup, ite_not]
    split <;> rfl

/-- The keys of the store are those of its pairs, each once. -/
theorem Holds.keys_perm (holds : s.Holds pairs) :
    (s.entries.map Prod.fst).Perm (pairs.map Prod.fst).eraseDups := by
  refine (List.perm_ext_iff_of_nodup holds.distinct (nodup_eraseDups _)).mpr fun key => ?_
  rw [holds.mem_keys, List.mem_eraseDups]

theorem Holds.size_eq (holds : s.Holds pairs) :
    s.size = (pairs.map Prod.fst).eraseDups.length := by
  rw [size, ← holds.keys_perm.length_eq, List.length_map]

theorem Holds.termCount_eq (holds : s.Holds pairs) :
    s.termCount =
      ((pairs.map Prod.fst).eraseDups.map fun key => (s.lookup key).toList.length).sum := by
  have sizes : (s.entries.map fun entry => entry.2.size) =
      (s.entries.map Prod.fst).map fun key => (s.lookup key).toList.length := by
    rw [List.map_map]
    refine List.map_congr_left fun entry member => ?_
    rw [Function.comp_apply, lookup, lookup_of_mem holds.distinct member]
    rfl
  rw [holds.counted, pairCount, sizes]
  exact (holds.keys_perm.map _).sum_nat

/-- Stores with the same pairs, come in whatever order, are the same to whoever asks. -/
theorem Holds.eq_of_perm (holds : s.Holds pairs) (also : t.Holds others)
    (perm : pairs.Perm others) :
    (∀ key, s.lookup key = t.lookup key) ∧ s.size = t.size ∧ s.termCount = t.termCount := by
  have lookups : ∀ key, s.lookup key = t.lookup key := fun key =>
    OrderedSet.eq_of_mem_iff fun subject => by
      rw [holds.mem_lookup, also.mem_lookup, perm.mem_iff]
  have keys : (pairs.map Prod.fst).eraseDups.Perm (others.map Prod.fst).eraseDups := by
    refine (List.perm_ext_iff_of_nodup (nodup_eraseDups _) (nodup_eraseDups _)).mpr fun key => ?_
    rw [List.mem_eraseDups, List.mem_eraseDups, (perm.map Prod.fst).mem_iff]
  refine ⟨lookups, ?_, ?_⟩
  · rw [holds.size_eq, also.size_eq, keys.length_eq]
  · rw [holds.termCount_eq, also.termCount_eq, funext lookups]
    exact (keys.map _).sum_nat

inductive Request where
  | insert (key : JoinKey) (subject : Term)
  | close
  deriving DecidableEq

inductive Reply where
  | inserted (new : Bool)
  | closed
  | refused (fault : Fault)

/-- A request and the reply to it. -/
structure Event where
  request : Request
  reply : Reply

def Reply.ofOutcome : Except Fault Bool → Reply
  | .ok new => .inserted new
  | .error f => .refused f

/-- The reply and the store that the call behind it leaves, refused or not. -/
def handle (s : ParentStore) : Request → Reply × ParentStore
  | .insert key subject => (s.insert key subject).map .ofOutcome id
  | .close => (.closed, s.sealed)

/-- What happened, the last at the end, and the store behind it. -/
def serve (s : ParentStore) (requests : List Request) : List Event × ParentStore :=
  requests.foldl (fun past request =>
    (past.1 ++ [⟨request, (past.2.handle request).1⟩], (past.2.handle request).2)) ([], s)

def Event.taken? : Event → Option (JoinKey × Term)
  | ⟨.insert key subject, .inserted _⟩ => some (key, subject)
  | _ => none

/-- The pairs that were inserted, in order. -/
def taken (events : List Event) : List (JoinKey × Term) := events.filterMap Event.taken?

def Request.pair? : Request → Option (JoinKey × Term)
  | .insert key subject => some (key, subject)
  | .close => none

theorem serve_concat (s : ParentStore) (requests : List Request) (request : Request) :
    s.serve (requests ++ [request]) =
      ((s.serve requests).1 ++ [⟨request, ((s.serve requests).2.handle request).1⟩],
        ((s.serve requests).2.handle request).2) := by
  simp only [serve, List.foldl_append, List.foldl_cons, List.foldl_nil]

theorem taken_concat (events : List Event) (event : Event) :
    taken (events ++ [event]) = taken events ++ event.taken?.toList := by
  rw [taken, List.filterMap_append]
  cases found : event.taken? <;> simp [taken, found]

theorem close_mem_concat_insert {requests : List Request} {key : JoinKey} {subject : Term} :
    .close ∈ requests ++ [.insert key subject] ↔ Request.close ∈ requests := by
  simp

theorem handle_insert_of_open (opened : s.isSealed = false) (key : JoinKey) (subject : Term) :
    s.handle (.insert key subject) =
      (.inserted (decide (subject ∉ (s.lookup key).toList)), s.add (key, subject)) := by
  rw [handle, insert_of_open opened]
  rfl

theorem handle_insert_of_sealed (done : s.isSealed = true) (key : JoinKey) (subject : Term) :
    s.handle (.insert key subject) = (.refused Fault.sealedStore, s) := by
  rw [handle, insert_of_sealed done]
  rfl

/-- The store holds what was taken, and is sealed if it was closed. -/
structure Tracks (requests : List Request) (past : List Event × ParentStore) : Prop where
  holds : past.2.Holds (taken past.1)
  isSealed : past.2.isSealed = true ↔ .close ∈ requests

theorem Tracks.handle {requests : List Request} {past : List Event × ParentStore}
    (tracks : Tracks requests past) (request : Request) :
    Tracks (requests ++ [request])
      (past.1 ++ [⟨request, (past.2.handle request).1⟩], (past.2.handle request).2) := by
  obtain ⟨holds, isSealed⟩ := tracks
  cases request with
  | close =>
    refine ⟨?_, iff_of_true rfl (List.mem_append_right _ (List.mem_singleton_self _))⟩
    have same : taken (past.1 ++ [⟨.close, .closed⟩]) = taken past.1 := by
      rw [taken_concat]
      exact List.append_nil _
    exact same ▸ holds.sealed
  | insert key subject =>
    cases done : past.2.isSealed with
    | true =>
      have same : taken (past.1 ++ [⟨.insert key subject, .refused Fault.sealedStore⟩]) =
          taken past.1 := by
        rw [taken_concat]
        exact List.append_nil _
      rw [handle_insert_of_sealed done]
      exact ⟨same ▸ holds, isSealed.trans close_mem_concat_insert.symm⟩
    | false =>
      rw [handle_insert_of_open done]
      refine ⟨?_, ?_⟩
      · rw [taken_concat]
        exact holds.add (key, subject)
      · exact isSealed.trans close_mem_concat_insert.symm

theorem tracks_serve (requests : List Request) : Tracks requests (serve .empty requests) := by
  induction requests using List.reverseRecOn with
  | nil => exact ⟨holds_empty, iff_of_false Bool.false_ne_true List.not_mem_nil⟩
  | append_singleton requests request ih =>
    rw [serve_concat]
    exact ih.handle request

/-- The reply to an insertion is a refusal after the store was closed, and else tells whether
the pair is new. -/
theorem Tracks.reply {requests : List Request} {past : List Event × ParentStore}
    (tracks : Tracks requests past) (key : JoinKey) (subject : Term) :
    (.close ∈ requests → past.2.handle (.insert key subject) =
      (.refused Fault.sealedStore, past.2)) ∧
    (.close ∉ requests → past.2.handle (.insert key subject) =
      (.inserted (decide ((key, subject) ∉ taken past.1)), past.2.add (key, subject))) := by
  obtain ⟨holds, isSealed⟩ := tracks
  constructor
  · intro closed
    exact handle_insert_of_sealed (isSealed.mpr closed) key subject
  · intro waits
    have opened : past.2.isSealed = false := Bool.eq_false_iff.mpr (mt isSealed.mp waits)
    have held : subject ∈ (past.2.lookup key).toList ↔ (key, subject) ∈ taken past.1 :=
      holds.mem_lookup key subject
    rw [handle_insert_of_open opened, decide_eq_decide.mpr (not_congr held)]

/-- What is taken next depends on no more than whether the store was closed. -/
theorem taken_serve_concat (requests : List Request) (request : Request) :
    taken (serve .empty (requests ++ [request])).1 = taken (serve .empty requests).1 ++
      if .close ∈ requests then [] else request.pair?.toList := by
  rw [serve_concat, taken_concat]
  cases request with
  | close => simp [Event.taken?, Request.pair?]
  | insert key subject =>
    obtain ⟨refused, inserted⟩ := (tracks_serve requests).reply key subject
    split
    · rename_i closed
      rw [refused closed]
      rfl
    · rename_i waits
      rw [inserted waits]
      rfl

/-- Asks for all pairs to be inserted. -/
def insertions (pairs : List (JoinKey × Term)) : List Request :=
  pairs.map fun pair => .insert pair.1 pair.2

theorem close_not_mem_insertions (pairs : List (JoinKey × Term)) :
    .close ∉ insertions pairs := by
  simp [insertions]

theorem taken_insertions (pairs : List (JoinKey × Term)) :
    taken (serve .empty (insertions pairs)).1 = pairs := by
  induction pairs using List.reverseRecOn with
  | nil => rfl
  | append_singleton pairs pair ih =>
    have split : insertions (pairs ++ [pair]) = insertions pairs ++ [.insert pair.1 pair.2] :=
      List.map_append
    rw [split, taken_serve_concat, ih, if_neg (close_not_mem_insertions pairs)]
    rfl

theorem taken_perm (perm : pairs.Perm others) (rest : List Request) :
    (taken (serve .empty (insertions pairs ++ rest)).1).Perm
      (taken (serve .empty (insertions others ++ rest)).1) := by
  induction rest using List.reverseRecOn with
  | nil => rwa [List.append_nil, List.append_nil, taken_insertions, taken_insertions]
  | append_singleton rest request ih =>
    have closed : .close ∈ insertions pairs ++ rest ↔ .close ∈ insertions others ++ rest := by
      simp only [List.mem_append, close_not_mem_insertions, false_or]
    rw [← List.append_assoc, ← List.append_assoc, taken_serve_concat, taken_serve_concat]
    simp only [closed]
    exact ih.append_right _

/-- What a store tells that holds these pairs: under each key their subjects, in ascending order,
and how many keys and how many pairs there are. -/
structure Tells (s : ParentStore) (pairs : List (JoinKey × Term)) : Prop where
  ascending : ∀ key, (s.lookup key).toList.Pairwise fun a b => compare a b = .lt
  mem_lookup : ∀ key t, t ∈ (s.lookup key).toList ↔ (key, t) ∈ pairs
  size : s.size = (pairs.map Prod.fst).eraseDups.length
  termCount : s.termCount =
    ((pairs.map Prod.fst).eraseDups.map fun key => (s.lookup key).toList.length).sum

theorem Holds.tells (holds : s.Holds pairs) : s.Tells pairs :=
  ⟨fun key => (s.lookup key).ascending, holds.mem_lookup, holds.size_eq, holds.termCount_eq⟩

/--
After any requests, an insertion is refused if the store was closed, and then changes nothing;
otherwise the reply says whether the pair is one that was not taken before. The store tells the
pairs that were taken, and nothing of the order in which they came before it was closed.
-/
theorem serves_as_multimap :
    (∀ requests key subject,
      (.close ∈ requests → (serve .empty requests).2.handle (.insert key subject) =
        (.refused Fault.sealedStore, (serve .empty requests).2)) ∧
      (.close ∉ requests → ((serve .empty requests).2.handle (.insert key subject)).1 =
        .inserted (decide ((key, subject) ∉ taken (serve .empty requests).1)))) ∧
    (∀ requests, (serve .empty requests).2.Tells (taken (serve .empty requests).1)) ∧
    ∀ pairs others rest, pairs.Perm others →
      (∀ key, (serve .empty (insertions pairs ++ rest)).2.lookup key =
        (serve .empty (insertions others ++ rest)).2.lookup key) ∧
      (serve .empty (insertions pairs ++ rest)).2.size =
        (serve .empty (insertions others ++ rest)).2.size ∧
      (serve .empty (insertions pairs ++ rest)).2.termCount =
        (serve .empty (insertions others ++ rest)).2.termCount := by
  refine ⟨fun requests key subject => ?_, fun requests => (tracks_serve requests).holds.tells,
    fun pairs others rest perm => ?_⟩
  · obtain ⟨refused, inserted⟩ := (tracks_serve requests).reply key subject
    exact ⟨refused, fun waits => congrArg Prod.fst (inserted waits)⟩
  · exact (tracks_serve _).holds.eq_of_perm (tracks_serve _).holds (taken_perm perm rest)

end ParentStore

namespace Airports

def airport (name : String) : Term := .iri ("urn:airport:" ++ name)

/-- The second has a key that only begins like that of the others. -/
def pairs : List (JoinKey × Term) :=
  [(["JFK", "US"], airport "kennedy"), (["JFK"], airport "kennedy"),
    (["JFK", "US"], airport "idlewild"), (["JFK", "US"], airport "kennedy")]

def requests : List ParentStore.Request := ParentStore.insertions pairs

def store : ParentStore := (ParentStore.serve .empty requests).2

end Airports

theorem airports_serve_as_multimap :
    .close ∉ Airports.requests ∧ .close ∈ Airports.requests ++ [.close] ∧
    (Airports.store.handle (.insert ["JFK"] (Airports.airport "kennedy"))).1 =
      .inserted false ∧
    (Airports.store.handle (.insert ["LHR", "UK"] (Airports.airport "kennedy"))).1 =
      .inserted true ∧
    ((ParentStore.serve .empty (Airports.requests ++ [.close])).2.handle
      (.insert ["LHR", "UK"] (Airports.airport "kennedy"))).1 = .refused Fault.sealedStore ∧
    Airports.store.Tells Airports.pairs ∧
    (Airports.store.lookup ["JFK", "US"]).toList =
      [Airports.airport "idlewild", Airports.airport "kennedy"] ∧
    Airports.store.size = 2 ∧ Airports.store.termCount = 3 ∧
    Airports.pairs.Perm Airports.pairs.reverse ∧
    ∀ key, Airports.store.lookup key = (ParentStore.serve .empty
      (ParentStore.insertions Airports.pairs.reverse)).2.lookup key := by
  obtain ⟨replies, tells, order⟩ := ParentStore.serves_as_multimap
  have opened : .close ∉ Airports.requests := ParentStore.close_not_mem_insertions _
  have closed : .close ∈ Airports.requests ++ [.close] :=
    List.mem_append_right _ (List.mem_singleton_self _)
  have perm : Airports.pairs.Perm Airports.pairs.reverse := (List.reverse_perm _).symm
  obtain ⟨lookups, -⟩ := order _ _ [] perm
  rw [List.append_nil, List.append_nil] at lookups
  refine ⟨opened, closed, ?_, ?_, ?_, ?_, by decide, by decide, by decide, perm, lookups⟩
  · exact ((replies _ _ _).2 opened).trans (congrArg ParentStore.Reply.inserted (by decide))
  · exact ((replies _ _ _).2 opened).trans (congrArg ParentStore.Reply.inserted (by decide))
  · exact congrArg Prod.fst ((replies _ _ _).1 closed)
  · exact ParentStore.taken_insertions Airports.pairs ▸ tells Airports.requests

end RdfMapping
