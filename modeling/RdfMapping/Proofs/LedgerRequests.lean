import RdfMapping.Proofs.Barrier
import RdfMapping.Proofs.Drafting

/-!
# Requests to a ledger in any order

Whoever asks a ledger, and in whatever order, it takes what it can and refuses the rest. A
refused request changes nothing. What was taken for a join is used once, by the one request
that resolves it, whether the join was handed out before or not.
-/

namespace RdfMapping

namespace Ledger

/-- Joins are registered with a store that was opened for their own parent. -/
inductive Prepared : Ledger → Prop where
  | empty : Prepared .empty
  | storeFor {l : Ledger} (earlier : Prepared l) (parent : Nat) (expressions : List String) :
    Prepared (l.storeFor parent expressions).2
  | register {l : Ledger} (earlier : Prepared l) (spec : JoinSpec) (expressions : List String)
      (own : l.storeFor spec.parent expressions = (spec.store, l)) :
    Prepared (l.register spec).2

inductive Request where
  | insert (store : Nat) (key : JoinKey) (subject : Term)
  | buffer (join : Nat) (entry : ChildEntry)
  | markComplete (map : Nat)
  | resolve (join : Nat)

inductive Reply where
  | inserted (new : Bool)
  | buffered
  | ready (joins : List Nat)
  | resolved (quads : List Quad)
  | refused (fault : Fault)

/-- A request and the reply to it. -/
structure Event where
  request : Request
  reply : Reply

def Reply.ofOutcome {α : Type} (given : α → Reply) : Except Fault α → Reply
  | .ok a => given a
  | .error f => .refused f

/-- The reply and the ledger that the call behind it leaves, refused or not. -/
def handle (l : Ledger) : Request → Reply × Ledger
  | .insert store key subject => (l.insert store key subject).map (.ofOutcome .inserted) id
  | .buffer join entry => (l.buffer join entry).map (.ofOutcome fun _ => .buffered) id
  | .markComplete map => (l.markComplete map).map .ready id
  | .resolve join => (l.resolve join).map (.ofOutcome .resolved) id

/-- What happened, the last at the end, and the ledger behind it. -/
def serve (l : Ledger) (requests : List Request) : List Event × Ledger :=
  requests.foldl (fun past request =>
    (past.1 ++ [⟨request, (past.2.handle request).1⟩], (past.2.handle request).2)) ([], l)

namespace Event

/-- What the ledger took. -/
def posting? : Event → Option Posting
  | ⟨.insert store key subject, .inserted _⟩ => some (.parent store key subject)
  | ⟨.buffer join entry, .buffered⟩ => some (.child join entry)
  | _ => none

def marked? : Event → Option Nat
  | ⟨.markComplete map, _⟩ => some map
  | _ => none

def ready : Event → List Nat
  | ⟨_, .ready joins⟩ => joins
  | _ => []

def resolved? : Event → Option Nat
  | ⟨.resolve join, .resolved _⟩ => some join
  | _ => none

end Event

def accepted (events : List Event) : List Posting := events.filterMap Event.posting?

def marked (events : List Event) : List Nat := events.filterMap Event.marked?

def released (events : List Event) : List Nat := events.flatMap Event.ready

def settled (events : List Event) : List Nat := events.filterMap Event.resolved?

theorem serve_concat (l : Ledger) (requests : List Request) (request : Request) :
    l.serve (requests ++ [request]) =
      ((l.serve requests).1 ++ [⟨request, ((l.serve requests).2.handle request).1⟩],
        ((l.serve requests).2.handle request).2) := by
  simp only [serve, List.foldl_append, List.foldl_cons, List.foldl_nil]

section

variable (events : List Event) (event : Event)

@[simp] theorem accepted_concat :
    accepted (events ++ [event]) = accepted events ++ event.posting?.toList := by
  rw [accepted, List.filterMap_append, filterMap_singleton]
  rfl

@[simp] theorem marked_concat :
    marked (events ++ [event]) = marked events ++ event.marked?.toList := by
  rw [marked, List.filterMap_append, filterMap_singleton]
  rfl

@[simp] theorem released_concat :
    released (events ++ [event]) = released events ++ event.ready := by
  rw [released, List.flatMap_append, List.flatMap_singleton]
  rfl

@[simp] theorem settled_concat :
    settled (events ++ [event]) = settled events ++ event.resolved?.toList := by
  rw [settled, List.filterMap_append, filterMap_singleton]
  rfl

end

section

variable {l m : Ledger} {events : List Event} {request : Request}

theorem Prepared.fresh (prepared : l.Prepared) : l.Fresh := by
  induction prepared with
  | empty => exact empty_fresh
  | storeFor _ parent expressions ih => exact ih.storeFor parent expressions
  | register _ spec _ _ ih => exact ih.register spec

theorem Linked.grows (linked : l.Linked) (grows : l.Grows m)
    (same : m.joins = l.joins) : m.Linked := by
  intro i join found
  obtain ⟨slot, stored, parent⟩ := linked i join (by rwa [join?, ← same])
  exact ⟨slot, grows.stores? stored, parent⟩

theorem Prepared.linked (prepared : l.Prepared) : l.Linked := by
  induction prepared with
  | empty =>
    intro i join found
    cases found
  | @storeFor l _ parent expressions ih =>
    exact ih.grows (storeFor_grows l parent expressions) (storeFor_joins l parent expressions)
  | @register l _ spec expressions own ih =>
    intro i join found
    have stores : (l.register spec).2.stores = l.stores := rfl
    rw [join?, Ledger.register, List.getElem?_append] at found
    rw [stores]
    split at found
    · exact ih i join found
    · have opened := storeFor_slot l spec.parent expressions
      rw [own] at opened
      obtain ⟨slot, stored, same⟩ := Option.map_eq_some_iff.mp opened
      have last := List.mem_of_getElem? found
      rw [List.mem_singleton.mp last]
      exact ⟨slot, stored, congrArg Prod.fst same⟩

theorem phase_goes_setJoin {i : Nat} {held next : Join} (found : l.join? i = some held)
    (goes : held.phase.Goes next.phase) {j : Nat} {p : JoinPhase} (before : l.phase? j = some p) :
    ∃ q, (l.setJoin i next).phase? j = some q ∧ p.Goes q := by
  by_cases here : i = j
  · subst here
    rw [phase?, found] at before
    cases before
    obtain ⟨inside, -⟩ := List.getElem?_eq_some_iff.mp found
    refine ⟨next.phase, ?_, goes⟩
    simp [phase?, join?, setJoin, inside]
  · refine ⟨p, ?_, .stays p⟩
    rw [← before]
    simp [phase?, join?, setJoin, here]

theorem phase_goes_markComplete (map : Nat) {j : Nat} {p : JoinPhase}
    (before : l.phase? j = some p) :
    ∃ q, (l.markComplete map).2.phase? j = some q ∧ p.Goes q := by
  obtain ⟨join, found, rfl⟩ := Option.map_eq_some_iff.mp before
  rw [join?] at found
  by_cases waits : join.spec.child = map ∧ join.phase = .pending
  · refine ⟨.awaitingParent, ?_, waits.2 ▸ .waits⟩
    simp [phase?, join?, markComplete, found, waits]
  · refine ⟨join.phase, ?_, .stays _⟩
    simp [phase?, join?, markComplete, found, waits]

theorem join?_take (postings : List Posting) (i : Nat) :
    (l.take postings).join? i = (l.join? i).map (Join.receive · (entriesFor i postings)) := by
  simp [join?, take]

theorem phase_goes_take {posting : Posting} (accepts : l.Accepts posting) {j : Nat}
    {p : JoinPhase} (before : l.phase? j = some p) :
    ∃ q, (l.take [posting]).phase? j = some q ∧ p.Goes q := by
  obtain ⟨join, found, rfl⟩ := Option.map_eq_some_iff.mp before
  refine ⟨(join.receive (entriesFor j [posting])).phase, ?_, ?_⟩
  · rw [phase?, join?_take, found]
    rfl
  · by_cases none : entriesFor j [posting] = []
    · rw [none, Join.receive_nil]
      exact .stays _
    · obtain ⟨entry, member⟩ := List.exists_mem_of_ne_nil _ none
      cases List.mem_singleton.mp (mem_entriesFor.mp member)
      obtain ⟨held, here, unresolved⟩ := accepts
      cases found.symm.trans here
      rw [Join.receive, if_neg none]
      cases phase : join.phase with
      | pending => exact .waits
      | awaitingParent => exact .stays _
      | resolved => exact (unresolved phase).elim

/-- What a request comes to. -/
inductive Deals (l : Ledger) : Request → Reply × Ledger → Prop where
  | inserted {store : Nat} {key : JoinKey} {subject : Term} (new : Bool)
      (accepts : l.Accepts (.parent store key subject)) :
      Deals l (.insert store key subject) (.inserted new, l.take [.parent store key subject])
  | buffered {join : Nat} {entry : ChildEntry} (accepts : l.Accepts (.child join entry)) :
      Deals l (.buffer join entry) (.buffered, l.take [.child join entry])
  | ready (map : Nat) :
      Deals l (.markComplete map) (.ready (l.markComplete map).1, (l.markComplete map).2)
  | resolved {join : Nat} {quads : List Quad} (resolved : (l.resolve join).1 = .ok quads) :
      Deals l (.resolve join) (.resolved quads, (l.resolve join).2)
  | refused (request : Request) (fault : Fault) : Deals l request (.refused fault, l)

theorem handle_deals (l : Ledger) (request : Request) : l.Deals request (l.handle request) := by
  cases request with
  | insert store key subject =>
    by_cases accepts : l.Accepts (.parent store key subject)
    · rw [handle, insert_eq_take accepts]
      exact .inserted _ accepts
    · obtain ⟨f, refused⟩ := insert_of_not_accepts accepts
      rw [handle, refused]
      exact .refused _ f
  | buffer join entry =>
    by_cases accepts : l.Accepts (.child join entry)
    · rw [handle, buffer_eq_take accepts]
      exact .buffered accepts
    · obtain ⟨f, refused⟩ := buffer_of_not_accepts accepts
      rw [handle, refused]
      exact .refused _ f
  | markComplete map => exact .ready map
  | resolve join =>
    rcases l.resolve_cases join with ⟨_, -, -, -, ran⟩ | ⟨f, refused⟩
    · have deals := Deals.resolved (congrArg Prod.fst ran)
      rw [ran] at deals
      rw [handle, ran]
      exact deals
    · rw [handle, refused]
      exact .refused _ f

section

variable {answer : Reply × Ledger}

/-- A request leaves each join in its phase or takes it to the next. -/
theorem Deals.phase_goes (deals : l.Deals request answer) {j : Nat} {p : JoinPhase}
    (before : l.phase? j = some p) : ∃ q, answer.2.phase? j = some q ∧ p.Goes q := by
  cases deals with
  | inserted new accepts => exact phase_goes_take accepts before
  | buffered accepts => exact phase_goes_take accepts before
  | ready map => exact phase_goes_markComplete map before
  | resolved resolved =>
    obtain ⟨held, found, waits, -, -, behind⟩ := resolve_ok resolved
    rw [behind]
    exact phase_goes_setJoin found (waits ▸ .resolves) before
  | refused _ fault => exact ⟨p, before, .stays p⟩

theorem Deals.eq_of_refused (deals : l.Deals request answer) {fault : Fault}
    (refused : answer.1 = .refused fault) : answer.2 = l := by
  cases deals with
  | refused _ fault => rfl
  | _ => cases refused

theorem Deals.resolve_eq {j : Nat} (deals : l.Deals (.resolve j) answer) {quads : List Quad}
    (resolved : answer.1 = .resolved quads) : (l.resolve j).1 = .ok quads := by
  cases deals with
  | resolved answered =>
    cases resolved
    exact answered
  | refused _ fault => cases resolved

end

section

variable {postings : List Posting} {completed : List Nat} {j : Nat} {quads : List Quad}

/-- The quads of all entries for the join, with a store that is sealed. -/
def Gave (l : Ledger) (postings : List Posting) (completed : List Nat) (j : Nat)
    (quads : List Quad) : Prop :=
  ∃ join slot, l.join? j = some join ∧ l.stores[join.spec.store]? = some slot ∧
    slot.parent ∈ completed ∧ quads = (entriesFor j postings).flatMap
      (entryQuads (slot.after (pairsFor join.spec.store postings) completed).store
        join.spec.targets)

/-- Nothing more is taken for a join that is resolved, nor for its store. -/
theorem Gave.accept {resolved : List Nat} {posting : Posting}
    (gave : l.Gave postings completed j quads) (done : j ∈ resolved)
    (accepts : (l.after postings completed resolved).Accepts posting) :
    l.Gave (postings ++ [posting]) completed j quads := by
  obtain ⟨join, slot, found, stored, complete, rfl⟩ := gave
  have entries : entriesFor j [posting] = [] := by
    refine List.eq_nil_iff_forall_not_mem.mpr fun entry member => ?_
    cases List.mem_singleton.mp (mem_entriesFor.mp member)
    obtain ⟨held, here, unresolved⟩ := accepts
    rw [join?_after, found] at here
    cases here
    simp [Join.after, done] at unresolved
  have pairs : pairsFor join.spec.store [posting] = [] := by
    refine List.eq_nil_iff_forall_not_mem.mpr fun pair member => ?_
    cases List.mem_singleton.mp (mem_pairsFor.mp member)
    have opened := accepts (slot.after (pairsFor join.spec.store postings) completed) (by
      simp [after, stored])
    simp [StoreSlot.after, complete] at opened
  refine ⟨join, slot, found, stored, complete, ?_⟩
  rw [entriesFor_append, entries, List.append_nil, pairsFor_append, pairs, List.append_nil]

theorem Gave.complete (gave : l.Gave postings completed j quads) (map : Nat) :
    l.Gave postings (completed ++ [map]) j quads := by
  obtain ⟨join, slot, found, stored, complete, rfl⟩ := gave
  refine ⟨join, slot, found, stored, List.mem_append_left _ complete, ?_⟩
  simp [StoreSlot.after, complete]

end

/-- The ledger `m` is `l` behind these events, with these triples maps complete. -/
structure Follows (l : Ledger) (events : List Event) (completed : List Nat) (m : Ledger) :
    Prop where
  ledger : m = l.after (accepted events) completed (settled events)
  marks : completed ⊆ marked events
  mem_released : ∀ j, j ∈ released events ↔
    ∃ join, l.join? j = some join ∧ isResolvable completed join
  released : (released events).Nodup
  settled : (settled events).Nodup
  gave : ∀ j quads, ⟨.resolve j, .resolved quads⟩ ∈ events →
    l.Gave (accepted events) completed j quads

theorem follows_start (fresh : l.Fresh) : l.Follows [] [] l where
  ledger := (after_fresh fresh).symm
  marks := List.nil_subset _
  mem_released j := by simp [Ledger.released, isResolvable]
  released := .nil
  settled := .nil
  gave j quads member := (List.not_mem_nil member).elim

namespace Follows

variable {completed : List Nat} {event : Event}

theorem gave_concat (follows : l.Follows events completed m) {postings : List Posting}
    {later : List Nat} (other : event.resolved? = none)
    (kept : ∀ j quads, j ∈ Ledger.settled events → l.Gave (accepted events) completed j quads →
      l.Gave postings later j quads) (j : Nat) (quads : List Quad)
    (member : ⟨.resolve j, .resolved quads⟩ ∈ events ++ [event]) :
    l.Gave postings later j quads := by
  rcases List.mem_append.mp member with before | now
  · exact kept j quads (List.mem_filterMap.mpr ⟨_, before, rfl⟩) (follows.gave j quads before)
  · rw [← List.mem_singleton.mp now] at other
    cases other

/-- A request that was refused, or a map that was complete before. -/
theorem idle (follows : l.Follows events completed m) (refused : event.posting? = none)
    (nothing : event.ready = []) (other : event.resolved? = none) :
    l.Follows (events ++ [event]) completed m where
  ledger := by simpa [refused, other] using follows.ledger
  marks := by
    rw [marked_concat]
    exact List.subset_append_of_subset_left _ follows.marks
  mem_released := by simpa [nothing] using follows.mem_released
  released := by simpa [nothing] using follows.released
  settled := by simpa [other] using follows.settled
  gave := by
    refine follows.gave_concat other fun _ _ _ gave => ?_
    simpa [refused] using gave

theorem take (follows : l.Follows events completed m) {posting : Posting}
    (accepts : m.Accepts posting) (took : event.posting? = some posting)
    (nothing : event.ready = []) (other : event.resolved? = none) :
    l.Follows (events ++ [event]) completed (m.take [posting]) := by
  rw [follows.ledger] at accepts
  have after : m.take [posting] =
        l.after (accepted events ++ [posting]) completed (Ledger.settled events) := by
    rw [follows.ledger]
    exact take_after (List.forall_mem_singleton.mpr accepts)
  exact {
    ledger := by simpa [took, other] using after
    marks := by
      rw [marked_concat]
      exact List.subset_append_of_subset_left _ follows.marks
    mem_released := by simpa [nothing] using follows.mem_released
    released := by simpa [nothing] using follows.released
    settled := by simpa [other] using follows.settled
    gave := by
      refine follows.gave_concat other fun _ _ done gave => ?_
      simpa [took] using gave.accept done accepts }

theorem complete (follows : l.Follows events completed m) (map : Nat) :
    ∃ later, l.Follows (events ++ [⟨.markComplete map, .ready (m.markComplete map).1⟩]) later
      (m.markComplete map).2 := by
  by_cases done : map ∈ completed
  · have ran : m.markComplete map = ([], m) := by
      rw [follows.ledger, markComplete_again done]
    rw [ran]
    exact ⟨completed, follows.idle rfl rfl rfl⟩
  · have ran : m.markComplete map = (l.readied completed map,
        l.after (accepted events) (completed ++ [map]) (Ledger.settled events)) := by
      rw [follows.ledger, markComplete_after done]
    rw [ran]
    refine ⟨completed ++ [map], ?_⟩
    exact {
      ledger := by simp [Event.posting?, Event.resolved?]
      marks := by
        rw [marked_concat]
        exact List.append_subset.mpr ⟨List.subset_append_of_subset_left _ follows.marks,
          List.subset_append_right _ _⟩
      mem_released := by
        intro j
        rw [released_concat, List.mem_append, follows.mem_released]
        exact resolvable_or_readied map j
      released := by
        rw [released_concat]
        refine follows.released.append (nodup_readied map) fun j before readied => ?_
        exact not_resolvable_of_readied readied ((follows.mem_released j).mp before)
      settled := by simpa [Event.resolved?] using follows.settled
      gave := by
        refine follows.gave_concat rfl fun _ _ _ gave => ?_
        simpa [Event.posting?] using gave.complete map }

theorem resolve (linked : l.Linked) (follows : l.Follows events completed m) {j : Nat}
    {quads : List Quad} (answered : (m.resolve j).1 = .ok quads) :
    l.Follows (events ++ [⟨.resolve j, .resolved quads⟩]) completed (m.resolve j).2 := by
  rw [follows.ledger] at answered ⊢
  obtain ⟨new, behind, gave⟩ := resolve_after_ok linked answered
  exact {
    ledger := by simpa [Event.posting?, Event.resolved?] using behind
    marks := by
      rw [marked_concat]
      exact List.subset_append_of_subset_left _ follows.marks
    mem_released := by simpa [Event.ready] using follows.mem_released
    released := by simpa [Event.ready] using follows.released
    settled := by
      rw [settled_concat]
      exact follows.settled.append (List.nodup_singleton j) (List.disjoint_singleton.mpr new)
    gave := by
      intro i given member
      simp only [accepted_concat, Event.posting?, Option.toList_none, List.append_nil]
      rcases List.mem_append.mp member with before | now
      · exact follows.gave i given before
      · cases List.mem_singleton.mp now
        exact gave }

theorem deals (linked : l.Linked) (follows : l.Follows events completed m)
    {answer : Reply × Ledger} (deals : m.Deals request answer) :
    ∃ later, l.Follows (events ++ [⟨request, answer.1⟩]) later answer.2 := by
  cases deals with
  | inserted new accepts => exact ⟨completed, follows.take accepts rfl rfl rfl⟩
  | buffered accepts => exact ⟨completed, follows.take accepts rfl rfl rfl⟩
  | ready map => exact follows.complete map
  | resolved answered => exact ⟨completed, follows.resolve linked answered⟩
  | refused request fault =>
    exact ⟨completed, follows.idle (by cases request <;> rfl) rfl (by cases request <;> rfl)⟩

end Follows

theorem Prepared.follows (prepared : l.Prepared) (requests : List Request) :
    ∃ completed, l.Follows (l.serve requests).1 completed (l.serve requests).2 := by
  induction requests using List.reverseRec with
  | nil => exact ⟨[], follows_start prepared.fresh⟩
  | append_singleton requests request ih =>
    obtain ⟨completed, follows⟩ := ih
    rw [serve_concat]
    exact follows.deals prepared.linked (handle_deals _ request)

/--
Whatever a prepared ledger is asked, and in whatever order: a join is resolved at most once,
and handed out at most once, after both its triples maps were marked. A join that was resolved
gave the quads of all entries that were ever accepted for it, each once. Whatever is asked
next leaves each join in its phase or takes it to the next, changes nothing if it is refused,
and resolves a join only if that waits and its store is sealed.
-/
theorem Prepared.serve_keeps (prepared : l.Prepared) (requests : List Request) :
    let events := (l.serve requests).1
    let m := (l.serve requests).2
    (settled events).Nodup ∧ (released events).Nodup ∧
    (∀ j ∈ released events, ∃ join, l.join? j = some join ∧
      join.spec.parent ∈ marked events ∧ join.spec.child ∈ marked events) ∧
    (∀ j quads, ⟨.resolve j, .resolved quads⟩ ∈ events →
      ∃ join store, l.join? j = some join ∧ m.store? join.spec.store = some store ∧
        quads = (entriesFor j (accepted events)).flatMap (entryQuads store join.spec.targets)) ∧
    ∀ request, let reply := (m.handle request).1
      let next := (m.handle request).2
      (∀ j p, m.phase? j = some p → ∃ q, next.phase? j = some q ∧ p.Goes q) ∧
      (∀ fault, reply = .refused fault → next = m) ∧
      ∀ j quads, request = .resolve j → reply = .resolved quads →
        ∃ join store, m.join? j = some join ∧ join.phase = .awaitingParent ∧
          m.store? join.spec.store = some store ∧ store.isSealed := by
  intro events m
  obtain ⟨completed, follows⟩ := prepared.follows requests
  refine ⟨follows.settled, follows.released, fun j member => ?_, fun j quads member => ?_,
    fun request => ⟨fun j p => (m.handle_deals request).phase_goes,
      fun fault => (m.handle_deals request).eq_of_refused, fun j quads asked resolved => ?_⟩⟩
  · obtain ⟨join, found, both⟩ := (follows.mem_released j).mp member
    obtain ⟨parent, child⟩ := isResolvable_iff.mp both
    exact ⟨join, found, follows.marks parent, follows.marks child⟩
  · obtain ⟨join, slot, found, stored, -, made⟩ := follows.gave j quads member
    refine ⟨join, _, found, ?_, made⟩
    change (l.serve requests).2.store? join.spec.store = _
    rw [follows.ledger, store?_after, stored]
    rfl
  · subst asked
    have answered := (m.handle_deals (.resolve j)).resolve_eq resolved
    obtain ⟨join, found, waits, isSealed, -, -⟩ := resolve_ok answered
    cases stored : m.store? join.spec.store with
    | none =>
      rw [stored] at isSealed
      cases isSealed
    | some store =>
      rw [stored] at isSealed
      exact ⟨join, store, found, waits, stored, isSealed⟩

end

namespace Early

def ledger : Ledger :=
  ((Ledger.empty.storeFor 0 ["id"]).2.register ⟨0, "urn:team", 1, "urn:person", 0, ∅⟩).2

theorem prepared : ledger.Prepared :=
  .register (.storeFor .empty 0 ["id"]) _ ["id"] rfl

def entry : ChildEntry where
  subjects := [(Term.iri "urn:person/7").unrouted]
  predicates := [(Term.iri "urn:member").unrouted]
  graphs := [none]
  keys := [["1"]]

/-- The second subject, the second entry and the second resolution come too late. -/
def requests : List Request :=
  [.resolve 0, .insert 0 ["1"] (.iri "urn:team/1"), .buffer 0 entry, .markComplete 0,
    .insert 0 ["1"] (.iri "urn:team/2"), .resolve 0, .buffer 0 entry, .resolve 0, .markComplete 1,
    .markComplete 1]

def events : List Event := (ledger.serve requests).1

end Early

theorem early_serve_keeps :
    Early.ledger.Prepared ∧ settled Early.events = [0] ∧ released Early.events = [0] ∧
    (entriesFor 0 (accepted Early.events)).length = 1 ∧
    ∃ quads, ⟨.resolve 0, .resolved quads⟩ ∈ Early.events ∧ quads.length = 1 ∧
      ∃ store, (Early.ledger.serve Early.requests).2.store? 0 = some store ∧
        quads = (entriesFor 0 (accepted Early.events)).flatMap (entryQuads store ∅) := by
  obtain ⟨-, -, -, gave, -⟩ := Early.prepared.serve_keeps Early.requests
  have answered : ∃ quads, Early.events[5]? = some ⟨.resolve 0, .resolved quads⟩ ∧
      quads.length = 1 := ⟨_, rfl, rfl⟩
  obtain ⟨quads, found, one⟩ := answered
  have member := List.mem_of_getElem? found
  obtain ⟨join, store, registered, stored, made⟩ := gave 0 quads member
  cases registered
  exact ⟨Early.prepared, rfl, rfl, rfl, quads, member, one, store, stored, made⟩

end Ledger

end RdfMapping
