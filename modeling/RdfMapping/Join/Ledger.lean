import RdfMapping.Join.ParentStore
import RdfMapping.Quad

/-!
# The join ledger

All joins of a run. Parents fill stores, which joins on the same parent and the
same expressions share; children leave entries with their keys. A join is handed
out for resolution once, when both of its triples maps are complete, and then
looks up every entry. Calls that can fail answer with the outcome and with the ledger
that they leave, whatever the outcome is.
-/

namespace RdfMapping

inductive JoinPhase where
  | pending
  | awaitingParent
  | resolved
  deriving DecidableEq, Repr

namespace JoinPhase

def name : JoinPhase → String
  | .pending => "Pending"
  | .awaitingParent => "AwaitingParentCompletion"
  | .resolved => "Resolved"

end JoinPhase

/-- A reference from a child to its parent; triples maps and stores are known by their places. -/
structure JoinSpec where
  parent : Nat
  parentIri : String
  child : Nat
  childIri : String
  store : Nat
  targets : Targets

/-- What a child record contributes to a join. -/
structure ChildEntry where
  subjects : List RoutedTerm
  predicates : List RoutedTerm
  graphs : List (Option RoutedTerm)
  keys : List JoinKey

structure Join where
  spec : JoinSpec
  phase : JoinPhase
  buffered : List ChildEntry
  /-- Handed out for resolution. -/
  claimed : Bool

/-- A store, with the parent that fills it and the expressions it is keyed by. -/
structure StoreSlot where
  parent : Nat
  expressions : List String
  store : ParentStore

structure Ledger where
  joins : List Join
  stores : List StoreSlot
  /-- The triples maps that have no more records. -/
  completed : List Nat

namespace Ledger

def empty : Ledger := ⟨[], [], []⟩

instance : Inhabited Ledger := ⟨empty⟩

/-- The store of a parent and a list of expressions, opened if there is none yet. -/
def storeFor (l : Ledger) (parent : Nat) (expressions : List String) : Nat × Ledger :=
  match l.stores.findIdx? fun s => s.parent = parent ∧ s.expressions = expressions with
  | some i => (i, l)
  | none => (l.stores.length, { l with stores := l.stores ++ [⟨parent, expressions, .empty⟩] })

def register (l : Ledger) (spec : JoinSpec) : Nat × Ledger :=
  (l.joins.length, { l with joins := l.joins ++ [⟨spec, .pending, [], false⟩] })

def size (l : Ledger) : Nat := l.joins.length

def join? (l : Ledger) (join : Nat) : Option Join := l.joins[join]?

def store? (l : Ledger) (store : Nat) : Option ParentStore := (l.stores[store]?).map (·.store)

/-- The stores that a triples map fills as a parent, in the order of their expressions. -/
def parentStores (l : Ledger) (parent : Nat) : List (List String × Nat) :=
  let found := l.stores.zipIdx.filterMap fun (s, i) =>
    if s.parent = parent then some (s.expressions, i) else none
  found.mergeSort fun a b => (compare a.1 b.1).isLE

def setStore (l : Ledger) (i : Nat) (store : ParentStore) : Ledger :=
  { l with stores := l.stores.modify i fun s => { s with store } }

/-- Adds a subject to a store. -/
def insert (l : Ledger) (i : Nat) (key : JoinKey) (term : Term) : Except Fault Bool × Ledger :=
  let (outcome, store) := ((l.store? i).getD .empty).insert key term
  (outcome, l.setStore i store)

def setJoin (l : Ledger) (i : Nat) (join : Join) : Ledger :=
  { l with joins := l.joins.set i join }

/-- Keeps the entry of a child record until the join is resolved. -/
def buffer (l : Ledger) (i : Nat) (entry : ChildEntry) : Except Fault Unit × Ledger :=
  match l.join? i with
  | none => (.error (Fault.unknownJoin i), l)
  | some join =>
    if join.phase = .resolved then (.error (Fault.lateChild join.spec.childIri), l)
    else (.ok (), l.setJoin i { join with
      phase := .awaitingParent
      buffered := join.buffered ++ [entry] })

/-- Both triples maps of the join are complete. -/
def isResolvable (completed : List Nat) (join : Join) : Bool :=
  completed.contains join.spec.parent && completed.contains join.spec.child

/--
Notes that a triples map has no more records: its stores are sealed and its joins
wait for their parents. Answers the joins that became resolvable by that.
-/
def markComplete (l : Ledger) (map : Nat) : List Nat × Ledger :=
  let stores := l.stores.map fun s =>
    if s.parent = map then { s with store := s.store.sealed } else s
  let joins := l.joins.map fun j =>
    if j.spec.child = map ∧ j.phase = .pending then { j with phase := .awaitingParent } else j
  let completed := if map ∈ l.completed then l.completed else l.completed ++ [map]
  let ready := joins.zipIdx.filterMap fun (j, i) =>
    if isResolvable completed j && !j.claimed then some i else none
  let joins := joins.map fun j => { j with claimed := j.claimed || isResolvable completed j }
  (ready, ⟨joins, stores, completed⟩)

/-- The parent subjects that share a key with an entry. -/
def matchedParents (store : ParentStore) (entry : ChildEntry) : OrderedSet Term :=
  entry.keys.foldl (fun parents key => parents.union (store.lookup key)) ∅

/-- The quads of an entry, in the order of parents, subjects, predicates and graphs. -/
def entryQuads (store : ParentStore) (targets : Targets) (entry : ChildEntry) : List Quad :=
  (matchedParents store entry).toList.flatMap fun parent =>
    entry.subjects.flatMap fun subject =>
      entry.predicates.flatMap fun predicate =>
        entry.graphs.map fun graph => ⟨subject, predicate, ⟨parent, targets⟩, graph⟩

/-- Looks up every entry of a join whose parent is complete. -/
def resolve (l : Ledger) (i : Nat) : Except Fault (List Quad) × Ledger :=
  match l.join? i with
  | none => (.error (Fault.unknownJoin i), l)
  | some join =>
    let store := (l.store? join.spec.store).getD .empty
    if join.phase ≠ .awaitingParent then
      (.error (Fault.wrongPhase join.spec.childIri join.spec.parentIri join.phase.name), l)
    else if !store.isSealed then
      (.error (Fault.unsealedStore join.spec.childIri join.spec.parentIri), l)
    else
      (.ok (join.buffered.flatMap (entryQuads store join.spec.targets)),
        l.setJoin i { join with phase := .resolved, buffered := [] })

end Ledger

end RdfMapping
