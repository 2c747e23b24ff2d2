import RdfMapping.Join.Key

/-!
# Stores of parent subjects

The subjects that the records of a parent have under each of their keys. A store
is filled while its parent is read and sealed when it is done; a sealed store
takes no more.
-/

namespace RdfMapping

structure ParentStore where
  entries : List (JoinKey × OrderedSet Term)
  /-- How many pairs of a key and a subject are held. -/
  termCount : Nat
  isSealed : Bool

namespace ParentStore

def empty : ParentStore := ⟨[], 0, false⟩

instance : Inhabited ParentStore := ⟨empty⟩

/-- The subjects under a key. -/
def lookup (s : ParentStore) (key : JoinKey) : OrderedSet Term :=
  (s.entries.lookup key).getD ∅

/-- How many keys have a subject. -/
def size (s : ParentStore) : Nat := s.entries.length

def addTo (key : JoinKey) (term : Term) :
    List (JoinKey × OrderedSet Term) → List (JoinKey × OrderedSet Term)
  | [] => [(key, OrderedSet.empty.insert term)]
  | (k, terms) :: rest =>
    if k = key then (k, terms.insert term) :: rest else (k, terms) :: addTo key term rest

/-- Adds a subject under a key, and says whether it was new there. -/
def insert (s : ParentStore) (key : JoinKey) (term : Term) : Except Fault Bool × ParentStore :=
  if s.isSealed then (.error Fault.sealedStore, s)
  else
    let added := term ∉ (s.lookup key).toList
    (.ok added, { s with
      entries := addTo key term s.entries
      termCount := if added then s.termCount + 1 else s.termCount })

def sealed (s : ParentStore) : ParentStore := { s with isSealed := true }

end ParentStore

end RdfMapping
