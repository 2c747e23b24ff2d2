import Mathlib.Logic.Function.Basic
import RdfMapping.Proofs.LedgerHistory

/-!
# Schedules

The triples maps of a plan go on side by side, on one ledger. Each maps its
records in order, then is complete, and then resolves the joins that were handed
to it, in any order. Calls are whole, and the calls of different triples maps
follow each other in any way. A call that fails does not keep its triples map from
going on.
-/

namespace RdfMapping

/-- A call on the ledger and what it answered. -/
inductive Call where
  | process (map : MapPlan) (record : Record) (outcome : Except Fault (List Quad))
  | complete (map : MapPlan) (ready : List Nat)
  | resolve (map : MapPlan) (join : Nat) (outcome : Except Fault (List Quad))

/-- What a triples map has still to do: its records, or the joins handed to it. -/
inductive Progress where
  | reading (rest : List Record)
  | resolving (ready : List Nat)

namespace Progress

def isFinished : Progress → Bool
  | .resolving [] => true
  | _ => false

theorem isFinished_iff {p : Progress} : p.isFinished ↔ p = .resolving [] := by
  constructor
  · intro finished
    cases p with
    | reading rest => cases finished
    | resolving ready =>
      cases ready with
      | nil => rfl
      | cons join rest => cases finished
  · rintro rfl
    rfl

end Progress

structure Session where
  ledger : Ledger
  /-- By the places of the triples maps. -/
  progress : Nat → Progress

namespace Session

/-- Nothing has been called; `records` has the records for each place. -/
def start (plan : Plan) (records : Nat → List Record) : Session :=
  ⟨plan.ledger, fun place => .reading (records place)⟩

def advance (s : Session) (place : Nat) (progress : Progress) (ledger : Ledger) : Session :=
  ⟨ledger, Function.update s.progress place progress⟩

/-- No triples map of the plan has anything left to do. -/
def Finished (plan : Plan) (s : Session) : Prop :=
  ∀ m ∈ plan.maps, s.progress m.place = .resolving []

instance (plan : Plan) (s : Session) : Decidable (s.Finished plan) :=
  decidable_of_iff (∀ m ∈ plan.maps, (s.progress m.place).isFinished) <|
    forall₂_congr fun _ _ => Progress.isFinished_iff

end Session

/-- A triples map of the plan makes its next call. -/
inductive Step (plan : Plan) (s : Session) : Call → Session → Prop where
  | process {m : MapPlan} {record : Record} {rest : List Record} (member : m ∈ plan.maps)
      (reading : s.progress m.place = .reading (record :: rest)) :
      Step plan s (.process m record (m.process plan.emitClasses record s.ledger).2)
        (s.advance m.place (.reading rest) (m.process plan.emitClasses record s.ledger).1)
  | complete {m : MapPlan} (member : m ∈ plan.maps)
      (reading : s.progress m.place = .reading []) :
      Step plan s (.complete m (s.ledger.markComplete m.place).1)
        (s.advance m.place (.resolving (s.ledger.markComplete m.place).1)
          (s.ledger.markComplete m.place).2)
  | resolve {m : MapPlan} {join : Nat} {ready : List Nat} (member : m ∈ plan.maps)
      (resolving : s.progress m.place = .resolving ready) (handed : join ∈ ready) :
      Step plan s (.resolve m join (s.ledger.resolve join).1)
        (s.advance m.place (.resolving (ready.erase join)) (s.ledger.resolve join).2)

/-- The calls made so far, the last one at the end, and where they lead. -/
inductive Schedule (plan : Plan) (records : Nat → List Record) : List Call → Session → Prop where
  | start : Schedule plan records [] (.start plan records)
  | step {calls : List Call} {call : Call} {s t : Session} (before : Schedule plan records calls s)
      (last : Step plan s call t) : Schedule plan records (calls ++ [call]) t

/-- A triples map makes its next call, if there is one; of several joins it takes the first. -/
def Session.turn (plan : Plan) (before : List Call × Session) (m : MapPlan) :
    List Call × Session :=
  let (calls, s) := before
  match s.progress m.place with
  | .reading (record :: rest) =>
    let (ledger, outcome) := m.process plan.emitClasses record s.ledger
    (calls ++ [.process m record outcome], s.advance m.place (.reading rest) ledger)
  | .reading [] =>
    let (ready, ledger) := s.ledger.markComplete m.place
    (calls ++ [.complete m ready], s.advance m.place (.resolving ready) ledger)
  | .resolving (join :: rest) =>
    let (outcome, ledger) := s.ledger.resolve join
    (calls ++ [.resolve m join outcome], s.advance m.place (.resolving rest) ledger)
  | .resolving [] => (calls, s)

/-- The triples maps take turns in this order. -/
def Session.turns (plan : Plan) (records : Nat → List Record) (order : List MapPlan) :
    List Call × Session :=
  order.foldl (turn plan) ([], .start plan records)

section

variable {plan : Plan} {records : Nat → List Record}

theorem Schedule.turn {before : List Call × Session}
    (schedule : Schedule plan records before.1 before.2) {m : MapPlan} (member : m ∈ plan.maps) :
    Schedule plan records (Session.turn plan before m).1 (Session.turn plan before m).2 := by
  obtain ⟨calls, s⟩ := before
  rw [Session.turn]
  dsimp only
  split
  · rename_i record rest reading
    exact schedule.step (.process member reading)
  · rename_i reading
    exact schedule.step (.complete member reading)
  · rename_i join rest resolving
    have step := Step.resolve member resolving List.mem_cons_self
    rw [List.erase_cons_head] at step
    exact schedule.step step
  · exact schedule

/-- Every order of turns is a schedule. -/
theorem Schedule.turns (order : List MapPlan) (members : ∀ m ∈ order, m ∈ plan.maps) :
    Schedule plan records (Session.turns plan records order).1
      (Session.turns plan records order).2 := by
  suffices onward : ∀ before : List Call × Session, Schedule plan records before.1 before.2 →
      Schedule plan records (order.foldl (Session.turn plan) before).1
        (order.foldl (Session.turn plan) before).2 from onward _ .start
  induction order with
  | nil => exact fun _ schedule => schedule
  | cons m rest ih =>
    intro before schedule
    exact ih (fun n member => members n (List.mem_cons_of_mem _ member)) _
      (schedule.turn (members m List.mem_cons_self))

end

namespace Call

@[simp] def map : Call → MapPlan
  | .process m .. | .complete m _ | .resolve m .. => m

def succeeds : Call → Bool
  | .process _ _ (.error _) | .resolve _ _ (.error _) => false
  | _ => true

@[simp] def postings (emitClasses : Bool) : Call → List Posting
  | .process m record _ => (m.survey emitClasses record).postings
  | _ => []

@[simp] def completed? : Call → Option Nat
  | .complete m _ => some m.place
  | _ => none

@[simp] def resolved? : Call → Option Nat
  | .resolve _ join _ => some join
  | _ => none

/-- The record that the triples map of this place mapped. -/
@[simp] def record? (place : Nat) : Call → Option Record
  | .process m record _ => if m.place = place then some record else none
  | _ => none

/-- The joins handed out. -/
@[simp] def ready : Call → List Nat
  | .complete _ ready => ready
  | _ => []

/-- The joins handed to the triples map of this place. -/
@[simp] def readyFor (place : Nat) : Call → List Nat
  | .complete m ready => if m.place = place then ready else []
  | _ => []

end Call

def posted (emitClasses : Bool) (calls : List Call) : List Posting :=
  calls.flatMap (Call.postings emitClasses)

def completed (calls : List Call) : List Nat := calls.filterMap Call.completed?

def resolved (calls : List Call) : List Nat := calls.filterMap Call.resolved?

def processed (place : Nat) (calls : List Call) : List Record :=
  calls.filterMap (Call.record? place)

def handedOut (calls : List Call) : List Nat := calls.flatMap Call.ready

def handedTo (place : Nat) (calls : List Call) : List Nat := calls.flatMap (Call.readyFor place)

theorem filterMap_singleton {α β : Type} (f : α → Option β) (a : α) :
    [a].filterMap f = (f a).toList := by
  cases found : f a <;> simp [found]

section

variable (emitClasses : Bool) (place : Nat) (calls : List Call) (call : Call)

@[simp] theorem posted_concat : posted emitClasses (calls ++ [call]) =
    posted emitClasses calls ++ call.postings emitClasses := by
  simp only [posted, List.flatMap_append, List.flatMap_singleton]

@[simp] theorem completed_concat :
    completed (calls ++ [call]) = completed calls ++ call.completed?.toList := by
  rw [completed, List.filterMap_append, filterMap_singleton]
  rfl

@[simp] theorem resolved_concat :
    resolved (calls ++ [call]) = resolved calls ++ call.resolved?.toList := by
  rw [resolved, List.filterMap_append, filterMap_singleton]
  rfl

@[simp] theorem processed_concat :
    processed place (calls ++ [call]) = processed place calls ++ (call.record? place).toList := by
  rw [processed, List.filterMap_append, filterMap_singleton]
  rfl

@[simp] theorem handedOut_concat :
    handedOut (calls ++ [call]) = handedOut calls ++ call.ready := by
  simp only [handedOut, List.flatMap_append, List.flatMap_singleton]

@[simp] theorem handedTo_concat :
    handedTo place (calls ++ [call]) = handedTo place calls ++ call.readyFor place := by
  simp only [handedTo, List.flatMap_append, List.flatMap_singleton]

end

theorem readyFor_sublist (place : Nat) (call : Call) : (call.readyFor place).Sublist call.ready := by
  cases call with
  | complete m ready =>
    simp only [Call.readyFor, Call.ready]
    split
    · exact List.Sublist.refl _
    · exact List.nil_sublist _
  | process m record outcome => exact List.Sublist.refl _
  | resolve m join outcome => exact List.Sublist.refl _

theorem handedTo_sublist (place : Nat) (calls : List Call) :
    (handedTo place calls).Sublist (handedOut calls) := by
  induction calls with
  | nil => exact List.Sublist.refl _
  | cons call rest ih => exact (readyFor_sublist place call).append ih

theorem mem_handedOut {calls : List Call} {join : Nat} :
    join ∈ handedOut calls ↔ ∃ m ready, Call.complete m ready ∈ calls ∧ join ∈ ready := by
  simp only [handedOut, List.mem_flatMap]
  constructor
  · rintro ⟨call, made, inside⟩
    cases call with
    | complete m ready => exact ⟨m, ready, made, inside⟩
    | process m record outcome => exact (List.not_mem_nil inside).elim
    | resolve m join outcome => exact (List.not_mem_nil inside).elim
  · rintro ⟨m, ready, made, inside⟩
    exact ⟨_, made, inside⟩

/-- Joins are handed to triples maps that are complete. -/
theorem mem_completed_of_handedTo {place : Nat} {calls : List Call} {join : Nat}
    (handed : join ∈ handedTo place calls) : place ∈ completed calls := by
  obtain ⟨call, made, inside⟩ := List.mem_flatMap.mp handed
  cases call with
  | complete m ready =>
    obtain ⟨here, -⟩ := List.mem_ite_nil_right.mp inside
    exact List.mem_filterMap.mpr ⟨_, made, by simp [here]⟩
  | process m record outcome => exact (List.not_mem_nil inside).elim
  | resolve m join outcome => exact (List.not_mem_nil inside).elim

/-- What a triples map posted is what its surveys of the records mapped so far say. -/
theorem mem_posted {emitClasses : Bool} {calls : List Call} {posting : Posting} :
    posting ∈ posted emitClasses calls ↔ ∃ m record outcome,
      Call.process m record outcome ∈ calls ∧
        posting ∈ (m.survey emitClasses record).postings := by
  simp only [posted, List.mem_flatMap]
  constructor
  · rintro ⟨call, made, inside⟩
    cases call with
    | process m record outcome => exact ⟨m, record, outcome, made, inside⟩
    | complete m ready => exact (List.not_mem_nil inside).elim
    | resolve m join outcome => exact (List.not_mem_nil inside).elim
  · rintro ⟨m, record, outcome, made, inside⟩
    exact ⟨_, made, inside⟩

theorem mem_processed {place : Nat} {calls : List Call} {record : Record} :
    record ∈ processed place calls ↔
      ∃ m outcome, Call.process m record outcome ∈ calls ∧ m.place = place := by
  simp only [processed, List.mem_filterMap]
  constructor
  · rintro ⟨call, made, found⟩
    cases call with
    | process m r outcome =>
      simp only [Call.record?, Option.ite_none_right_eq_some, Option.some.injEq] at found
      obtain ⟨here, rfl⟩ := found
      exact ⟨m, outcome, made, here⟩
    | complete m ready => cases found
    | resolve m join outcome => cases found
  · rintro ⟨m, outcome, made, here⟩
    exact ⟨_, made, by simp [Call.record?, here]⟩

namespace Teams

def team : TriplesMap :=
  { iri := "urn:team", logicalSource := { source := "teams" },
    subjectMap := some { termMap := { reference := some "id", kind := some .blankNode } },
    predicateObjectMaps := [{
      predicateMaps := [.ofConstant (.iri "urn:member")],
      objectMaps := [.reference {
        parent := "urn:person", conditions := [⟨"id", "team"⟩, ⟨"site", "site"⟩] }] }] }

def person : TriplesMap :=
  { iri := "urn:person", logicalSource := { source := "people" },
    subjectMap := some { termMap := { reference := some "id", kind := some .blankNode } },
    predicateObjectMaps := [{
      predicateMaps := [.ofConstant (.iri "urn:team")],
      objectMaps := [.reference { parent := "urn:team", conditions := [⟨"team", "id"⟩] }] }] }

/-- The teams and the people refer to each other. -/
def plan : Plan := ((Plan.compile (.ofList [team, person]) .empty {}).toOption).get rfl

theorem compiled : Plan.compile (.ofList [team, person]) .empty {} = .ok plan := rfl

def record (values : List (String × List String)) : Record where
  evaluate e := .ok (((values.lookup e).getD []).map .text)
  datatype? _ := none

def records : Nat → List Record
  | 0 => [record [("id", ["red"]), ("site", ["south"])]]
  | 1 => [record [("id", ["ann"]), ("team", ["blue", "red"]), ("site", ["north", "south"])],
      record [("id", ["bob"])]]
  | _ => []

/-- Of the teams of Ann only one is at a site of hers. -/
def membership : Quad :=
  ⟨(Term.blankNode "bnode-red").unrouted, (Term.iri "urn:member").unrouted,
    (Term.blankNode "bnode-ann").unrouted, none⟩

/-- The teams are read while the people are; in the end the people resolve both joins. -/
def order : List MapPlan := [1, 0, 0, 1, 1, 1, 1].filterMap fun (i : Nat) => plan.maps[i]?

theorem order_subset : ∀ m ∈ order, m ∈ plan.maps := by
  intro m member
  obtain ⟨i, -, found⟩ := List.mem_filterMap.mp member
  exact List.mem_of_getElem? found

theorem finished : (Session.turns plan records order).2.Finished plan := by
  decide +kernel

theorem resolved : ∃ m, .resolve m 0 (.ok [membership]) ∈ (Session.turns plan records order).1 := by
  have given : [membership] ∈ (Session.turns plan records order).1.filterMap fun
      | .resolve _ 0 (.ok quads) => some quads
      | _ => none := by decide +kernel
  obtain ⟨call, made, found⟩ := List.mem_filterMap.mp given
  split at found
  · rename_i m quads
    exact ⟨m, Option.some.inj found ▸ made⟩
  · cases found

theorem succeeded : ∀ call ∈ (Session.turns plan records order).1, call.succeeds := by
  rw [← List.all_eq_true]
  decide +kernel

end Teams

end RdfMapping
