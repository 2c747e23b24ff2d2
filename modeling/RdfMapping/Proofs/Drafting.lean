import Mathlib.Data.List.ReduceOption
import RdfMapping.Proofs.CallStack
import RdfMapping.Proofs.Realization

/-!
# Drafting a plan

What each part of compiling adds to the faults, and what it makes when it adds
none. The faults of a part depend neither on those found before nor on what was
compiled before. The ledger only grows, by one join for each join that the part
makes.
-/

namespace RdfMapping

namespace Ledger

/-- Joins and stores were added at the end. -/
structure Grows (l m : Ledger) : Prop where
  joins : l.joins <+: m.joins
  stores : l.stores <+: m.stores

theorem Grows.refl (l : Ledger) : l.Grows l := ⟨List.prefix_rfl, List.prefix_rfl⟩

theorem Grows.trans {l m n : Ledger} (first : l.Grows m) (next : m.Grows n) : l.Grows n :=
  ⟨first.joins.trans next.joins, first.stores.trans next.stores⟩

theorem Grows.join? {l m : Ledger} (grows : l.Grows m) {i : Nat} {join : Join}
    (held : l.join? i = some join) : m.join? i = some join := by
  obtain ⟨inside, rfl⟩ := List.getElem?_eq_some_iff.mp held
  exact List.prefix_iff_getElem?.mp grows.joins i inside

theorem Grows.stores? {l m : Ledger} (grows : l.Grows m) {i : Nat} {slot : StoreSlot}
    (held : l.stores[i]? = some slot) : m.stores[i]? = some slot := by
  obtain ⟨inside, rfl⟩ := List.getElem?_eq_some_iff.mp held
  exact List.prefix_iff_getElem?.mp grows.stores i inside

theorem storeFor_grows (l : Ledger) (parent : Nat) (expressions : List String) :
    l.Grows (l.storeFor parent expressions).2 := by
  rw [storeFor]
  split
  · exact .refl l
  · exact ⟨List.prefix_rfl, List.prefix_append _ _⟩

theorem storeFor_joins (l : Ledger) (parent : Nat) (expressions : List String) :
    (l.storeFor parent expressions).2.joins = l.joins := by
  rw [storeFor]
  split <;> rfl

/-- The store that is handed out is the one of the parent and the expressions. -/
theorem storeFor_slot (l : Ledger) (parent : Nat) (expressions : List String) :
    ((l.storeFor parent expressions).2.stores[(l.storeFor parent expressions).1]?).map
      (fun slot => (slot.parent, slot.expressions)) = some (parent, expressions) := by
  rw [storeFor]
  split
  · rename_i i found
    obtain ⟨inside, same, -⟩ := List.findIdx?_eq_some_iff_getElem.mp found
    simp only [decide_eq_true_eq] at same
    simp [List.getElem?_eq_getElem inside, same]
  · simp

theorem storeFor_size (l : Ledger) (parent : Nat) (expressions : List String) :
    (l.storeFor parent expressions).2.size = l.size := by
  rw [size, storeFor_joins, size]

theorem Fresh.storeFor {l : Ledger} (fresh : l.Fresh) (parent : Nat) (expressions : List String) :
    (l.storeFor parent expressions).2.Fresh := by
  rw [Ledger.storeFor]
  split
  · exact fresh
  · refine ⟨fresh.joins, ?_, fresh.completed⟩
    intro slot member
    rcases List.mem_append.mp member with old | new
    · exact fresh.stores slot old
    · rw [List.mem_singleton.mp new]

theorem register_grows (l : Ledger) (spec : JoinSpec) : l.Grows (l.register spec).2 :=
  ⟨List.prefix_append _ _, List.prefix_rfl⟩

theorem register_join? (l : Ledger) (spec : JoinSpec) :
    (l.register spec).2.join? l.size = some ⟨spec, .pending, [], false⟩ :=
  List.getElem?_concat_length

theorem Fresh.register {l : Ledger} (fresh : l.Fresh) (spec : JoinSpec) :
    (l.register spec).2.Fresh := by
  refine ⟨?_, fresh.stores, fresh.completed⟩
  intro join member
  rcases List.mem_append.mp member with old | new
  · exact fresh.joins join old
  · rw [List.mem_singleton.mp new]

theorem empty_size : empty.size = 0 := rfl

theorem empty_fresh : empty.Fresh :=
  ⟨fun _ member => (List.not_mem_nil member).elim, fun _ member => (List.not_mem_nil member).elim,
    rfl⟩

/-- From `l` to `m` just the joins with these numbers were registered, and what holds does so
for every later ledger. -/
structure Drafts (numbers : List Nat) (holds : Ledger → Prop) (l m : Ledger) : Prop where
  grows : l.Grows m
  holds : ∀ later, m.Grows later → holds later
  consecutive : numbers = List.range' l.size numbers.length
  size : m.size = l.size + numbers.length
  fresh : l.Fresh → m.Fresh

namespace Drafts

theorem none {holds : Ledger → Prop} {l : Ledger} (always : ∀ later, holds later) :
    Drafts [] holds l l :=
  ⟨.refl l, fun later _ => always later, rfl, rfl, id⟩

theorem imp {numbers : List Nat} {p q : Ledger → Prop} {l m : Ledger}
    (drafts : Drafts numbers p l m) (weaker : ∀ later, p later → q later) :
    Drafts numbers q l m :=
  { drafts with holds := fun later grows => weaker later (drafts.holds later grows) }

theorem append {first next : List Nat} {p q : Ledger → Prop} {l m n : Ledger}
    (before : Drafts first p l m) (after : Drafts next q m n) :
    Drafts (first ++ next) (fun later => p later ∧ q later) l n where
  grows := before.grows.trans after.grows
  holds later grows := ⟨before.holds later (after.grows.trans grows), after.holds later grows⟩
  consecutive := by
    rw [List.length_append, ← List.range'_append_1, ← before.consecutive, ← before.size,
      ← after.consecutive]
  size := by
    have := before.size
    have := after.size
    rw [List.length_append]
    omega
  fresh := after.fresh ∘ before.fresh

end Drafts

/-- Opening a store and registering a join that leads to it drafts just this join. -/
theorem storeFor_register_drafts (l : Ledger) (parent : Nat) (expressions : List String)
    (spec : JoinSpec) :
    Drafts [l.size] (fun later => (later.join? l.size).map Join.spec = some spec ∧
        (later.stores[(l.storeFor parent expressions).1]?).map
          (fun slot => (slot.parent, slot.expressions)) = some (parent, expressions))
      l ((l.storeFor parent expressions).2.register spec).2 := by
  have same : (l.storeFor parent expressions).2.size = l.size := l.storeFor_size parent expressions
  have registered := (l.storeFor parent expressions).2.register_grows spec
  refine ⟨(l.storeFor_grows parent expressions).trans registered, fun later grown => ?_, rfl, ?_,
    fun fresh => (fresh.storeFor _ _).register spec⟩
  · obtain ⟨slot, held, keyed⟩ := Option.map_eq_some_iff.mp (l.storeFor_slot parent expressions)
    have kept := (registered.trans grown).stores? held
    have join := grown.join? ((l.storeFor parent expressions).2.register_join? spec)
    rw [same] at join
    refine ⟨by rw [join]; rfl, ?_⟩
    rw [kept]
    exact congrArg some keyed
  · simp only [size, register, List.length_append, List.length_singleton] at same ⊢
    rw [same]

end Ledger

open Ledger (Drafts)

/-- On an empty stack `x` adds these faults to those found before, whatever they are, and empties
the stack again; where it adds none, it leads from ledger to ledger as `result` says. -/
def Drafted.Notes {α : Type} (x : Drafted α) (faults : List Fault)
    (result : Ledger → α → Ledger → Prop) : Prop :=
  ∀ l before, ∃ a m, x ⟨l, before, []⟩ = (a, ⟨m, before ++ faults, []⟩) ∧
    (faults = [] → result l a m)

namespace Drafted.Notes

variable {α β γ : Type} {faults more : List Fault} {result : Ledger → α → Ledger → Prop}

theorem pure (a : α) : Notes (Pure.pure a) [] fun l b m => b = a ∧ m = l :=
  fun l before => ⟨a, l, by rw [List.append_nil]; rfl, fun _ => ⟨rfl, rfl⟩⟩

theorem imp {x : Drafted α} {weaker : Ledger → α → Ledger → Prop} (noted : x.Notes faults result)
    (follows : faults = [] → ∀ l a m, result l a m → weaker l a m) : x.Notes faults weaker := by
  intro l before
  obtain ⟨a, m, ran, holds⟩ := noted l before
  exact ⟨a, m, ran, fun none => follows none l a m (holds none)⟩

theorem bind {x : Drafted α} {f : α → Drafted β} {next : α → Ledger → β → Ledger → Prop}
    (first : x.Notes faults result) (rest : ∀ a, (f a).Notes more (next a)) :
    (x >>= f).Notes (faults ++ more) fun l b m => ∃ a k, result l a k ∧ next a k b m := by
  intro l before
  obtain ⟨a, k, ranFirst, holdsFirst⟩ := first l before
  obtain ⟨b, m, ranRest, holdsRest⟩ := rest a k (before ++ faults)
  refine ⟨b, m, ?_, ?_⟩
  · change StateT.bind x f _ = _
    rw [StateT.bind, ranFirst, ← List.append_assoc]
    exact ranRest
  · intro none
    obtain ⟨noFirst, noRest⟩ := List.append_eq_nil_iff.mp none
    exact ⟨a, k, holdsFirst noFirst, holdsRest noRest⟩

theorem fault (f : Fault) : Notes (Drafted.fault f) [f] fun _ _ _ => False :=
  fun l _ => ⟨(), l, rfl, fun none => (List.cons_ne_nil _ _ none).elim⟩

/-- What is reported and given up has no result to speak of. -/
theorem fail (f : Fault) (a : α) (result : Ledger → α → Ledger → Prop) :
    Notes (do Drafted.fault f; return a) [f] result :=
  ((fault f).bind fun _ => pure a).imp fun none => (List.cons_ne_nil _ _ none).elim

/-- Compiling adds its own fault and leaves the ledger alone. -/
theorem note {x : Compiling α} {y : Except Fault α} (given : x.Gives [] y) :
    Notes (Drafted.note x) (faultOf y) fun l a m => m = l ∧ ∃ b, a = some b ∧ y = .ok b := by
  intro l before
  have ran : x [] = (y, []) := given
  simp only [Drafted.note, ran]
  cases y with
  | ok a => exact ⟨some a, l, by simp [faultOf], fun _ => ⟨rfl, a, rfl, rfl⟩⟩
  | error f => exact ⟨none, l, rfl, fun none => (List.cons_ne_nil _ _ none).elim⟩

/-- Drafting one by one: the faults come in order, and so do the results and their joins. -/
theorem mapM {wrap : γ → β} {f : α → Drafted β} {faultsAt : α → List Fault} {numbers : γ → List Nat}
    {holds : α → γ → Ledger → Prop}
    (each : ∀ a, (f a).Notes (faultsAt a) fun l b m =>
      ∃ c, b = wrap c ∧ Drafts (numbers c) (holds a c) l m) (xs : List α) :
    (xs.mapM f).Notes (xs.flatMap faultsAt) fun l bs m =>
      ∃ cs, bs = cs.map wrap ∧ Drafts (cs.flatMap numbers)
        (fun later => List.Forall₂ (fun a c => holds a c later) xs cs) l m := by
  induction xs with
  | nil =>
    simp only [List.mapM_nil]
    refine (pure []).imp fun _ l bs m same => ?_
    obtain ⟨rfl, rfl⟩ := same
    exact ⟨[], rfl, .none fun _ => .nil⟩
  | cons a xs ih =>
    simp only [List.mapM_cons, List.flatMap_cons]
    have steps := (each a).bind fun b => ih.bind fun bs => pure (b :: bs)
    rw [List.append_nil] at steps
    refine steps.imp fun _ l bs m done => ?_
    obtain ⟨_, k, ⟨c, rfl, first⟩, _, n, ⟨cs, rfl, rest⟩, rfl, rfl⟩ := done
    exact ⟨c :: cs, rfl, (first.append rest).imp fun later both => .cons both.1 both.2⟩

end Drafted.Notes

namespace Plan

variable {ctx : Context}

theorem complete?_map_some {α : Type} (xs : List α) : complete? (xs.map some) = some xs := by
  induction xs with
  | nil => rfl
  | cons x xs ih =>
    simp only [complete?, List.map_cons, List.mapM_cons] at ih ⊢
    rw [ih]
    rfl

theorem producers_notes (ctx : Context) (label : String) (maps : List TermMap) (position : Position) :
    (producers ctx label maps position).Notes (RuleGraph.termFaults ctx label maps position)
      fun l found m =>
        Drafts [] (fun _ => Producer.RealizeAll ctx label position maps found) l m := by
  have each (m : TermMap × Nat) : Drafted.Notes
      (Drafted.note (Producer.construct ctx (label ++ " " ++ toString m.2) m.1 position))
      (faultOf (Producer.compile ctx (label ++ " " ++ toString m.2) m.1 position))
      fun l found k => ∃ producer, found = some producer ∧ Drafts [] (fun _ =>
        Producer.compile ctx (label ++ " " ++ toString m.2) m.1 position = .ok producer) l k := by
    refine (Drafted.Notes.note (Producer.construct_gives ..)).imp fun _ l found k made => ?_
    obtain ⟨rfl, producer, rfl, compiled⟩ := made
    exact ⟨producer, rfl, .none fun _ => compiled⟩
  have steps := (Drafted.Notes.mapM each maps.zipIdx).bind fun found => .pure found.reduceOption
  rw [List.append_nil] at steps
  refine steps.imp fun _ l found k done => ?_
  obtain ⟨_, _, ⟨made, rfl, drafts⟩, rfl, rfl⟩ := done
  have all : (made.map some).reduceOption = made := by
    clear drafts
    induction made with
    | nil => rfl
    | cons producer rest ih => rw [List.map_cons, List.reduceOption_cons_of_some, ih]
  have unnumbered : made.flatMap (fun _ => ([] : List Nat)) = [] := by simp
  rw [unnumbered] at drafts
  rw [all]
  exact drafts

/-- Without conditions and with the same logical source, the parent's subject comes from the
same record. -/
theorem shared_iff (reference : ReferencingMap) (parent map : TriplesMap) :
    (!reference.hasConditions && parent.logicalSource = map.logicalSource) = true ↔
      reference.conditions = [] ∧ parent.logicalSource = map.logicalSource := by
  simp [ReferencingMap.hasConditions]

theorem compileReference_notes (place : Nat) (map : TriplesMap) (label : String)
    (reference : ReferencingMap)
    (placed : ∀ parent, ctx.graph.placeOf? reference.parent = some parent →
      ∃ m, ctx.graph.get? parent = some m) :
    (compileReference ctx place map label reference).Notes
      (RuleGraph.referenceFaults ctx map label reference)
      fun l found m => ∃ plan, found = some plan ∧ Drafts plan.joins (fun later =>
        ObjectPlan.Realizes ctx later place map label (.reference reference) plan) l m := by
  unfold compileReference RuleGraph.referenceFaults RuleGraph.find?
  cases known : ctx.graph.placeOf? reference.parent with
  | none => exact .fail _ _ _
  | some parentPlace =>
    obtain ⟨parent, found⟩ := placed parentPlace known
    simp only [found, Option.bind_some]
    cases driven : parent.subjectMap with
    | none => exact .fail _ _ _
    | some subjectMap =>
      by_cases shared : reference.conditions = [] ∧ parent.logicalSource = map.logicalSource
      · simp only [(shared_iff reference parent map).mpr shared, if_true, if_pos shared]
        have steps := (Drafted.Notes.note (Producer.construct_gives ctx (label ++ " parent subject")
          subjectMap.termMap .subject)).bind fun subject =>
            .pure (subject.map fun s => ObjectPlan.sameRecord s reference.targets)
        rw [List.append_nil] at steps
        refine steps.imp fun _ l found k done => ?_
        obtain ⟨_, _, ⟨rfl, subject, rfl, compiled⟩, rfl, rfl⟩ := done
        refine ⟨_, rfl, .none fun _ => ?_⟩
        exact .sameRecord (by simp only [RuleGraph.find?, known, Option.bind_some, found]) driven
          shared compiled
      · have apart := mt (shared_iff reference parent map).mp shared
        simp only [apart, if_neg shared, Bool.false_eq_true, if_false]
        intro l before
        let opened := l.storeFor parentPlace reference.parentExpressions
        let spec : JoinSpec :=
          ⟨parentPlace, parent.iri, place, map.iri, opened.1, reference.targets⟩
        have drafts := l.storeFor_register_drafts parentPlace reference.parentExpressions spec
        have same : opened.2.size = l.size := l.storeFor_size _ _
        refine ⟨_, (opened.2.register spec).2, by rw [List.append_nil]; rfl, fun _ =>
          ⟨.join l.size reference.childExpressions, congrArg (fun number => some
            (ObjectPlan.join number reference.childExpressions)) same, ?_⟩⟩
        exact drafts.imp fun later both => .join known found driven shared both.1 both.2

/-- Every IRI that means something in the graph means a triples map of it. -/
def Placed (g : RuleGraph) : Prop :=
  ∀ iri place, g.placeOf? iri = some place → ∃ m, g.get? place = some m

variable (placed : Placed ctx.graph)

include placed

theorem compileObject_notes (place : Nat) (map : TriplesMap) (label : String)
    (object : ObjectMap) :
    (compileObject ctx place map label object).Notes (RuleGraph.objectFaults ctx map label object)
      fun l found m => ∃ plan, found = some plan ∧ Drafts plan.joins (fun later =>
        ObjectPlan.Realizes ctx later place map label object plan) l m := by
  cases object with
  | reference r => exact compileReference_notes place map label r (placed r.parent)
  | term m =>
    have steps := (Drafted.Notes.note (Producer.construct_gives ctx label m .object)).bind
      fun producer => .pure (producer.map ObjectPlan.term)
    rw [List.append_nil] at steps
    refine steps.imp fun _ l found k done => ?_
    obtain ⟨_, _, ⟨rfl, producer, rfl, compiled⟩, rfl, rfl⟩ := done
    exact ⟨_, rfl, .none fun _ => .term compiled⟩

theorem compilePredicateObject_notes (place : Nat) (map : TriplesMap)
    (m : PredicateObjectMap × Nat) :
    (compilePredicateObject ctx place map m.1 m.2).Notes
      (RuleGraph.predicateObjectFaults ctx map m.1 m.2)
      fun l found k => ∃ plan, found = some plan ∧ Drafts plan.joins (fun later =>
        PredicateObjectPlan.Realizes ctx later place map m plan) l k := by
  obtain ⟨m, i⟩ := m
  let label := map.iri ++ " predicate-object map " ++ toString i
  have objects := Drafted.Notes.mapM (fun object : ObjectMap × Nat => compileObject_notes placed
    place map (label ++ " object " ++ toString object.2) object.1) m.objectMaps.zipIdx
  have steps := (producers_notes ctx (label ++ " predicate") m.predicateMaps .predicate).bind
    fun predicates => (producers_notes ctx (label ++ " graph") m.graphMaps .graph).bind
      fun graphs => objects.bind fun found =>
        .pure (if predicates.length = m.predicateMaps.length then
          (complete? found).map fun objects => PredicateObjectPlan.mk predicates objects graphs
        else none)
  rw [List.append_nil, ← List.append_assoc] at steps
  refine steps.imp fun _ l found k done => ?_
  obtain ⟨predicates, _, first, graphs, _, second, _, _, ⟨objects, rfl, third⟩, rfl, rfl⟩ := done
  have complete : predicates.length = m.predicateMaps.length := by
    have paired := (first.holds _ (.refl _)).length_eq
    rw [← paired, List.length_zipIdx]
  rw [if_pos complete, complete?_map_some]
  refine ⟨⟨predicates, objects, graphs⟩, rfl, ?_⟩
  exact (first.append (second.append third)).imp fun later parts =>
    ⟨parts.1, parts.2.1, parts.2.2⟩

theorem compileMap_notes (d : Driven) :
    (compileMap ctx d.place d.map d.subjectMap).Notes (RuleGraph.mapFaults ctx d)
      fun l found k => ∃ plan, found = some plan ∧ Drafts plan.joins (fun later =>
        MapPlan.Realizes ctx later d plan) l k := by
  have predicateObjects := Drafted.Notes.mapM
    (compilePredicateObject_notes placed d.place d.map) d.map.predicateObjectMaps.zipIdx
  have steps := (Drafted.Notes.note (Producer.construct_gives ctx (d.map.iri ++ " subject map")
    d.subjectMap.termMap .subject)).bind fun subject =>
      (producers_notes ctx (d.map.iri ++ " subject graph map") d.subjectMap.graphMaps .graph).bind
        fun subjectGraphs => predicateObjects.bind fun found =>
          .pure (subject.bind fun subject => (complete? found).map fun predicateObjects => {
            place := d.place, subject, subjectGraphs, predicateObjects
            iri := d.map.iri
            logicalSource := d.map.logicalSource
            classes := d.subjectMap.classes.map fun c => (Term.iri c).unrouted
            parentKeys := [] : MapPlan })
  rw [List.append_nil, ← List.append_assoc] at steps
  refine steps.imp fun _ l found k done => ?_
  obtain ⟨_, _, ⟨rfl, subject, rfl, compiled⟩, graphs, _, first, _, _, ⟨plans, rfl, second⟩, rfl,
    rfl⟩ := done
  rw [complete?_map_some]
  refine ⟨_, rfl, ?_⟩
  exact (first.append second).imp fun later parts =>
    ⟨rfl, rfl, rfl, compiled, parts.1, rfl, parts.2⟩

theorem compileDriven_notes (entry : TriplesMap × Nat) :
    (compileDriven ctx entry).Notes ((Driven.of? entry).toList.flatMap (RuleGraph.mapFaults ctx))
      fun l plans k => ∃ found, plans = id found ∧ Drafts (found.flatMap MapPlan.joins)
        (fun later => List.Forall₂ (MapPlan.Realizes ctx later) (Driven.of? entry).toList found)
        l k := by
  obtain ⟨map, place⟩ := entry
  rw [compileDriven]
  cases driven : map.subjectMap with
  | none =>
    simp only [Driven.of?, driven]
    refine (Drafted.Notes.pure []).imp fun _ l plans k same => ?_
    obtain ⟨rfl, rfl⟩ := same
    exact ⟨[], rfl, .none fun _ => .nil⟩
  | some subjectMap =>
    simp only [Driven.of?, driven]
    have steps := (compileMap_notes placed ⟨place, map, subjectMap⟩).bind fun plan =>
      .pure plan.toList
    refine steps.imp fun _ l plans k done => ?_
    obtain ⟨_, _, ⟨plan, rfl, drafts⟩, rfl, rfl⟩ := done
    refine ⟨[plan], rfl, ?_⟩
    rw [List.flatMap_singleton]
    exact drafts.imp fun later realized => .cons realized .nil

/-- Compiling all triples maps of the graph, from an empty ledger. -/
theorem compile_notes :
    (ctx.graph.maps.zipIdx.mapM (compileDriven ctx)).Notes
      (ctx.graph.driven.flatMap (RuleGraph.mapFaults ctx))
      fun l plans k => Drafts (plans.flatten.flatMap MapPlan.joins)
        (fun later => List.Forall₂ (MapPlan.Realizes ctx later) ctx.graph.driven plans.flatten)
        l k := by
  have driven : ctx.graph.driven =
      ctx.graph.maps.zipIdx.flatMap fun entry => (Driven.of? entry).toList :=
    List.filterMap_eq_flatMap_toList _ _
  have steps := Drafted.Notes.mapM (compileDriven_notes placed) ctx.graph.maps.zipIdx
  rw [← List.flatMap_assoc, ← driven] at steps
  refine steps.imp fun _ l plans k done => ?_
  obtain ⟨found, rfl, drafts⟩ := done
  have joins : found.flatten.flatMap MapPlan.joins = found.flatMap (List.flatMap MapPlan.joins) := by
    rw [← List.flatMap_id, List.flatMap_assoc]
    rfl
  rw [List.map_id, joins]
  refine drafts.imp fun later realized => ?_
  rw [driven, List.flatMap_def]
  exact List.rel_flatten (List.forall₂_map_left_iff.mpr realized)

end Plan

end RdfMapping
