import Mathlib.Data.List.Dedup
import Mathlib.Data.List.Perm.Basic
import RdfMapping.Proofs.SessionHistory
import RdfMapping.Proofs.SurveyResults

/-!
# Joins as nested loops

Resolving a join gives what two nested loops over the child and the parent records
give: for each child record, each subject of a parent record that agrees with it,
with every subject, predicate and graph of the child record. The stores, the keys,
the entries and the order of all calls leave no trace in that.
-/

namespace RdfMapping

open Ledger (isResolvable)

namespace JoinSite

/-- The subjects of the parent records that agree with a child record, each once. -/
def partners (site : JoinSite) (parents : List Record) (child : Record) : List Term :=
  ((parents.filter (agree site.reference.conditions child)).flatMap fun parent =>
    (foundIn (site.parent.subject.apply parent)).map RoutedTerm.term).dedup

/-- Every subject and predicate of a child record with every partner and every graph. -/
def childQuads (site : JoinSite) (parents : List Record) (child : Record) : List Quad :=
  (site.partners parents child).flatMap fun partner =>
    allQuads (foundIn (site.child.subject.apply child))
      (foundIn (applyAll site.predicateObject.predicates child))
      [⟨partner, site.reference.targets⟩]
      (graphSlots (foundIn (applyAll site.child.subjectGraphs child)
        ++ foundIn (applyAll site.predicateObject.graphs child)))

def nestedLoop (site : JoinSite) (records : Nat → List Record) : List Quad :=
  (records site.child.place).flatMap (site.childQuads (records site.parent.place))

theorem mem_partners {site : JoinSite} {parents : List Record} {child : Record} {t : Term} :
    t ∈ site.partners parents child ↔ ∃ parent ∈ parents,
      agree site.reference.conditions child parent ∧
        ∃ subject ∈ foundIn (site.parent.subject.apply parent), subject.term = t := by
  simp only [partners, List.mem_dedup, List.mem_flatMap, List.mem_filter, List.mem_map, and_assoc]

end JoinSite

theorem OrderedSet.nodup (s : OrderedSet Term) : s.toList.Nodup := by
  refine s.ascending.imp fun {a b} below same => ?_
  subst same
  have equal : compare a a = .eq := Std.ReflCmp.compare_self
  rw [equal] at below
  cases below

/-- A store with the subjects of the parent records, each under all keys of its record. -/
def JoinSite.Fills (site : JoinSite) (parents : List Record) (store : ParentStore) : Prop :=
  ∀ key t, t ∈ store.lookup key ↔ ∃ parent ∈ parents,
    key ∈ foundIn (parent.joinKeys site.reference.parentExpressions) ∧
      ∃ subject ∈ foundIn (site.parent.subject.apply parent), subject.term = t

namespace JoinSite

variable {site : JoinSite} {parents : List Record} {store : ParentStore}

/-- The subjects that share a key with an entry are those whose records agree with it. -/
theorem matchedParents_perm (fills : site.Fills parents store) (child : Record)
    {entry : ChildEntry}
    (keys : entry.keys = foundIn (child.joinKeys site.reference.childExpressions)) :
    (Ledger.matchedParents store entry).toList.Perm (site.partners parents child) := by
  refine (List.perm_ext_iff_of_nodup (OrderedSet.nodup _) (List.nodup_dedup _)).mpr fun t => ?_
  rw [Ledger.mem_matchedParents, keys, ← partners, mem_partners]
  constructor
  · rintro ⟨key, fromChild, held⟩
    obtain ⟨parent, member, fromParent, subject⟩ := (fills key t).mp held
    exact ⟨parent, member, (shares_key_iff _ _ _).mp ⟨key, fromChild, fromParent⟩, subject⟩
  · rintro ⟨parent, member, agrees, subject⟩
    obtain ⟨key, fromChild, fromParent⟩ := (shares_key_iff _ _ _).mpr agrees
    exact ⟨key, fromChild, (fills key t).mpr ⟨parent, member, fromParent, subject⟩⟩

theorem partners_eq_nil (child : Record)
    (none : foundIn (child.joinKeys site.reference.childExpressions) = []) :
    site.partners parents child = [] := by
  refine List.eq_nil_iff_forall_not_mem.mpr fun t member => ?_
  obtain ⟨parent, -, agrees, -⟩ := mem_partners.mp member
  obtain ⟨key, fromChild, -⟩ := (shares_key_iff _ _ _).mpr agrees
  exact List.not_mem_nil (none ▸ fromChild)

/-- Looking up the entries of a child record is looping over the parent records. -/
theorem flatMap_entryQuads_perm (fills : site.Fills parents store) (child : Record) :
    ((site.child.joinEntries site.predicateObject site.reference.childExpressions child).flatMap
      (Ledger.entryQuads store site.reference.targets)).Perm (site.childQuads parents child) := by
  simp only [MapPlan.joinEntries]
  split
  · rename_i nothing
    have none : site.childQuads parents child = [] := by
      rcases nothing with none | none | none
      · simp [childQuads, none, allQuads]
      · simp [childQuads, none, allQuads]
      · simp [childQuads, partners_eq_nil child none]
    rw [none]
    exact .nil
  · rw [List.flatMap_singleton]
    refine (matchedParents_perm fills child rfl).flatMap fun t _ => List.Perm.of_eq ?_
    simp only [allQuads, List.flatMap_singleton]

end JoinSite

section

variable {g : RuleGraph} {functions : Registry} {settings : Settings} {plan : Plan}
  {records : Nat → List Record} {calls : List Call} {s : Session}

theorem Plan.Realizes.nodup_joins (realized : plan.Realizes g functions settings) {m : MapPlan}
    (member : m ∈ plan.maps) : m.joins.Nodup := by
  have nodup : (plan.maps.flatMap MapPlan.joins).Nodup := by
    rw [show plan.maps.flatMap MapPlan.joins = _ from realized.joins]
    exact List.nodup_range
  exact (List.nodup_flatMap.mp nodup).1 m member

/-- What a call posts to a join, if it is a record of the join's child without a fault. -/
theorem entriesFor_call (realized : plan.Realizes g functions settings) {j : Nat}
    {site : JoinSite} (registers : plan.Registers g j site) {call : Call}
    (member : call.map ∈ plan.maps)
    (mapped : ∀ m record outcome, call = .process m record outcome →
      ∃ quads, (m.survey plan.emitClasses record).outcome = .ok quads) :
    entriesFor j (call.postings plan.emitClasses) = (call.record? site.child.place).toList.flatMap
      (site.child.joinEntries site.predicateObject site.reference.childExpressions) := by
  cases call with
  | complete m ready => rfl
  | resolve m join outcome => rfl
  | process m record outcome =>
    by_cases here : m.place = site.child.place
    · have same : m = site.child := realized.place_inj member registers.child here
      obtain ⟨quads, ran⟩ := mapped m record outcome rfl
      obtain ⟨map, pom, i, k, -, -, -, planned, inObjects⟩ := registers.written
      subst same
      have entries := MapPlan.entriesFor_survey (realized.nodup_joins member)
        (List.mem_of_getElem? planned) (List.mem_of_getElem? inObjects) ran
      simpa using entries
    · have none : entriesFor j (m.survey plan.emitClasses record).postings = [] := by
        refine entriesFor_eq_nil fun entry posted => here ?_
        have owned := ((realized.survey_meets member plan.emitClasses record).postings _ posted).1
        obtain ⟨other, rfl, registersOther⟩ := realized.exists_site member owned
        obtain ⟨_, _, _, spec, -⟩ := registers.spec realized
        obtain ⟨_, _, _, specOther, -⟩ := registersOther.spec realized
        rw [spec, Option.some.injEq, JoinSpec.mk.injEq] at specOther
        exact specOther.2.2.1.symm
      simpa [here] using none

/-- The entries of a join are those of the records that its child has mapped. -/
theorem entriesFor_posted (realized : plan.Realizes g functions settings) {j : Nat}
    {site : JoinSite} (registers : plan.Registers g j site)
    (members : ∀ call ∈ calls, call.map ∈ plan.maps)
    (mapped : ∀ m record outcome, Call.process m record outcome ∈ calls →
      ∃ quads, (m.survey plan.emitClasses record).outcome = .ok quads) :
    entriesFor j (posted plan.emitClasses calls) = (processed site.child.place calls).flatMap
      (site.child.joinEntries site.predicateObject site.reference.childExpressions) := by
  rw [posted, entriesFor_flatMap, processed, List.filterMap_eq_flatMap_toList, List.flatMap_assoc]
  refine List.flatMap_congr fun call made => ?_
  refine entriesFor_call realized registers (members call made) ?_
  rintro m record outcome rfl
  exact mapped m record outcome made

/-- The store of a join has the subjects of the records that its parent has mapped. -/
theorem Session.Tells.fills (realized : plan.Realizes g functions settings)
    (tells : s.Tells plan records calls) {j : Nat} {join : Join}
    (found : plan.ledger.join? j = some join) (done : join.spec.parent ∈ completed calls)
    {site : JoinSite} (registers : plan.Registers g j site)
    (mapped : ∀ m record outcome, Call.process m record outcome ∈ calls →
      ∃ quads, (m.survey plan.emitClasses record).outcome = .ok quads) :
    site.Fills (records site.parent.place)
      ((s.ledger.store? join.spec.store).getD .empty) := by
  obtain ⟨_, _, store, spec, keyed⟩ := registers.spec realized
  rw [found, Option.map_some, Option.some.injEq] at spec
  obtain ⟨held, stored, -, parent, member, place, holds⟩ := tells.store_holds realized found done
  rw [spec] at stored holds place done ⊢
  have same : parent = site.parent := realized.place_inj member registers.parent place
  subst same
  rw [stored]
  intro key t
  refine (holds key t).trans (exists_congr fun record => and_congr_right fun listed => ?_)
  obtain ⟨quads, ran⟩ : ∃ quads, (site.parent.survey plan.emitClasses record).outcome = .ok quads := by
    rw [← tells.processed_of_completed member done] at listed
    obtain ⟨m, outcome, made, here⟩ := mem_processed.mp listed
    have same : m = site.parent := realized.place_inj (tells.members _ made) member here
    exact same ▸ mapped m record outcome made
  rw [MapPlan.inserts_iff ran]
  refine and_congr_left fun _ => ?_
  constructor
  · rintro ⟨expressions, listed, inside⟩
    have same := (realized.mem_parentKeys member).mp listed
    rw [keyed, Option.some.injEq, Prod.mk.injEq] at same
    exact same.2 ▸ inside
  · exact fun inside => ⟨_, (realized.mem_parentKeys member).mpr keyed, inside⟩

/-- Where no record failed, a join resolves to its nested loop. -/
theorem Session.Tells.resolve_perm (realized : plan.Realizes g functions settings)
    (tells : s.Tells plan records calls) {m : MapPlan} {j : Nat} {ready : List Nat}
    (member : m ∈ plan.maps) (resolving : s.progress m.place = .resolving ready)
    (handed : j ∈ ready)
    (mapped : ∀ m record outcome, Call.process m record outcome ∈ calls →
      ∃ quads, (m.survey plan.emitClasses record).outcome = .ok quads) :
    ∃ quads, (s.ledger.resolve j).1 = .ok quads ∧ (∃ site, plan.Registers g j site) ∧
      ∀ site, plan.Registers g j site → quads.Perm (site.nestedLoop records) := by
  obtain ⟨join, found, both, -, -, ran⟩ := tells.resolve realized member resolving handed
  obtain ⟨parentDone, childDone⟩ := isResolvable_iff.mp both
  obtain ⟨site, -, registers, -⟩ := realized.join_cases found
  refine ⟨_, congrArg Prod.fst ran, ⟨site, registers⟩, fun site registers => ?_⟩
  have fills := tells.fills realized found parentDone registers mapped
  obtain ⟨_, _, store, spec, -⟩ := registers.spec realized
  rw [found, Option.map_some, Option.some.injEq] at spec
  rw [spec] at childDone fills ⊢
  rw [entriesFor_posted realized registers tells.members mapped,
    tells.processed_of_completed registers.child childDone, List.flatMap_assoc]
  exact List.Perm.flatMap_left _ fun child _ => JoinSite.flatMap_entryQuads_perm fills child

end

/--
In a schedule in which no record fails, each join that is resolved gives, up to
order, what nested loops over the records of its child and its parent give.
-/
theorem Schedule.resolves_to_nestedLoop {maps : List TriplesMap} {functions : Registry}
    {settings : Settings} {plan : Plan} {records : Nat → List Record} {calls : List Call}
    {s : Session} (compiled : Plan.compile (.ofList maps) functions settings = .ok plan)
    (schedule : Schedule plan records calls s) (succeed : ∀ call ∈ calls, call.succeeds)
    {m : MapPlan} {j : Nat} {outcome : Except Fault (List Quad)}
    (made : .resolve m j outcome ∈ calls) :
    ∃ quads, outcome = .ok quads ∧ (∃ site, plan.Registers (.ofList maps) j site) ∧
      ∀ site, plan.Registers (.ofList maps) j site → quads.Perm (site.nestedLoop records) := by
  have realized := Plan.realizes_of_compile compiled
  induction schedule with
  | start => exact (List.not_mem_nil made).elim
  | @step calls call s t before last ih =>
    have succeedBefore : ∀ call ∈ calls, call.succeeds := fun call earlier =>
      succeed call (List.mem_append_left _ earlier)
    rcases List.mem_append.mp made with earlier | last'
    · exact ih succeedBefore earlier
    · have same := List.mem_singleton.mp last'
      cases last with
      | process member reading => cases same
      | complete member reading => cases same
      | resolve member resolving handed =>
        cases same
        refine (before.tells realized).resolve_perm realized member resolving handed ?_
        intro n record outcome mapped
        rw [← before.outcome_eq realized mapped]
        cases outcome with
        | ok quads => exact ⟨quads, rfl⟩
        | error f => cases succeedBefore _ mapped

theorem teams_resolve_to_nestedLoop :
    let run := Session.turns Teams.plan Teams.records Teams.order
    Plan.compile (.ofList [Teams.team, Teams.person]) .empty {} = .ok Teams.plan ∧
    Schedule Teams.plan Teams.records run.1 run.2 ∧ (∀ call ∈ run.1, call.succeeds) ∧
    (∃ m, .resolve m 0 (.ok [Teams.membership]) ∈ run.1) ∧
    ∃ site, Teams.plan.Registers (.ofList [Teams.team, Teams.person]) 0 site ∧
      [Teams.membership].Perm (site.nestedLoop Teams.records) := by
  intro run
  have schedule : Schedule Teams.plan Teams.records run.1 run.2 :=
    Schedule.turns Teams.order Teams.order_subset
  obtain ⟨m, made⟩ := Teams.resolved
  obtain ⟨quads, same, ⟨site, registers⟩, perm⟩ :=
    Schedule.resolves_to_nestedLoop Teams.compiled schedule Teams.succeeded made
  rw [← Except.ok.inj same] at perm
  exact ⟨Teams.compiled, schedule, Teams.succeeded, ⟨m, made⟩, site, registers,
    perm site registers⟩

end RdfMapping
