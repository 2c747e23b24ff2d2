import RdfMapping.Proofs.Drafting
import RdfMapping.Proofs.Places

/-!
# Validation

Compiling a rule graph reports exactly the faults of its term maps, each compiled
by itself, behind those that need no compiling. Where there are none it gives a
plan with an entry for every part of the graph.
-/

namespace RdfMapping

theorem RuleGraph.ofList_placed (maps : List TriplesMap) : Plan.Placed (ofList maps) :=
  fun _ _ placed => exists_of_placeOf? placed

/-- Handing a map the keys of its stores changes nothing else. -/
theorem MapPlan.Realizes.withParentKeys {ctx : Context} {ledger : Ledger} {d : Driven}
    {plan : MapPlan} (realized : plan.Realizes ctx ledger d) (keys : List (List String × Nat)) :
    MapPlan.Realizes ctx ledger d { plan with parentKeys := keys } :=
  ⟨realized.place, realized.iri, realized.logicalSource, realized.subject, realized.subjectGraphs,
    realized.classes, realized.predicateObjects⟩

namespace Plan

/-- Either there are faults and all are reported, or there is a plan. -/
theorem compile_cases {g : RuleGraph} (placed : Placed g) (functions : Registry)
    (settings : Settings) :
    (g.faults functions settings ≠ [] ∧
      compile g functions settings = .error (.validation (g.faults functions settings))) ∨
    (g.faults functions settings = [] ∧
      ∃ plan, compile g functions settings = .ok plan ∧ plan.Realizes g functions settings) := by
  let ctx : Context := ⟨g, functions, settings.base⟩
  have notes := compile_notes (show Placed ctx.graph from placed)
  obtain ⟨plans, ledger, ran, drafts⟩ := notes .empty (preliminaryFaults g settings)
  have outcome : compile g functions settings =
      if (g.faults functions settings).isEmpty then .ok {
        maps := plans.flatten.map fun m => { m with parentKeys := ledger.parentStores m.place }
        ledger
        emitClasses := settings.emitClasses }
      else .error (.validation (g.faults functions settings)) := by
    have ran : (g.maps.zipIdx.mapM (compileDriven ⟨g, functions, settings.base⟩)).run
        ⟨.empty, preliminaryFaults g settings, []⟩ =
        (plans, ⟨ledger, g.faults functions settings, []⟩) := ran
    simp only [compile, ran]
  by_cases none : g.faults functions settings = []
  · refine .inr ⟨none, _, by rw [outcome, none]; rfl, ?_⟩
    have made := drafts (List.append_eq_nil_iff.mp none).2
    have realized := made.holds ledger (.refl ledger)
    constructor
    · rw [List.forall₂_map_right_iff]
      exact realized.imp fun d plan whole => whole.withParentKeys _
    · have numbered := made.consecutive
      have counted := made.size
      rw [Ledger.empty_size] at numbered counted
      rw [Nat.zero_add] at counted
      change List.flatMap MapPlan.joins (List.map _ plans.flatten) = List.range ledger.size
      rw [List.flatMap_map, counted, List.range_eq_range']
      exact numbered
    · exact made.fresh Ledger.empty_fresh
    · intro m member
      obtain ⟨plan, -, rfl⟩ := List.mem_map.mp member
      rfl
    · rfl
  · refine .inl ⟨none, ?_⟩
    rw [outcome, if_neg (by simpa using none)]

theorem realizes_of_compile {maps : List TriplesMap} {functions : Registry} {settings : Settings}
    {plan : Plan} (compiled : compile (.ofList maps) functions settings = .ok plan) :
    plan.Realizes (.ofList maps) functions settings := by
  rcases compile_cases (RuleGraph.ofList_placed maps) functions settings with
    ⟨-, failed⟩ | ⟨-, other, made, realized⟩
  · rw [failed] at compiled
    cases compiled
  · rw [made] at compiled
    cases compiled
    exact realized

end Plan

end RdfMapping
