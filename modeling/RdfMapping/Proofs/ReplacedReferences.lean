import RdfMapping.Proofs.CheckedTermMaps
import RdfMapping.Proofs.JoinSites
import RdfMapping.Proofs.RecordQuads

/-!
# Rule graphs that differ in one reference

The conditions of a reference matter to its own object plan only. So a reference that
gets conditions becomes a join, and for the rest the plan stays as it is: every term map is
compiled as before, and every other object map too. A further join moves the numbers of
those behind it, which no record sees. What a record gives is less by what the object had.
-/

namespace RdfMapping

/-- The triples map with another object map at this place. -/
def TriplesMap.replaceObject (map : TriplesMap) (i k : Nat) (object : ObjectMap) : TriplesMap :=
  { map with
    predicateObjectMaps := map.predicateObjectMaps.modify i fun pom =>
      { pom with objectMaps := pom.objectMaps.set k object } }

/-- Triples maps at the same places with the same subjects, sources and function calls. -/
structure RuleGraph.Alike (functions : Registry) (g h : RuleGraph) : Prop where
  placeOf? : ∀ iri, g.placeOf? iri = h.placeOf? iri
  subjectMap : ∀ place, (g.get? place).map TriplesMap.subjectMap =
    (h.get? place).map TriplesMap.subjectMap
  logicalSource : ∀ place, (g.get? place).map TriplesMap.logicalSource =
    (h.get? place).map TriplesMap.logicalSource
  callSource : ∀ place (call : String → Except Fault ValueSource),
    (g.get? place).map (·.callSource functions call) =
      (h.get? place).map (·.callSource functions call)

section

variable {functions : Registry} {g h : RuleGraph} {base : Option String}

theorem RuleGraph.Alike.find? (alike : g.Alike functions h) {iri : String} {m n : TriplesMap}
    (first : g.find? iri = some m) (next : h.find? iri = some n) :
    m.subjectMap = n.subjectMap ∧ m.logicalSource = n.logicalSource := by
  obtain ⟨place, placed, first⟩ := Option.bind_eq_some_iff.mp first
  obtain ⟨other, same, next⟩ := Option.bind_eq_some_iff.mp next
  rw [← alike.placeOf?, placed] at same
  cases same
  have subjects := alike.subjectMap place
  have sources := alike.logicalSource place
  rw [first, next] at subjects sources
  exact ⟨Option.some.inj subjects, Option.some.inj sources⟩

theorem Context.compileCall_eq (ctx : Context) (visiting : List Nat) (iri : String) :
    ctx.compileCall visiting iri =
      ((ctx.graph.placeOf? iri).map fun place =>
        if place ∈ visiting then .error (Fault.functionCycle iri)
        else ((ctx.graph.get? place).map
          (·.callSource ctx.functions (ctx.compileCall (place :: visiting)))).getD
            (.error (.unknownTriplesMap iri))).getD (.error (.unknownTriplesMap iri)) := by
  rw [compileCall]
  split
  · rename_i unknown
    rw [unknown]
    rfl
  · rename_i place placed
    rw [placed, Option.map_some, Option.getD_some]
    split
    · rfl
    · split
      · rename_i missing
        rw [missing]
        rfl
      · rename_i map found
        rw [found]
        rfl

theorem Context.compileCall_congr (alike : g.Alike functions h) (visiting : List Nat)
    (iri : String) : compileCall ⟨g, functions, base⟩ visiting iri =
      compileCall ⟨h, functions, base⟩ visiting iri := by
  generalize same : (⟨g, functions, base⟩ : Context) = ctx
  fun_induction compileCall ctx visiting iri with
  | case1 visiting iri unknown =>
    subst same
    rw [compileCall_eq, ← alike.placeOf?, unknown]
    rfl
  | case2 visiting iri place placed visited =>
    subst same
    rw [compileCall_eq, ← alike.placeOf?, placed, Option.map_some, if_pos visited]
    rfl
  | case3 visiting iri place placed fresh missing =>
    subst same
    rw [compileCall_eq, ← alike.placeOf?, placed, Option.map_some, if_neg fresh,
      ← alike.callSource, missing]
    rfl
  | case4 visiting iri place placed fresh map found ih =>
    subst same
    rw [compileCall_eq, ← alike.placeOf?, placed, Option.map_some, if_neg fresh,
      ← alike.callSource, found]
    exact congrArg _ (funext ih)

/-- A term map is compiled alike among rule graphs that are alike. -/
theorem Producer.compile_congr (alike : g.Alike functions h) (label : String) (m : TermMap)
    (position : Position) : compile ⟨g, functions, base⟩ label m position =
      compile ⟨h, functions, base⟩ label m position := by
  have calls : Context.compileCall ⟨g, functions, base⟩ [] =
      Context.compileCall ⟨h, functions, base⟩ [] := funext (Context.compileCall_congr alike [])
  rw [compile_eq_stackless, compile_eq_stackless, stackless, stackless, calls]

end

/-- A fold does not notice what is changed if its step does not. -/
theorem foldlM_zipIdx_modify {α β : Type} {step : β → α × Nat → Except Fault β} {f : α → α}
    {xs : List α} {i : Nat}
    (same : ∀ x, xs[i]? = some x → ∀ b n, step b (f x, n) = step b (x, n)) (start : Nat) (b : β) :
    ((xs.modify i f).zipIdx start).foldlM step b = (xs.zipIdx start).foldlM step b := by
  induction xs generalizing i start b with
  | nil => rw [List.modify_nil]
  | cons x xs ih =>
    cases i with
    | zero =>
      rw [List.modify_zero_cons, List.zipIdx_cons, List.zipIdx_cons, List.foldlM_cons,
        List.foldlM_cons, same x rfl]
    | succ i =>
      rw [List.modify_succ_cons, List.zipIdx_cons, List.zipIdx_cons, List.foldlM_cons,
        List.foldlM_cons]
      refine congrArg _ (funext fun b => ih (fun y found => same y found) _ b)

namespace TriplesMap

variable {functions : Registry} {map : TriplesMap} {i k : Nat} {pom : PredicateObjectMap}
  {reference other : ReferencingMap}

theorem callSource_replaceObject (inMap : map.predicateObjectMaps[i]? = some pom)
    (inPom : pom.objectMaps[k]? = some (.reference reference))
    (call : String → Except Fault ValueSource) :
    (map.replaceObject i k (.reference other)).callSource functions call =
      map.callSource functions call := by
  have poms : (map.replaceObject i k (.reference other)).predicateObjectMaps.zipIdx.foldlM
        (CallDraft.addPredicateObjects call map.iri) CallDraft.empty =
      map.predicateObjectMaps.zipIdx.foldlM (CallDraft.addPredicateObjects call map.iri)
        CallDraft.empty := by
    refine foldlM_zipIdx_modify (fun x found draft n => ?_) 0 _
    cases inMap.symm.trans found
    simp only [CallDraft.addPredicateObjects]
    congr 1
    funext draft m
    simp only [CallDraft.addPredicate]
    split
    · rfl
    · rw [List.set_eq_modify]
      refine foldlM_zipIdx_modify (fun x found draft n => ?_) 0 _
      cases inPom.symm.trans found
      rfl
  rw [callSource, callSource]
  exact congrArg (· >>= _) poms

end TriplesMap

section

variable {maps : List TriplesMap} {c i k : Nat} {child : TriplesMap} {pom : PredicateObjectMap}
  {reference other : ReferencingMap}

/-- What does not look at the object maps sees the same triples maps. -/
theorem map_modify_replaceObject {α : Type} (see : TriplesMap → α) (object : ObjectMap)
    (blind : ∀ map : TriplesMap, maps[c]? = some map →
      see (map.replaceObject i k object) = see map) :
    (maps.modify c (·.replaceObject i k object)).map see = maps.map see := by
  refine List.ext_getElem? fun place => ?_
  rw [List.getElem?_map, List.getElem?_map, List.getElem?_modify]
  cases found : maps[place]? with
  | none => rfl
  | some map =>
    by_cases here : c = place
    · subst here
      simp [blind map found]
    · simp [here]

theorem RuleGraph.alike_replaceObject (functions : Registry) (stands : maps[c]? = some child)
    (inMap : child.predicateObjectMaps[i]? = some pom)
    (inPom : pom.objectMaps[k]? = some (.reference reference)) :
    (ofList maps).Alike functions
      (ofList (maps.modify c (·.replaceObject i k (.reference other)))) := by
  have seen {α : Type} (see : TriplesMap → α)
      (blind : see (child.replaceObject i k (.reference other)) = see child) (place : Nat) :
      ((ofList maps).get? place).map see =
        ((ofList (maps.modify c (·.replaceObject i k (.reference other)))).get? place).map see := by
    have same : (maps.modify c (·.replaceObject i k (.reference other))).map see =
        maps.map see := by
      refine map_modify_replaceObject see _ fun map found => ?_
      cases stands.symm.trans found
      exact blind
    rw [get?, get?, maps_ofList, maps_ofList, ← List.getElem?_map, ← List.getElem?_map, same]
  constructor
  · intro iri
    rw [placeOf?_ofList, placeOf?_ofList]
    have iris : (maps.modify c (·.replaceObject i k (.reference other))).map TriplesMap.iri =
        maps.map TriplesMap.iri := map_modify_replaceObject TriplesMap.iri _ fun _ _ => rfl
    have through (xs : List TriplesMap) : xs.findIdx? (fun m => m.iri = iri) =
        (xs.map TriplesMap.iri).findIdx? (· = iri) := by
      rw [List.findIdx?_map]
      rfl
    rw [through, through, iris]
  · exact seen TriplesMap.subjectMap rfl
  · exact seen TriplesMap.logicalSource rfl
  · intro place call
    exact seen (·.callSource functions call)
      (TriplesMap.callSource_replaceObject inMap inPom call) place

end

section

variable {α β γ : Type} {see : β → γ}

/-- Lists made from the same items are seen alike, if each two entries are. -/
theorem map_eq_of_forall₂ {related related' : α → β → Prop} {xs : List α} {ps qs : List β}
    (one : List.Forall₂ related xs ps) (other : List.Forall₂ related' xs qs)
    (same : ∀ x p q, related x p → related' x q → see q = see p) : qs.map see = ps.map see := by
  induction one generalizing qs with
  | nil =>
    cases other
    rfl
  | cons here _ ih =>
    cases other with
    | cons there later => rw [List.map_cons, List.map_cons, same _ _ _ here there, ih later]

/-- Where one item is changed, the entry that is made from it is seen changed. -/
theorem map_eq_modify_of_forall₂ {related related' : α × Nat → β → Prop} {change : α → α}
    {changed : γ → γ} {xs : List α} {place start : Nat} {ps qs : List β}
    (one : List.Forall₂ related (xs.zipIdx start) ps)
    (other : List.Forall₂ related' ((xs.modify place change).zipIdx start) qs)
    (same : ∀ x p q, related x p → related' x q → see q = see p)
    (here : ∀ x n p q, xs[place]? = some x → related (x, n) p → related' (change x, n) q →
      see q = changed (see p)) :
    qs.map see = (ps.map see).modify place changed := by
  induction xs generalizing place start ps qs with
  | nil =>
    rw [List.modify_nil] at other
    cases one
    cases other
    rw [List.map_nil, List.modify_nil]
  | cons x xs ih =>
    cases one with
    | cons first rest =>
      cases place with
      | zero =>
        cases other with
        | cons first' rest' =>
          rw [List.map_cons, List.map_cons, List.modify_zero_cons, here x _ _ _ rfl first first',
            map_eq_of_forall₂ rest rest' same]
      | succ place =>
        cases other with
        | cons first' rest' =>
          rw [List.map_cons, List.map_cons, List.modify_succ_cons, same _ _ _ first first',
            ih rest rest' fun y n p q found => here y n p q found]

end

/-- The object plan without the number of its join. -/
def ObjectPlan.unnumbered : ObjectPlan → ObjectPlan
  | .join _ expressions => .join 0 expressions
  | .term producer => .term producer
  | .sameRecord subject targets => .sameRecord subject targets

def PredicateObjectPlan.unnumbered (plan : PredicateObjectPlan) : PredicateObjectPlan :=
  { plan with objects := plan.objects.map ObjectPlan.unnumbered }

def PredicateObjectPlan.replaceObject (plan : PredicateObjectPlan) (k : Nat)
    (object : ObjectPlan) : PredicateObjectPlan :=
  { plan with objects := plan.objects.modify k fun _ => object }

/-- The plan is the other one with this object plan at its place; the numbers of joins aside. -/
structure MapPlan.Replaces (n m : MapPlan) (i k : Nat) (object : ObjectPlan) : Prop where
  subject : n.subject = m.subject
  subjectGraphs : n.subjectGraphs = m.subjectGraphs
  classes : n.classes = m.classes
  predicateObjects : n.predicateObjects.map PredicateObjectPlan.unnumbered =
    (m.predicateObjects.map PredicateObjectPlan.unnumbered).modify i (·.replaceObject k object)

section

variable {functions : Registry} {g h : RuleGraph} {base : Option String} {ledger ledger' : Ledger}
  {place place' : Nat} {map map' : TriplesMap}

theorem Producer.RealizeAll.eq (alike : g.Alike functions h) {label : String}
    {position : Position} {maps : List TermMap} {ps qs : List Producer}
    (one : RealizeAll ⟨g, functions, base⟩ label position maps ps)
    (other : RealizeAll ⟨h, functions, base⟩ label position maps qs) : qs = ps := by
  have same : qs.map id = ps.map id := by
    refine map_eq_of_forall₂ one other fun m p q first next => ?_
    rw [compile_congr alike, next] at first
    exact Except.ok.inj first
  rwa [List.map_id, List.map_id] at same

namespace ObjectPlan

theorem Realizes.unnumbered_eq (alike : g.Alike functions h)
    (source : map.logicalSource = map'.logicalSource) {label : String} {object : ObjectMap}
    {p q : ObjectPlan} (one : p.Realizes ⟨g, functions, base⟩ ledger place map label object)
    (other : q.Realizes ⟨h, functions, base⟩ ledger' place' map' label object) :
    q.unnumbered = p.unnumbered := by
  have found? {place : Nat} {iri : String} {parent : TriplesMap} {graph : RuleGraph}
      (placed : graph.placeOf? iri = some place) (found : graph.get? place = some parent) :
      graph.find? iri = some parent := Option.bind_eq_some_iff.mpr ⟨place, placed, found⟩
  cases one with
  | term one =>
    cases other with
    | term other =>
      rw [Producer.compile_congr alike, other] at one
      cases one
      rfl
  | sameRecord found driven shared one =>
    cases other with
    | sameRecord found' driven' shared' other =>
      obtain ⟨subjects, -⟩ := alike.find? found found'
      rw [driven, driven'] at subjects
      cases subjects
      rw [Producer.compile_congr alike, other] at one
      cases one
      rfl
    | join placed found' driven' apart registered stored =>
      obtain ⟨-, sources⟩ := alike.find? found (found? placed found')
      exact (apart ⟨shared.1, sources.symm.trans (shared.2.trans source)⟩).elim
  | join placed found driven apart registered stored =>
    cases other with
    | sameRecord found' driven' shared' other =>
      obtain ⟨-, sources⟩ := alike.find? (found? placed found) found'
      exact (apart ⟨shared'.1, sources.trans (shared'.2.trans source.symm)⟩).elim
    | join placed' found' driven' apart' registered' stored' => rfl

/-- A reference with conditions is a join. -/
theorem Realizes.unnumbered_join {ctx : Context} {label : String} {reference : ReferencingMap}
    {q : ObjectPlan} (realized : q.Realizes ctx ledger place map label (.reference reference))
    (conditional : reference.conditions ≠ []) :
    q.unnumbered = .join 0 reference.childExpressions := by
  cases realized with
  | sameRecord found driven shared compiled => exact (conditional shared.1).elim
  | join placed found driven apart registered stored => rfl

end ObjectPlan

namespace PredicateObjectPlan

variable {entry : PredicateObjectMap × Nat} {p q : PredicateObjectPlan}

theorem Realizes.unnumbered_eq (alike : g.Alike functions h) (iri : map.iri = map'.iri)
    (source : map.logicalSource = map'.logicalSource)
    (one : p.Realizes ⟨g, functions, base⟩ ledger place map entry)
    (other : q.Realizes ⟨h, functions, base⟩ ledger' place' map' entry) :
    q.unnumbered = p.unnumbered := by
  obtain ⟨predicates, graphs, objects⟩ := one
  obtain ⟨predicates', graphs', objects'⟩ := other
  rw [← iri] at predicates' graphs' objects'
  exact (PredicateObjectPlan.mk.injEq ..).mpr ⟨predicates.eq alike predicates',
    map_eq_of_forall₂ objects objects' fun object first next one other =>
      one.unnumbered_eq alike source other,
    graphs.eq alike graphs'⟩

theorem Realizes.unnumbered_replace (alike : g.Alike functions h) (iri : map.iri = map'.iri)
    (source : map.logicalSource = map'.logicalSource) {k n : Nat} {pom : PredicateObjectMap}
    {reference : ReferencingMap} (conditional : reference.conditions ≠ [])
    (one : p.Realizes ⟨g, functions, base⟩ ledger place map (pom, n))
    (other : q.Realizes ⟨h, functions, base⟩ ledger' place' map'
      ({ pom with objectMaps := pom.objectMaps.set k (.reference reference) }, n)) :
    q.unnumbered = p.unnumbered.replaceObject k (.join 0 reference.childExpressions) := by
  obtain ⟨predicates, graphs, objects⟩ := one
  obtain ⟨predicates', graphs', objects'⟩ := other
  rw [← iri] at predicates' graphs' objects'
  rw [List.set_eq_modify] at objects'
  refine (PredicateObjectPlan.mk.injEq ..).mpr ⟨predicates.eq alike predicates', ?_,
    graphs.eq alike graphs'⟩
  refine map_eq_modify_of_forall₂ objects objects' (fun object first next one other =>
    one.unnumbered_eq alike source other) ?_
  exact fun object m first next found one other => other.unnumbered_join conditional

end PredicateObjectPlan

/-- With a reference replaced by a conditional one, the plan has a join in its place. -/
theorem MapPlan.Realizes.replaces (alike : g.Alike functions h) {d : Driven} {i k : Nat}
    {reference : ReferencingMap} (conditional : reference.conditions ≠ []) {m n : MapPlan}
    (one : m.Realizes ⟨g, functions, base⟩ ledger d)
    (other : n.Realizes ⟨h, functions, base⟩ ledger'
      { d with map := d.map.replaceObject i k (.reference reference) }) :
    n.Replaces m i k (.join 0 reference.childExpressions) := by
  constructor
  · have first := one.subject
    have next := other.subject
    rw [Producer.compile_congr alike] at first
    exact Except.ok.inj (next.symm.trans first)
  · exact one.subjectGraphs.eq alike other.subjectGraphs
  · rw [one.classes, other.classes]
  · let map := d.map.replaceObject i k (.reference reference)
    have iri : d.map.iri = map.iri := rfl
    have source : d.map.logicalSource = map.logicalSource := rfl
    have next := other.predicateObjects
    refine map_eq_modify_of_forall₂ one.predicateObjects next ?_ ?_
    · exact fun pom p q first next => first.unnumbered_eq alike iri source next
    · exact fun pom n p q _ first next =>
        first.unnumbered_replace alike iri source conditional next

/-- Where the join stands, its predicates and graphs are those of the object it stands for. -/
theorem MapPlan.Replaces.terms {m n : MapPlan} {i k : Nat} {object : ObjectPlan}
    (replaces : n.Replaces m i k object) {pom pom' : PredicateObjectPlan}
    (one : m.predicateObjects[i]? = some pom) (other : n.predicateObjects[i]? = some pom') :
    pom'.predicates = pom.predicates ∧ pom'.graphs = pom.graphs := by
  have here : (n.predicateObjects.map PredicateObjectPlan.unnumbered)[i]? =
      some (pom.unnumbered.replaceObject k object) := by
    rw [replaces.predicateObjects, List.getElem?_modify, List.getElem?_map, one]
    simp
  rw [List.getElem?_map, other, Option.map_some, Option.some.injEq] at here
  have predicates := congrArg PredicateObjectPlan.predicates here
  have graphs := congrArg PredicateObjectPlan.graphs here
  exact ⟨predicates, graphs⟩

end

/-- Where one item is changed to one that has less, the whole list has less by the same. -/
theorem flatMap_modify_perm {α β : Type} {f : α → List β} {change : α → α} {xs : List α}
    {place : Nat} {x : α} (found : xs[place]? = some x) {more : List β}
    (here : (f x).Perm (f (change x) ++ more)) :
    (xs.flatMap f).Perm ((xs.modify place change).flatMap f ++ more) := by
  induction xs generalizing place with
  | nil => cases found
  | cons y ys ih =>
    cases place with
    | zero =>
      cases found
      rw [List.modify_zero_cons, List.flatMap_cons, List.flatMap_cons, List.append_assoc]
      refine (here.append_right _).trans ?_
      rw [List.append_assoc]
      exact List.Perm.append_left _ List.perm_append_comm
    | succ place =>
      rw [List.modify_succ_cons, List.flatMap_cons, List.flatMap_cons, List.append_assoc]
      exact (ih found).append_left _

namespace MapPlan

variable {m n : MapPlan} {record : Record}

theorem objectQuads_unnumbered (pom : PredicateObjectPlan) (object : ObjectPlan) :
    m.objectQuads pom record object.unnumbered = m.objectQuads pom record object := by
  cases object with
  | term producer => rfl
  | sameRecord subject targets => rfl
  | join join expressions => rw [ObjectPlan.unnumbered, objectQuads_join, objectQuads_join]

theorem flatMap_unnumbered (m : MapPlan) (record : Record) (poms : List PredicateObjectPlan) :
    (poms.map PredicateObjectPlan.unnumbered).flatMap (m.predicateObjectQuads record) =
      poms.flatMap (m.predicateObjectQuads record) := by
  rw [List.flatMap_map]
  refine List.flatMap_congr fun pom _ => ?_
  rw [predicateObjectQuads, PredicateObjectPlan.unnumbered, List.flatMap_map]
  exact List.flatMap_congr fun object _ => objectQuads_unnumbered pom object

/-- Where a join stands for another object, a record gives less by what that object has. -/
theorem Replaces.survey_perm {i k join : Nat} {expressions : List String}
    (replaces : n.Replaces m i k (.join join expressions)) {pom : PredicateObjectPlan}
    (inMap : m.predicateObjects[i]? = some pom) {object : ObjectPlan}
    (inPom : pom.objects[k]? = some object) {emitClasses : Bool} {quads rest : List Quad}
    (one : (m.survey emitClasses record).outcome = .ok quads)
    (other : (n.survey emitClasses record).outcome = .ok rest) :
    quads.Perm (rest ++ m.objectQuads pom record object) := by
  have same : n.predicateObjectQuads record = m.predicateObjectQuads record := by
    funext pom
    unfold predicateObjectQuads objectQuads
    rw [replaces.subject, replaces.subjectGraphs]
  rw [survey_gives one, survey_gives other, same, ← flatMap_unnumbered m,
    ← flatMap_unnumbered m record n.predicateObjects, replaces.predicateObjects, replaces.subject,
    replaces.subjectGraphs, List.append_assoc, classQuads, classQuads, replaces.classes]
  refine List.Perm.append_left _ ?_
  have planned : (m.predicateObjects.map PredicateObjectPlan.unnumbered)[i]? =
      some pom.unnumbered := by
    rw [List.getElem?_map, inMap, Option.map_some]
  have standing : pom.unnumbered.objects[k]? = some object.unnumbered := by
    rw [PredicateObjectPlan.unnumbered, List.getElem?_map, inPom, Option.map_some]
  refine flatMap_modify_perm planned ?_
  refine flatMap_modify_perm standing (List.Perm.of_eq ?_)
  rw [objectQuads_unnumbered, objectQuads_join, List.nil_append]
  rfl

end MapPlan

end RdfMapping
