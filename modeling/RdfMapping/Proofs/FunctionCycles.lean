import Mathlib.Logic.Relation
import RdfMapping.Proofs.FunctionMaps

/-!
# Cycles of function calls

A function map calls others for the values of its parameters, and these may lead back to
it. Compiling a term map ends on every rule graph, with the stack as it was found. It
succeeds only where no cycle of calls can be reached, and reports one only where there is
one: a function map that is reached along several paths is none.
-/

namespace RdfMapping

/-- A parameter of the function map is the value of a call. The object maps under a predicate
that names the function give no parameter. -/
def TriplesMap.Invokes (map : TriplesMap) (iri : String) : Prop :=
  ∃ pom ∈ map.predicateObjectMaps, ∃ predicate ∈ pom.predicateMaps, ∃ name,
    predicate.constantIri? = some name ∧ Vocabulary.isExecutes name = false ∧
      ∃ m, .term m ∈ pom.objectMaps ∧ m.functionValue = some iri

/-- The place of the first triples map with the IRI. -/
def IsPlaceOf (maps : List TriplesMap) (iri : String) (place : Nat) : Prop :=
  maps.findIdx? (fun map => map.iri = iri) = some place

/-- The function map at the first place calls the one at the second. -/
def Invokes (maps : List TriplesMap) (caller called : Nat) : Prop :=
  ∃ map iri, maps[caller]? = some map ∧ map.Invokes iri ∧ IsPlaceOf maps iri called

/-- From the function map of the IRI calls lead to one that calls itself, directly or not. -/
def ReachesCycle (maps : List TriplesMap) (iri : String) : Prop :=
  ∃ start looped, IsPlaceOf maps iri start ∧ Relation.ReflTransGen (Invokes maps) start looped ∧
    Relation.TransGen (Invokes maps) looped looped

section

variable {maps : List TriplesMap} {ctx : Context}

theorem Context.placeOf?_iff (graph : ctx.graph = .ofList maps) {iri : String} {place : Nat} :
    ctx.graph.placeOf? iri = some place ↔ IsPlaceOf maps iri place := by
  rw [graph, RuleGraph.placeOf?_ofList, IsPlaceOf]

theorem Context.get?_eq (graph : ctx.graph = .ofList maps) (place : Nat) :
    ctx.graph.get? place = maps[place]? := by
  rw [graph, RuleGraph.get?, RuleGraph.maps_ofList]

/-- The function map at the place compiles while those of the list are being compiled. -/
def Context.Enters (ctx : Context) (visiting : List Nat) (place : Nat) : Prop :=
  ∃ iri source, ctx.graph.placeOf? iri = some place ∧ ctx.compileCall visiting iri = .ok source

theorem Context.Enters.fresh {visiting : List Nat} {place : Nat}
    (enters : ctx.Enters visiting place) : place ∉ visiting := by
  obtain ⟨iri, source, placed, made⟩ := enters
  obtain ⟨_, map, placed', fresh, -⟩ := compileCall_ok_iff.mp made
  cases placed.symm.trans placed'
  exact fresh

/-- With a function map all those compile that it calls, and it is being compiled then. -/
theorem Context.Enters.invoked (graph : ctx.graph = .ofList maps) {visiting : List Nat}
    {caller called : Nat} (enters : ctx.Enters visiting caller)
    (invokes : Invokes maps caller called) : ctx.Enters (caller :: visiting) called := by
  obtain ⟨map, iri, stands, ⟨pom, inMap, predicate, under, name, named, value, m, listed, calls⟩,
    placed⟩ := invokes
  obtain ⟨_, _, placed', made⟩ := enters
  obtain ⟨_, _, placed'', -, found, made⟩ := compileCall_ok_iff.mp made
  cases placed'.symm.trans placed''
  rw [get?_eq graph, stands] at found
  cases found
  obtain ⟨_, named', objects⟩ := TriplesMap.callSource_ok made inMap under
  cases named.symm.trans named'
  obtain ⟨_, same, -, parameters⟩ := objects _ listed
  cases same
  obtain ⟨label, source, made⟩ := parameters value
  obtain ⟨checked, given⟩ := TermMap.compileSource_ok_iff.mp made
  rw [TermMap.source_function (TermMap.strategyCount_of_check checked) calls] at given
  exact ⟨iri, source, (placeOf?_iff graph).mpr placed, given⟩

/-- Along calls the function maps that are being compiled are only added to. -/
theorem Context.Enters.reached (graph : ctx.graph = .ofList maps) {visiting : List Nat}
    {start place : Nat} (enters : ctx.Enters visiting start)
    (path : Relation.ReflTransGen (Invokes maps) start place) :
    ∃ deeper, visiting ⊆ deeper ∧ ctx.Enters deeper place := by
  induction path with
  | refl => exact ⟨visiting, List.Subset.refl _, enters⟩
  | tail _ invokes ih =>
    obtain ⟨deeper, kept, enters⟩ := ih
    exact ⟨_, List.subset_cons_of_subset _ kept, enters.invoked graph invokes⟩

theorem Context.not_reachesCycle_of_compileCall (graph : ctx.graph = .ofList maps) {iri : String}
    {source : ValueSource} (made : ctx.compileCall [] iri = .ok source) :
    ¬ ReachesCycle maps iri := by
  rintro ⟨start, looped, placed, path, cycle⟩
  have enters : ctx.Enters [] start := ⟨iri, source, (placeOf?_iff graph).mpr placed, made⟩
  obtain ⟨visiting, -, enters⟩ := enters.reached graph path
  -- On its way back to itself the function map is being compiled already.
  obtain ⟨next, invokes, back⟩ := Relation.TransGen.head'_iff.mp cycle
  obtain ⟨deeper, kept, again⟩ := (enters.invoked graph invokes).reached graph back
  exact again.fresh (kept List.mem_cons_self)

end

/-- The fault says that a function map refers to itself. -/
def Fault.isCycle : Fault → Bool
  | .invalidValue property _ => property = "rml:functionValue"
  | _ => false

/-- Raised before any record is read, and of a cycle only if there is one. -/
def Fault.Static (cyclic : Prop) (f : Fault) : Prop := f.isConstruction ∧ (f.isCycle → cyclic)

/-- Raised before any record is read, and not a list of other faults. -/
structure Fault.OfRules (f : Fault) : Prop where
  construction : f.isConstruction
  alone : f.members = [f]

/-- A fault of a rule graph that is not about a cycle. -/
structure Fault.Local (f : Fault) : Prop extends f.OfRules where
  noCycle : f.isCycle = false

theorem Fault.Local.static {cyclic : Prop} {f : Fault} (own : f.Local) : f.Static cyclic :=
  ⟨own.construction, fun cycle => by rw [own.noCycle] at cycle; cases cycle⟩

theorem TermMap.check_local (m : TermMap) (label : String) (position : Position) :
    Settles (m.check label position) Fault.Local fun _ => True := by
  rw [check]
  simp only [bind, Except.bind, pure, Except.pure, throw, throwThe, MonadExceptOf.throw]
  repeat' split
  all_goals first | trivial | exact ⟨⟨rfl, rfl⟩, rfl⟩

section

-- What is raised beside the calls is local, whatever else is allowed for.
variable {raised : Fault → Prop} {functions : Registry} {call : String → Except Fault ValueSource}

theorem TermMap.compileSource_raises (own : ∀ f : Fault, f.Local → raised f) (m : TermMap)
    (calls : ∀ iri, m.functionValue = some iri → Settles (call iri) raised fun _ => True)
    (label : String) (position : Position) :
    Settles (m.compileSource call label position) raised fun _ => True := by
  rw [compileSource, ofExcept_eq]
  refine ((m.check_local label position).imp own fun _ _ => trivial).bind fun _ _ => ?_
  rw [source]
  split
  · trivial
  · trivial
  · split
    · trivial
    · exact own _ ⟨⟨rfl, rfl⟩, rfl⟩
  · rename_i iri _ _ _ declared
    exact calls iri declared
  · exact own _ ⟨⟨rfl, rfl⟩, rfl⟩

theorem TriplesMap.callSource_raises (own : ∀ f : Fault, f.Local → raised f) (map : TriplesMap)
    (calls : ∀ iri, map.Invokes iri → Settles (call iri) raised fun _ => True) :
    Settles (map.callSource functions call) raised fun _ => True := by
  have drafted : Settles (map.predicateObjectMaps.zipIdx.foldlM
      (CallDraft.addPredicateObjects call map.iri) CallDraft.empty) raised fun _ => True := by
    refine Settles.foldlM (fun draft _ entry numbered => ?_) _ trivial
    have inMap := List.fst_mem_of_mem_zipIdx numbered
    refine Settles.foldlM (fun draft _ predicate under => ?_) _ trivial
    rw [CallDraft.addPredicate]
    split
    · exact own _ ⟨⟨rfl, rfl⟩, rfl⟩
    · rename_i name named
      refine Settles.foldlM (fun draft _ object numbered => ?_) _ trivial
      have listed := List.fst_mem_of_mem_zipIdx numbered
      obtain ⟨object, i⟩ := object
      cases object with
      | reference r => exact own _ ⟨⟨rfl, rfl⟩, rfl⟩
      | term m =>
        simp only [CallDraft.addObject]
        split
        · split
          · trivial
          · exact own _ ⟨⟨rfl, rfl⟩, rfl⟩
        · rename_i value
          refine (m.compileSource_raises own (fun iri calls' => calls iri ?_) _ _).bind
            fun source _ => trivial
          exact ⟨entry.1, inMap, predicate, under, name, named, by simpa using value, m, listed,
            calls'⟩
  rw [callSource]
  refine drafted.bind fun draft _ => ?_
  split
  · exact own _ ⟨⟨rfl, rfl⟩, rfl⟩
  · simp only [Registry.resolve]
    split
    · trivial
    · exact own _ ⟨⟨rfl, rfl⟩, rfl⟩

end

/-- While a function map is compiled that the root leads to, those on the stack lead to it. So
what is met again on the stack is on a cycle. -/
theorem Context.compileCall_static {maps : List TriplesMap} {ctx : Context}
    (graph : ctx.graph = .ofList maps) {root : String} (visiting : List Nat) (iri : String)
    (reached : ∀ place, IsPlaceOf maps iri place →
      (∀ v ∈ visiting, Relation.TransGen (Invokes maps) v place) ∧
        ∃ start, IsPlaceOf maps root start ∧ Relation.ReflTransGen (Invokes maps) start place) :
    Settles (ctx.compileCall visiting iri) (Fault.Static (ReachesCycle maps root))
      fun _ => True := by
  fun_induction compileCall ctx visiting iri with
  | case1 visiting iri unknown => exact Fault.Local.static ⟨⟨rfl, rfl⟩, rfl⟩
  | case2 visiting iri place placed visited =>
    obtain ⟨back, start, begins, path⟩ := reached place ((placeOf?_iff graph).mp placed)
    exact ⟨rfl, fun _ => ⟨start, place, begins, path, back place visited⟩⟩
  | case3 visiting iri place placed fresh missing => exact Fault.Local.static ⟨⟨rfl, rfl⟩, rfl⟩
  | case4 visiting iri place placed fresh map found ih =>
    obtain ⟨back, start, begins, path⟩ := reached place ((placeOf?_iff graph).mp placed)
    rw [get?_eq graph] at found
    refine map.callSource_raises (fun f own => own.static) fun callee calls =>
      ih callee fun next placed => ?_
    have invokes : Invokes maps place next := ⟨map, callee, found, calls, placed⟩
    refine ⟨List.forall_mem_cons.mpr ⟨.single invokes, fun v member => ?_⟩, start, begins,
      path.tail invokes⟩
    exact (back v member).tail invokes

theorem Producer.construct_static {maps : List TriplesMap} {ctx : Context}
    (graph : ctx.graph = .ofList maps) {m : TermMap} {cyclic : Prop}
    (cycles : ∀ iri, m.functionValue = some iri → ReachesCycle maps iri → cyclic)
    (label : String) (position : Position) :
    Settles (compile ctx label m position) (Fault.Static cyclic) fun _ => True := by
  rw [compile_eq_stackless]
  refine (m.compileSource_raises (fun f own => own.static) (fun iri calls => ?_) label
    position).bind fun source _ => trivial
  have root :
      Settles (ctx.compileCall [] iri) (Fault.Static (ReachesCycle maps iri)) fun _ => True :=
    Context.compileCall_static graph [] iri fun place placed =>
      ⟨fun v member => (List.not_mem_nil member).elim, place, placed, .refl⟩
  refine root.imp (fun f static => ⟨static.1, fun cycle => ?_⟩) fun _ _ => trivial
  exact cycles iri calls (static.2 cycle)

/--
Compiling a term map ends on every rule graph: with a bound on the depth of calls from the
number of triples maps on, the recursion on the stack is the one that needs no bound, and
it leaves the stack as it was. It succeeds only if no cycle of calls can be reached, and
without one it never reports that a function map refers to itself.
-/
theorem Producer.construct_detects_cycles (maps : List TriplesMap) (functions : Registry)
    (base : Option String) (label : String) (m : TermMap) (position : Position) :
    let ctx : Context := ⟨.ofList maps, functions, base⟩
    (∀ depth, maps.length ≤ depth → ∀ stack iri,
      ctx.constructCall depth iri stack = (ctx.compileCall stack iri, stack)) ∧
    ∃ outcome, construct ctx label m position [] = (outcome, []) ∧
      (∀ reason, outcome ≠ .error (.internal reason)) ∧
      (∀ p, outcome = .ok p → ∀ iri, m.functionValue = some iri → ¬ ReachesCycle maps iri) ∧
      ((∀ iri, m.functionValue = some iri → ¬ ReachesCycle maps iri) →
        ∀ called, outcome ≠ .error (Fault.functionCycle called)) := by
  intro ctx
  have graph : ctx.graph = .ofList maps := rfl
  have size : ctx.graph.size = maps.length := by rw [RuleGraph.size, graph, RuleGraph.maps_ofList]
  refine ⟨fun depth enough stack iri => ?_, compile ctx label m position,
    construct_gives ctx label m position, fun reason failed => ?_, fun p made iri calls => ?_,
    fun none called failed => ?_⟩
  · have entered := Context.length_unvisited_le ctx.graph stack
    exact ctx.constructCall_gives depth stack iri (by omega)
  · have static : Settles (compile ctx label m position) (Fault.Static True) fun _ => True :=
      construct_static graph (fun _ _ _ => trivial) label position
    rw [failed] at static
    cases static.1
  · obtain ⟨checked, source, found, -⟩ := compile_ok_iff.mp made
    rw [TermMap.source_function (TermMap.strategyCount_of_check checked) calls] at found
    exact Context.not_reachesCycle_of_compileCall graph found
  · have static := construct_static graph none label position
    rw [failed] at static
    exact static.2 rfl

namespace Nested

/-- A function map without an input but those of the calls. -/
def functionMap (iri : String) (called : List String) : TriplesMap where
  iri
  logicalSource := { source := "products" }
  predicateObjectMaps :=
    { predicateMaps := [.ofConstant (.iri Vocabulary.executes)]
      objectMaps := [.term (.ofConstant (.iri Vocabulary.toUpperCase))] } ::
    called.map fun other =>
      { predicateMaps := [.ofConstant (.iri Vocabulary.valueParameter)]
        objectMaps := [.term (.ofFunction other)] }

/-- Both ways lead to the same function map. -/
def shared : List TriplesMap :=
  [functionMap "urn:top" ["urn:left", "urn:right"], functionMap "urn:left" ["urn:trim"],
    functionMap "urn:right" ["urn:trim"], functionMap "urn:trim" []]

def circular : List TriplesMap :=
  [functionMap "urn:one" ["urn:other"], functionMap "urn:other" ["urn:one"]]

def compiled (maps : List TriplesMap) (iri : String) : Except Fault Producer :=
  (Producer.construct ⟨.ofList maps, .grel, none⟩ "label" (.ofFunction iri) .object []).1

theorem shared_compiles : ∃ p, compiled shared "urn:top" = .ok p := ⟨_, rfl⟩

theorem circular_fails : compiled circular "urn:one" = .error (Fault.functionCycle "urn:one") := rfl

end Nested

theorem nested_calls_detect_cycles :
    (∃ p, Nested.compiled Nested.shared "urn:top" = .ok p) ∧
    ¬ ReachesCycle Nested.shared "urn:top" ∧
    Nested.compiled Nested.circular "urn:one" = .error (Fault.functionCycle "urn:one") ∧
    ReachesCycle Nested.circular "urn:one" := by
  obtain ⟨p, made⟩ := Nested.shared_compiles
  obtain ⟨-, _, ran, -, acyclic, -⟩ := Producer.construct_detects_cycles Nested.shared .grel none
    "label" (.ofFunction "urn:top") .object
  obtain ⟨-, _, failed, -, -, reported⟩ := Producer.construct_detects_cycles Nested.circular .grel
    none "label" (.ofFunction "urn:one") .object
  have cyclic : ReachesCycle Nested.circular "urn:one" := by
    refine Classical.byContradiction fun none => ?_
    refine reported (fun iri calls reaches => ?_) "urn:one" ?_
    · cases calls
      exact none reaches
    · rw [← Nested.circular_fails, Nested.compiled, failed]
  refine ⟨⟨p, made⟩, acyclic p ?_ _ rfl, Nested.circular_fails, cyclic⟩
  rw [← made, Nested.compiled, ran]

end RdfMapping
