import RdfMapping.Function.Grel
import RdfMapping.Proofs.CheckedTermMaps

/-!
# Term maps that are relied on

A rule graph that compiles relies on the term maps of its driven triples maps and, to
any depth, on those that give the parameters of the functions that these call. Each
of them is checked. The predicate maps of a function map and the object maps that name
its function are not: they are read for their constant IRI alone, and whatever else
they declare is not looked at.
-/

namespace RdfMapping

/-- The term maps that make terms, or the values of a parameter of a function, and where. -/
inductive RuleGraph.Relies (g : RuleGraph) : Position → TermMap → Prop where
  | subject {d : Driven} (driven : d ∈ g.driven) : Relies g .subject d.subjectMap.termMap
  | subjectGraph {d : Driven} {m : TermMap} (driven : d ∈ g.driven)
      (listed : m ∈ d.subjectMap.graphMaps) : Relies g .graph m
  | predicate {d : Driven} {pom : PredicateObjectMap} {m : TermMap} (driven : d ∈ g.driven)
      (inMap : pom ∈ d.map.predicateObjectMaps) (listed : m ∈ pom.predicateMaps) :
      Relies g .predicate m
  | graph {d : Driven} {pom : PredicateObjectMap} {m : TermMap} (driven : d ∈ g.driven)
      (inMap : pom ∈ d.map.predicateObjectMaps) (listed : m ∈ pom.graphMaps) : Relies g .graph m
  | object {d : Driven} {pom : PredicateObjectMap} {m : TermMap} (driven : d ∈ g.driven)
      (inMap : pom ∈ d.map.predicateObjectMaps) (listed : .term m ∈ pom.objectMaps) :
      Relies g .object m
  /-- The subject of a parent that is taken from the same record. -/
  | parent {d : Driven} {pom : PredicateObjectMap} {reference : ReferencingMap}
      {parent : TriplesMap} {s : SubjectMap} (driven : d ∈ g.driven)
      (inMap : pom ∈ d.map.predicateObjectMaps) (listed : .reference reference ∈ pom.objectMaps)
      (found : g.find? reference.parent = some parent) (subject : parent.subjectMap = some s)
      (shared : reference.conditions = [] ∧ parent.logicalSource = d.map.logicalSource) :
      Relies g .subject s.termMap
  /-- A parameter of a function that is called by a term map relied on. -/
  | parameter {position : Position} {caller : TermMap} {iri : String} {called : TriplesMap}
      {pom : PredicateObjectMap} {predicate m : TermMap} {name : String}
      (relied : Relies g position caller) (calls : caller.functionValue = some iri)
      (found : g.find? iri = some called) (inMap : pom ∈ called.predicateObjectMaps)
      (under : predicate ∈ pom.predicateMaps) (named : predicate.constantIri? = some name)
      (value : Vocabulary.isExecutes name = false) (listed : .term m ∈ pom.objectMaps) :
      Relies g .object m

/-- A function map that is called by a term map relied on. -/
def RuleGraph.Calls (g : RuleGraph) (called : TriplesMap) : Prop :=
  ∃ position caller iri, g.Relies position caller ∧ caller.functionValue = some iri ∧
    g.find? iri = some called

section

variable {functions : Registry} {call : String → Except Fault ValueSource} {source : ValueSource}

/-- Under a predicate that names the function stands a constant IRI, under any other a parameter. -/
theorem CallDraft.addObject_ok {iri label predicate : String} {before after : CallDraft}
    {object : ObjectMap}
    (added : before.addObject call iri label predicate object = .ok after) :
    ∃ m, object = .term m ∧
      (Vocabulary.isExecutes predicate → ∃ function, m.constantIri? = some function) ∧
      (Vocabulary.isExecutes predicate = false →
        ∃ source, m.compileSource call label .object = .ok source) := by
  cases object with
  | reference reference => cases added
  | term m =>
    refine ⟨m, rfl, fun executes => ?_, fun value => ?_⟩
    · cases named : m.constantIri? with
      | some function => exact ⟨function, rfl⟩
      | none =>
        simp only [addObject, executes, named, if_true] at added
        cases added
    · simp only [addObject, value, Bool.false_eq_true, if_false] at added
      obtain ⟨source, made, -⟩ := bind_eq_ok_iff.mp added
      exact ⟨source, made⟩

theorem TriplesMap.callSource_ok {m : TriplesMap}
    (made : m.callSource functions call = .ok source) {pom : PredicateObjectMap}
    (inMap : pom ∈ m.predicateObjectMaps) {predicate : TermMap}
    (under : predicate ∈ pom.predicateMaps) :
    ∃ name, predicate.constantIri? = some name ∧ ∀ object ∈ pom.objectMaps,
      ∃ o, object = .term o ∧
        (Vocabulary.isExecutes name → ∃ function, o.constantIri? = some function) ∧
        (Vocabulary.isExecutes name = false →
          ∃ label source, o.compileSource call label .object = .ok source) := by
  rw [callSource] at made
  -- The draft is folded over the statements, their predicates and their objects: where the whole
  -- fold succeeds, so does the step at this one.
  obtain ⟨draft, drafted, -⟩ := bind_eq_ok_iff.mp made
  obtain ⟨i, numbered⟩ := exists_mem_zipIdx inMap
  obtain ⟨before, after, added⟩ := foldlM_eq_ok drafted _ numbered
  rw [CallDraft.addPredicateObjects] at added
  obtain ⟨before, after, added⟩ := foldlM_eq_ok added _ under
  rw [CallDraft.addPredicate] at added
  cases named : predicate.constantIri? with
  | none =>
    rw [named] at added
    cases added
  | some name =>
    rw [named] at added
    refine ⟨name, rfl, fun object listed => ?_⟩
    obtain ⟨k, numbered⟩ := exists_mem_zipIdx listed
    obtain ⟨before, after, added⟩ := foldlM_eq_ok added _ numbered
    obtain ⟨o, same, executes, value⟩ := CallDraft.addObject_ok added
    exact ⟨o, same, executes, fun other => ⟨_, value other⟩⟩

theorem Context.compileCall_ok_iff {ctx : Context} {visiting : List Nat} {iri : String} :
    ctx.compileCall visiting iri = .ok source ↔ ∃ place called,
      ctx.graph.placeOf? iri = some place ∧ place ∉ visiting ∧
        ctx.graph.get? place = some called ∧
        called.callSource ctx.functions (ctx.compileCall (place :: visiting)) = .ok source := by
  rw [compileCall]
  split
  · rename_i unknown
    simp [unknown]
  · rename_i place placed
    split
    · rename_i visited
      simp [placed, visited]
    · rename_i fresh
      split
      · rename_i missing
        simp [placed, missing]
      · rename_i called found
        simp [placed, fresh, found]

theorem Context.compileCall_ok {ctx : Context} {visiting : List Nat} {iri : String}
    (made : ctx.compileCall visiting iri = .ok source) {called : TriplesMap}
    (found : ctx.graph.find? iri = some called) :
    ∃ deeper, called.callSource ctx.functions (ctx.compileCall deeper) = .ok source := by
  obtain ⟨place, placed, stands⟩ := Option.bind_eq_some_iff.mp found
  obtain ⟨_, _, placed', -, stands', made⟩ := compileCall_ok_iff.mp made
  cases placed.symm.trans placed'
  cases stands.symm.trans stands'
  exact ⟨_, made⟩

end

/-- The term map passes its check, and its source is found whatever is being compiled. -/
def TermMap.Passes (ctx : Context) (position : Position) (m : TermMap) : Prop :=
  ∃ visiting label source, m.compileSource (ctx.compileCall visiting) label position = .ok source

namespace TermMap

variable {ctx : Context} {position : Position} {m : TermMap}

theorem Becomes.passes {p : Producer} (becomes : m.Becomes ctx position p) :
    m.Passes ctx position := by
  obtain ⟨label, compiled⟩ := becomes
  obtain ⟨checked, source, found, -⟩ := Producer.compile_ok_iff.mp compiled
  exact ⟨[], label, source, compileSource_ok_iff.mpr ⟨checked, found⟩⟩

theorem Passes.wellFormed (passes : m.Passes ctx position) :
    m.strategyCount = 1 ∧ position.allows (m.effectiveKind position) := by
  obtain ⟨visiting, label, source, made⟩ := passes
  obtain ⟨checked, -⟩ := compileSource_ok_iff.mp made
  exact ⟨strategyCount_of_check checked, effectiveKind_of_check checked⟩

/-- A function map that is called compiles, whatever is being compiled. -/
theorem Passes.called (passes : m.Passes ctx position) {iri : String}
    (calls : m.functionValue = some iri) {called : TriplesMap}
    (found : ctx.graph.find? iri = some called) :
    ∃ visiting source, called.callSource ctx.functions (ctx.compileCall visiting) = .ok source := by
  obtain ⟨visiting, label, source, made⟩ := passes
  obtain ⟨checked, given⟩ := compileSource_ok_iff.mp made
  rw [source_function (strategyCount_of_check checked) calls] at given
  obtain ⟨deeper, made⟩ := Context.compileCall_ok given found
  exact ⟨deeper, source, made⟩

end TermMap

section

variable {g : RuleGraph} {functions : Registry} {settings : Settings} {plan : Plan}

theorem Producer.RealizeAll.passes {ctx : Context} {label : String} {position : Position}
    {maps : List TermMap} {producers : List Producer}
    (realized : RealizeAll ctx label position maps producers) {m : TermMap} (listed : m ∈ maps) :
    m.Passes ctx position := by
  obtain ⟨p, -, becomes⟩ := exists_right_of_forall₂ realized.becomes listed
  exact becomes.passes

/-- Driven maps compile, and a call that compiles compiles what it calls. -/
theorem Plan.Realizes.passes (realized : plan.Realizes g functions settings) {position : Position}
    {m : TermMap} (relies : g.Relies position m) :
    m.Passes ⟨g, functions, settings.base⟩ position := by
  induction relies with
  | subject driven =>
    obtain ⟨m, -, whole⟩ := exists_right_of_forall₂ realized.maps driven
    exact TermMap.Becomes.passes ⟨_, whole.subject⟩
  | subjectGraph driven listed =>
    obtain ⟨m, -, whole⟩ := exists_right_of_forall₂ realized.maps driven
    exact whole.subjectGraphs.passes listed
  | predicate driven inMap listed =>
    obtain ⟨m, -, whole⟩ := exists_right_of_forall₂ realized.maps driven
    obtain ⟨i, pomPlan, -, realizes⟩ := whole.exists_predicateObject inMap
    exact realizes.predicates.passes listed
  | graph driven inMap listed =>
    obtain ⟨m, -, whole⟩ := exists_right_of_forall₂ realized.maps driven
    obtain ⟨i, pomPlan, -, realizes⟩ := whole.exists_predicateObject inMap
    exact realizes.graphs.passes listed
  | object driven inMap listed =>
    obtain ⟨m, -, whole⟩ := exists_right_of_forall₂ realized.maps driven
    obtain ⟨i, pomPlan, -, realizes⟩ := whole.exists_predicateObject inMap
    obtain ⟨label, object, -, made⟩ := realizes.exists_object listed
    cases made with
    | term compiled => exact TermMap.Becomes.passes ⟨_, compiled⟩
  | parent driven inMap listed known subject shared =>
    obtain ⟨m, -, whole⟩ := exists_right_of_forall₂ realized.maps driven
    obtain ⟨i, pomPlan, -, realizes⟩ := whole.exists_predicateObject inMap
    obtain ⟨label, object, -, made⟩ := realizes.exists_object listed
    cases made with
    | sameRecord known' subject' shared' compiled =>
      cases known.symm.trans known'
      cases subject.symm.trans subject'
      exact TermMap.Becomes.passes ⟨_, compiled⟩
    | join placed stands driven' apart registered stored =>
      -- A parent on the same record is no join.
      obtain ⟨_, placed', stands'⟩ := Option.bind_eq_some_iff.mp known
      cases placed.symm.trans placed'
      cases stands.symm.trans stands'
      exact (apart shared).elim
  | parameter relied calls found inMap under named value listed ih =>
    obtain ⟨visiting, source, made⟩ := ih.called calls found
    obtain ⟨name, named', objects⟩ := TriplesMap.callSource_ok made inMap under
    cases named.symm.trans named'
    obtain ⟨o, same, -, parameters⟩ := objects _ listed
    cases same
    obtain ⟨label, source, made⟩ := parameters value
    exact ⟨visiting, label, source, made⟩

end

/--
When a rule graph compiles, every term map that it relies on declares one source of
values and generates a kind that its position allows. In the function maps that are
called, every predicate map has a constant IRI, and so have the object maps that name
the function; under no predicate stands a reference to another triples map.
-/
theorem Plan.compile_checks_relied {maps : List TriplesMap} {functions : Registry}
    {settings : Settings} {plan : Plan}
    (compiled : compile (.ofList maps) functions settings = .ok plan) :
    (∀ position m, (RuleGraph.ofList maps).Relies position m →
      m.strategyCount = 1 ∧ position.allows (m.effectiveKind position)) ∧
    ∀ called, (RuleGraph.ofList maps).Calls called →
      ∀ pom ∈ called.predicateObjectMaps, ∀ predicate ∈ pom.predicateMaps,
        ∃ name, predicate.constantIri? = some name ∧ ∀ object ∈ pom.objectMaps,
          ∃ m, object = .term m ∧
            (Vocabulary.isExecutes name → ∃ function, m.constantIri? = some function) := by
  have realized := realizes_of_compile compiled
  refine ⟨fun position m relies => (realized.passes relies).wellFormed, ?_⟩
  rintro called ⟨position, caller, iri, relied, calls, found⟩ pom inMap predicate under
  obtain ⟨visiting, source, made⟩ := (realized.passes relied).called calls found
  obtain ⟨name, named, objects⟩ := TriplesMap.callSource_ok made inMap under
  refine ⟨name, named, fun object listed => ?_⟩
  obtain ⟨m, same, executes, -⟩ := objects object listed
  exact ⟨m, same, executes⟩

namespace Labels

def iri (text : String) : TermMap := .ofConstant (.iri text)

/-- The object of the label is the value of a call. -/
def label : TermMap := .ofFunction "urn:upper"

def labelled : PredicateObjectMap where
  predicateMaps := [iri "urn:label"]
  objectMaps := [.term label]

def product : TriplesMap where
  iri := "urn:product"
  logicalSource := { source := "products" }
  subjectMap := some { termMap := .ofReference "id" }
  predicateObjectMaps := [labelled]

/-- Names the function by a constant, beside a template. -/
def function : TermMap := { iri Vocabulary.toUpperCase with template := some "urn:f" }

/-- Names the parameter by a constant, beside a reference. -/
def twofold : TermMap := { iri Vocabulary.valueParameter with reference := some "name" }

/-- Names the parameter by a constant, and asks for a literal. -/
def literal : TermMap := { iri Vocabulary.valueParameter with kind := some .literal }

def name : TermMap := .ofReference "name"

def calledFunction : PredicateObjectMap where
  predicateMaps := [iri Vocabulary.executes]
  objectMaps := [.term function]

def input : PredicateObjectMap where
  predicateMaps := [twofold, literal]
  objectMaps := [.term name]

def upper : TriplesMap where
  iri := "urn:upper"
  logicalSource := { source := "products" }
  predicateObjectMaps := [calledFunction, input]

def graph : RuleGraph := .ofList [product, upper]

def plan : Plan := ((Plan.compile (.ofList [product, upper]) .grel {}).toOption).get rfl

theorem compiled : Plan.compile (.ofList [product, upper]) .grel {} = .ok plan := rfl

theorem relies_label : graph.Relies .object label := by
  have driven : ⟨0, product, { termMap := .ofReference "id" }⟩ ∈ graph.driven :=
    RuleGraph.mem_driven.mpr ⟨rfl, rfl⟩
  have inMap : labelled ∈ product.predicateObjectMaps := List.mem_singleton_self _
  have listed : .term label ∈ labelled.objectMaps := List.mem_singleton_self _
  exact .object driven inMap listed

theorem found : graph.find? "urn:upper" = some upper := rfl

theorem calls_upper : graph.Calls upper := ⟨.object, label, "urn:upper", relies_label, rfl, found⟩

theorem relies_name : graph.Relies .object name := by
  have inMap : input ∈ upper.predicateObjectMaps := by decide
  have under : twofold ∈ input.predicateMaps := by decide
  have listed : .term name ∈ input.objectMaps := List.mem_singleton_self _
  exact .parameter relies_label rfl found inMap under rfl (by decide) listed

end Labels

theorem labels_rely_on_checked :
    Plan.compile (.ofList [Labels.product, Labels.upper]) .grel {} = .ok Labels.plan ∧
    (Labels.graph.Relies .object Labels.name ∧ Labels.name.strategyCount = 1 ∧
      Position.object.allows (Labels.name.effectiveKind .object)) ∧
    Labels.graph.Calls Labels.upper ∧
    ∃ parameter, Labels.literal.constantIri? = some parameter := by
  obtain ⟨checked, called⟩ := Plan.compile_checks_relied Labels.compiled
  have inMap : Labels.input ∈ Labels.upper.predicateObjectMaps := by decide
  have under : Labels.literal ∈ Labels.input.predicateMaps := by decide
  obtain ⟨parameter, named, -⟩ := called _ Labels.calls_upper _ inMap _ under
  exact ⟨Labels.compiled, ⟨Labels.relies_name, checked _ _ Labels.relies_name⟩, Labels.calls_upper,
    parameter, named⟩

/-- A rule graph compiles although a function map that it calls has predicate maps and an object
map that fail their checks. -/
theorem labels_call_unchecked :
    Plan.compile (.ofList [Labels.product, Labels.upper]) .grel {} = .ok Labels.plan ∧
    Labels.graph.Calls Labels.upper ∧
    (∃ pom ∈ Labels.upper.predicateObjectMaps, ∃ m ∈ pom.predicateMaps, m.strategyCount = 2) ∧
    (∃ pom ∈ Labels.upper.predicateObjectMaps, ∃ m ∈ pom.predicateMaps,
      Position.predicate.allows (m.effectiveKind .predicate) = false) ∧
    ∃ pom ∈ Labels.upper.predicateObjectMaps, ∃ m, .term m ∈ pom.objectMaps ∧
      m.strategyCount = 2 := by
  have input : Labels.input ∈ Labels.upper.predicateObjectMaps := by decide
  have calledFunction : Labels.calledFunction ∈ Labels.upper.predicateObjectMaps := by decide
  refine ⟨Labels.compiled, Labels.calls_upper, ⟨_, input, Labels.twofold, by decide, rfl⟩,
    ⟨_, input, Labels.literal, by decide, rfl⟩, ?_⟩
  exact ⟨_, calledFunction, Labels.function, List.mem_singleton_self _, rfl⟩

end RdfMapping
