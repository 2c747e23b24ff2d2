import RdfMapping.Proofs.FunctionMaps
import RdfMapping.Proofs.NormalTemplates

/-!
# Executions of functions

A function map declares a function and its parameters: every object map is declared under
each predicate that stands with it. The last object under a predicate that names functions
is the function that is called. Each of the other predicates is a parameter, bound once,
where it is first declared, to the values of all object maps under it in order. A parameter
may be the value of another function map, which is executed in the same way.
-/

namespace RdfMapping

/-- The object maps of a statement under each of its predicates. -/
def PredicateObjectMap.declarations (pom : PredicateObjectMap) : List (String × ObjectMap) :=
  pom.constantPredicates.flatMap fun predicate => pom.objectMaps.map (predicate, ·)

def ObjectMap.constantIri? : ObjectMap → Option String
  | .term m => m.constantIri?
  | .reference _ => none

namespace TriplesMap

def declarations (m : TriplesMap) : List (String × ObjectMap) :=
  m.predicateObjectMaps.flatMap PredicateObjectMap.declarations

/-- What is declared under the predicates that name functions. -/
def functionDeclarations (m : TriplesMap) : List (String × ObjectMap) :=
  m.declarations.filter fun d => Vocabulary.isExecutes d.1

def parameterDeclarations (m : TriplesMap) : List (String × ObjectMap) :=
  m.declarations.filter fun d => !Vocabulary.isExecutes d.1

/-- The function map calls the function of this IRI: its last declaration of a function. -/
def Names (m : TriplesMap) (function : String) : Prop :=
  ∃ d, m.functionDeclarations.getLast? = some d ∧ d.2.constantIri? = some function

theorem Names.unique {m : TriplesMap} {function other : String} (named : m.Names function)
    (named' : m.Names other) : function = other := by
  obtain ⟨d, last, constant⟩ := named
  obtain ⟨d', last', constant'⟩ := named'
  cases last.symm.trans last'
  exact Option.some.inj (constant.symm.trans constant')

end TriplesMap

/-- Each parameter once, in the order of the first values given for it, with all values given
for it one after the other. -/
def Parameters.gather (given : List (String × List RawValue)) : Parameters where
  bindings := (given.map Prod.fst).eraseDups.map fun parameter =>
    (parameter, (given.filter (·.1 = parameter)).flatMap Prod.snd)

/-- What a declaration gives its parameter on a record. -/
inductive Context.Binds (ctx : Context) (record : Record) :
    String × ObjectMap → String × List RawValue → Prop where
  | constant {parameter : String} {m : TermMap} {t : Term} (declared : m.constant = some t) :
      Binds ctx record (parameter, .term m) (parameter, [.text t.lexical])
  | reference {parameter : String} {m : TermMap} {expression : String} {values : List RawValue}
      (declared : m.reference = some expression)
      (answered : record.evaluate expression = .ok values) :
      Binds ctx record (parameter, .term m) (parameter, values)
  | template {parameter : String} {m : TermMap} {text : String} {t : Template}
      {rows : List String} (declared : m.template = some text)
      (readable : Template.read text = .ok t)
      (filled : ValueSource.templateRows t (m.effectiveKind .object = .iri) record = .ok rows) :
      Binds ctx record (parameter, .term m) (parameter, rows.map .text)
  /-- The value of another execution, whose parameters are bound by the same rules. -/
  | call {parameter : String} {m : TermMap} {iri name : String} {called : TriplesMap}
      {function : Function} {given : List (String × List RawValue)} {value : RawValue}
      (declared : m.functionValue = some iri) (found : ctx.graph.find? iri = some called)
      (named : called.Names name) (registered : ctx.functions.find? name = some function)
      (bound : List.Forall₂ (Binds ctx record) called.parameterDeclarations given)
      (returned : function (.gather given) = .ok value) :
      Binds ctx record (parameter, .term m) (parameter, [value])

theorem Context.Binds.parameter_eq {ctx : Context} {record : Record} {declared : String × ObjectMap}
    {given : String × List RawValue} (binds : ctx.Binds record declared given) :
    given.1 = declared.1 := by
  cases binds <;> rfl

/-- The source calls the function that the function map names, and binds its parameters to what
the function map declares for them. -/
def Context.Executes (ctx : Context) (iri : String) (source : ValueSource) : Prop :=
  ∃ called name function parameters, ctx.graph.find? iri = some called ∧ called.Names name ∧
    ctx.functions.find? name = some function ∧ source = .call name function parameters ∧
    ∀ record bound, ValueSource.bindAll record .empty parameters = .ok bound ↔
      ∃ given, List.Forall₂ (ctx.Binds record) called.parameterDeclarations given ∧
        bound = .gather given

namespace Parameters

theorem bindIn_of_not_mem {keys : List String} {parameter : String} (fresh : parameter ∉ keys)
    (found : String → List RawValue) (values : List RawValue) :
    bindIn parameter values (keys.map fun k => (k, found k)) =
      (keys.map fun k => (k, found k)) ++ [(parameter, values)] := by
  induction keys with
  | nil => rfl
  | cons k keys ih =>
    obtain ⟨apart, rest⟩ := List.ne_and_not_mem_of_not_mem_cons fresh
    rw [List.map_cons, bindIn, if_neg (Ne.symm apart), ih rest, List.cons_append]

theorem bindIn_of_mem {keys : List String} {parameter : String} (distinct : keys.Nodup)
    (member : parameter ∈ keys) (found : String → List RawValue) (values : List RawValue) :
    bindIn parameter values (keys.map fun k => (k, found k)) =
      keys.map fun k => (k, found k ++ if k = parameter then values else []) := by
  induction keys with
  | nil => exact (List.not_mem_nil member).elim
  | cons k keys ih =>
    obtain ⟨fresh, distinct⟩ := List.nodup_cons.mp distinct
    rw [List.map_cons, bindIn, List.map_cons]
    by_cases here : k = parameter
    · subst here
      have others : keys.map (fun j => (j, found j ++ if j = k then values else [])) =
          keys.map fun j => (j, found j) := by
        refine List.map_congr_left fun j listed => ?_
        have apart : j ≠ k := fun same => fresh (same ▸ listed)
        rw [if_neg apart, List.append_nil]
      rw [if_pos rfl, if_pos rfl, others]
    · have later : parameter ∈ keys := (List.mem_cons.mp member).resolve_left (Ne.symm here)
      rw [if_neg here, if_neg here, List.append_nil, ih distinct later]

/-- Values that come last are bound behind those of their parameter, or as a parameter of
their own behind all others. -/
theorem gather_concat (given : List (String × List RawValue)) (next : String × List RawValue) :
    gather (given ++ [next]) = (gather given).bind next.1 next.2 := by
  have values (k : String) : ((given ++ [next]).filter (·.1 = k)).flatMap Prod.snd =
      (given.filter (·.1 = k)).flatMap Prod.snd ++ if k = next.1 then next.2 else [] := by
    rw [List.filter_append, List.flatMap_append]
    by_cases here : next.1 = k
    · simp [here]
    · simp [here, Ne.symm here]
  rw [gather, gather, bind, Parameters.mk.injEq, List.map_append, List.map_singleton,
    List.eraseDups_append]
  simp only [values]
  by_cases known : next.1 ∈ given.map Prod.fst
  · have nothing : [next.1].removeAll (given.map Prod.fst) = [] := by simp [List.removeAll, known]
    rw [nothing, List.eraseDups_nil, List.append_nil,
      bindIn_of_mem (nodup_eraseDups _) (List.mem_eraseDups.mpr known)]
  · have itself : [next.1].removeAll (given.map Prod.fst) = [next.1] := by
      simp [List.removeAll, known]
    have fresh : next.1 ∉ (given.map Prod.fst).eraseDups := fun member =>
      known (List.mem_eraseDups.mp member)
    have none : given.filter (·.1 = next.1) = [] :=
      List.filter_eq_nil_iff.mpr fun e member same =>
        known (List.mem_map.mpr ⟨e, member, of_decide_eq_true same⟩)
    have before : (given.map Prod.fst).eraseDups.map (fun k => (k,
        (given.filter (·.1 = k)).flatMap Prod.snd ++ if k = next.1 then next.2 else [])) =
        (given.map Prod.fst).eraseDups.map fun k =>
          (k, (given.filter (·.1 = k)).flatMap Prod.snd) := by
      refine List.map_congr_left fun k listed => ?_
      have apart : k ≠ next.1 := fun same => fresh (same ▸ listed)
      rw [if_neg apart, List.append_nil]
    have once : [next.1].eraseDups = [next.1] := rfl
    rw [itself, once, bindIn_of_not_mem fresh, List.map_append, before, List.map_singleton, none, if_pos rfl, List.flatMap_nil, List.nil_append]

theorem foldl_bind_eq_gather (given : List (String × List RawValue)) :
    given.foldl (fun bound e => bound.bind e.1 e.2) empty = gather given := by
  induction given using List.reverseRec with
  | nil => rfl
  | append_singleton given next ih =>
    rw [List.foldl_append, List.foldl_cons, List.foldl_nil, ih, gather_concat]

end Parameters

namespace ValueSource

/-- Binding one parameter after the other gathers what their sources give. -/
theorem bindAll_eq_ok_iff {record : Record} {parameters : List (String × ValueSource)}
    {before after : Parameters} : bindAll record before parameters = .ok after ↔
      ∃ given : List (String × List RawValue), List.Forall₂
        (fun p e => p.1 = e.1 ∧ p.2.rawValues record = .ok e.2) parameters given ∧
          after = given.foldl (fun bound e => bound.bind e.1 e.2) before := by
  induction parameters generalizing before with
  | nil =>
    simp only [bindAll, List.forall₂_nil_left_iff, exists_eq_left, List.foldl_nil]
    exact ⟨fun same => by cases same; rfl, fun same => by rw [same]⟩
  | cons parameter rest ih =>
    obtain ⟨name, source⟩ := parameter
    rw [bindAll, bind_eq_ok_iff]
    simp only [ih, List.forall₂_cons_left_iff]
    constructor
    · rintro ⟨values, here, given, later, rfl⟩
      exact ⟨(name, values) :: given, ⟨_, _, ⟨rfl, here⟩, later, rfl⟩, rfl⟩
    · rintro ⟨_, ⟨⟨_, values⟩, given, ⟨rfl, here⟩, later, rfl⟩, rfl⟩
      exact ⟨values, here, given, later, rfl⟩

theorem exists_bindAll {record : Record} {parameters : List (String × ValueSource)}
    (evaluate : ∀ p ∈ parameters, ∃ values, p.2.rawValues record = .ok values)
    (before : Parameters) : ∃ after, bindAll record before parameters = .ok after := by
  induction parameters generalizing before with
  | nil => exact ⟨before, rfl⟩
  | cons parameter rest ih =>
    obtain ⟨⟨values, here⟩, later⟩ := List.forall_mem_cons.mp evaluate
    obtain ⟨after, ran⟩ := ih later (before.bind parameter.1 values)
    exact ⟨after, bind_eq_ok_iff.mpr ⟨values, here, ran⟩⟩

end ValueSource

/-- What relates through a list to what follows, relates to it from the start. -/
theorem forall₂_congr_left {α β γ : Type} {pairs : α → β → Prop} {holds : β → γ → Prop}
    {ends : α → γ → Prop} (same : ∀ a b c, pairs a b → (holds b c ↔ ends a c)) {as : List α}
    {bs : List β} (paired : List.Forall₂ pairs as bs) {cs : List γ} :
    List.Forall₂ holds bs cs ↔ List.Forall₂ ends as cs := by
  induction paired generalizing cs with
  | nil => simp only [List.forall₂_nil_left_iff]
  | cons first _ ih => simp only [List.forall₂_cons_left_iff, same _ _ _ first, ih]

/-- The parameter has the name that the declaration gives it, and its source of values. -/
def Compiles (call : String → Except Fault ValueSource) (declared : String × ObjectMap)
    (parameter : String × ValueSource) : Prop :=
  declared.1 = parameter.1 ∧ ∃ label m, declared.2 = .term m ∧
    m.compileSource call label .object = .ok parameter.2

namespace CallDraft

/-- The draft after these declarations: the last that names a function decides on it, and each
of the others adds a parameter. -/
structure Extends (call : String → Except Fault ValueSource) (declared : List (String × ObjectMap))
    (before after : CallDraft) : Prop where
  function : after.function =
    ((declared.filter fun d => Vocabulary.isExecutes d.1).getLast?.map
      fun d => d.2.constantIri?).getD before.function
  parameters : ∃ added, after.parameters = before.parameters ++ added ∧
    List.Forall₂ (Compiles call) (declared.filter fun d => !Vocabulary.isExecutes d.1) added

namespace Extends

variable {α : Type} {call : String → Except Fault ValueSource}
  {declared more : List (String × ObjectMap)} {start between after : CallDraft}

theorem nil (draft : CallDraft) : Extends call [] draft draft :=
  ⟨rfl, [], (List.append_nil _).symm, .nil⟩

theorem append (first : Extends call declared start between)
    (next : Extends call more between after) : Extends call (declared ++ more) start after := by
  constructor
  · rw [List.filter_append, List.getLast?_append, next.function, first.function]
    cases (more.filter fun d => Vocabulary.isExecutes d.1).getLast? <;> rfl
  · obtain ⟨added, whole, compiled⟩ := first.parameters
    obtain ⟨last, whole', compiled'⟩ := next.parameters
    refine ⟨added ++ last, ?_, ?_⟩
    · rw [whole', whole, List.append_assoc]
    · rw [List.filter_append]
      exact List.rel_append compiled compiled'

theorem foldlM {f : CallDraft → α → Except Fault CallDraft} {part : α → List (String × ObjectMap)}
    (each : ∀ x before after, f before x = .ok after → Extends call (part x) before after)
    {xs : List α} (ran : xs.foldlM f start = .ok after) :
    Extends call (xs.flatMap part) start after := by
  induction xs generalizing start with
  | nil =>
    cases ran
    exact nil _
  | cons x xs ih =>
    rw [List.foldlM_cons] at ran
    obtain ⟨between, here, later⟩ := bind_eq_ok_iff.mp ran
    rw [List.flatMap_cons]
    exact (each x start between here).append (ih later)

/-- The same with the items numbered, which is for names in faults only. -/
theorem foldlM_zipIdx {f : CallDraft → α × Nat → Except Fault CallDraft}
    {part : α → List (String × ObjectMap)}
    (each : ∀ x before after, f before x = .ok after → Extends call (part x.1) before after)
    {xs : List α} (ran : xs.zipIdx.foldlM f start = .ok after) :
    Extends call (xs.flatMap part) start after := by
  have numbered := foldlM each ran
  rwa [← List.flatMap_map, List.zipIdx_map_fst] at numbered

end Extends

variable {call : String → Except Fault ValueSource} {before after : CallDraft}

theorem addObject_extends {iri label predicate : String} {object : ObjectMap}
    (added : before.addObject call iri label predicate object = .ok after) :
    Extends call [(predicate, object)] before after := by
  cases object with
  | reference reference => cases added
  | term m =>
    by_cases executes : Vocabulary.isExecutes predicate
    · cases named : m.constantIri? with
      | none =>
        simp only [addObject, executes, named, if_true] at added
        cases added
      | some function =>
        simp only [addObject, executes, named, if_true] at added
        cases added
        exact ⟨by simp [executes, ObjectMap.constantIri?, named], [], by simp, by simp [executes]⟩
    · simp only [addObject, executes, Bool.false_eq_true, if_false] at added
      obtain ⟨source, made, same⟩ := bind_eq_ok_iff.mp added
      cases same
      refine ⟨by simp [executes], [(predicate, source)], rfl, ?_⟩
      simpa [executes] using ⟨rfl, label, m, rfl, made⟩

theorem addPredicate_extends {iri : String} {place : Nat} {objects : List ObjectMap} {m : TermMap}
    (added : before.addPredicate call iri place objects m = .ok after) :
    Extends call (m.constantIri?.toList.flatMap fun predicate => objects.map (predicate, ·))
      before after := by
  rw [addPredicate] at added
  cases named : m.constantIri? with
  | none =>
    rw [named] at added
    cases added
  | some predicate =>
    rw [named] at added
    have objects : Extends call (objects.flatMap fun object => [(predicate, object)]) before after :=
      Extends.foldlM_zipIdx (fun _ _ _ step => addObject_extends step) added
    rwa [Option.toList_some, List.flatMap_singleton, List.map_eq_flatMap]

theorem addPredicateObjects_extends {iri : String} {entry : PredicateObjectMap × Nat}
    (added : before.addPredicateObjects call iri entry = .ok after) :
    Extends call entry.1.declarations before after := by
  rw [addPredicateObjects] at added
  have predicates := Extends.foldlM (fun _ _ _ step => addPredicate_extends step) added
  rwa [← List.flatMap_assoc, ← List.filterMap_eq_flatMap_toList] at predicates

end CallDraft

theorem Registry.find?_of_resolve {functions : Registry} {name : String} {function : Function}
    (resolved : functions.resolve name = .ok function) : functions.find? name = some function := by
  rw [resolve] at resolved
  split at resolved
  · cases resolved
    assumption
  · cases resolved

theorem TriplesMap.callSource_declares {m : TriplesMap} {functions : Registry}
    {call : String → Except Fault ValueSource} {source : ValueSource}
    (made : m.callSource functions call = .ok source) :
    ∃ name function parameters, m.Names name ∧ functions.find? name = some function ∧
      source = .call name function parameters ∧
        List.Forall₂ (Compiles call) m.parameterDeclarations parameters := by
  rw [callSource] at made
  obtain ⟨draft, drafted, made⟩ := bind_eq_ok_iff.mp made
  have extended : CallDraft.Extends call m.declarations .empty draft :=
    CallDraft.Extends.foldlM_zipIdx (fun _ _ _ step => CallDraft.addPredicateObjects_extends step)
      drafted
  obtain ⟨added, whole, compiled⟩ := extended.parameters
  rw [CallDraft.empty, List.nil_append] at whole
  cases called : draft.function with
  | none =>
    rw [called] at made
    cases made
  | some name =>
    simp only [called, ofExcept_eq] at made
    obtain ⟨function, resolved, same⟩ := bind_eq_ok_iff.mp made
    cases same
    refine ⟨name, function, draft.parameters, ?_, Registry.find?_of_resolve resolved, rfl,
      whole ▸ compiled⟩
    have decided : (m.functionDeclarations.getLast?.map fun d => d.2.constantIri?).getD none =
        some name := extended.function.symm.trans called
    cases last : m.functionDeclarations.getLast? with
    | none =>
      rw [last] at decided
      cases decided
    | some d =>
      rw [last] at decided
      exact ⟨d, last, decided⟩

namespace TermMap

variable {ctx : Context} {record : Record} {m : TermMap} {parameter : String}
  {values : List RawValue}

/-- Literal options do not change the text of a constant. -/
theorem lexical_constantTerm (m : TermMap) (t : Term) : (m.constantTerm t).lexical = t.lexical := by
  cases t <;> rfl

theorem binds_constant_iff (one : m.strategyCount = 1) {t : Term} (declared : m.constant = some t) :
    ctx.Binds record (parameter, .term m) (parameter, values) ↔ values = [.text t.lexical] := by
  constructor
  · intro binds
    cases binds with
    | constant declared' => cases declared.symm.trans declared'; rfl
    | reference other => cases declared.symm.trans (reference_alone one other).1
    | template other => cases declared.symm.trans (template_alone one other).1
    | call other => cases declared.symm.trans (functionValue_alone one other).1
  · rintro rfl
    exact .constant declared

theorem binds_reference_iff (one : m.strategyCount = 1) {expression : String}
    (declared : m.reference = some expression) :
    ctx.Binds record (parameter, .term m) (parameter, values) ↔
      record.evaluate expression = .ok values := by
  constructor
  · intro binds
    cases binds with
    | constant other => cases (reference_alone one declared).1.symm.trans other
    | reference declared' answered => cases declared.symm.trans declared'; exact answered
    | template other => cases declared.symm.trans (template_alone one other).2.1
    | call other => cases declared.symm.trans (functionValue_alone one other).2.1
  · exact .reference declared

theorem binds_template_iff (one : m.strategyCount = 1) {text : String} {t : Template}
    (declared : m.template = some text) (readable : Template.read text = .ok t) :
    ctx.Binds record (parameter, .term m) (parameter, values) ↔
      ∃ rows, ValueSource.templateRows t (m.effectiveKind .object = .iri) record = .ok rows ∧
        rows.map .text = values := by
  constructor
  · intro binds
    cases binds with
    | constant other => cases (template_alone one declared).1.symm.trans other
    | reference other => cases declared.symm.trans (reference_alone one other).2.1
    | template declared' readable' filled =>
      cases declared.symm.trans declared'
      cases readable.symm.trans readable'
      exact ⟨_, filled, rfl⟩
    | call other => cases declared.symm.trans (functionValue_alone one other).2.2
  · rintro ⟨rows, filled, rfl⟩
    exact .template declared readable filled

theorem binds_call_iff (one : m.strategyCount = 1) {iri name : String} {function : Function}
    {parameters : List (String × ValueSource)} (declared : m.functionValue = some iri)
    (executes : ctx.Executes iri (.call name function parameters)) :
    ctx.Binds record (parameter, .term m) (parameter, values) ↔
      ∃ bound, ValueSource.bindAll record .empty parameters = .ok bound ∧
        ∃ value, function bound = .ok value ∧ [value] = values := by
  obtain ⟨called, _, _, _, found, named, registered, same, binds⟩ := executes
  cases same
  simp only [binds]
  constructor
  · intro bound
    cases bound with
    | constant other => cases (functionValue_alone one declared).1.symm.trans other
    | reference other => cases declared.symm.trans (reference_alone one other).2.2
    | template other => cases declared.symm.trans (template_alone one other).2.2
    | call declared' found' named' registered' given returned =>
      cases declared.symm.trans declared'
      cases found.symm.trans found'
      cases named.unique named'
      cases registered.symm.trans registered'
      exact ⟨_, ⟨_, given, rfl⟩, _, returned, rfl⟩
  · rintro ⟨_, ⟨given, all, rfl⟩, value, returned, rfl⟩
    exact .call declared found named registered all returned

/-- A parameter receives the raw values of its source, whatever that is. -/
theorem rawValues_eq_ok_iff {call : String → Except Fault ValueSource} {label : String}
    {source : ValueSource}
    (calls : ∀ iri source, call iri = .ok source → ctx.Executes iri source)
    (made : m.compileSource call label .object = .ok source) :
    source.rawValues record = .ok values ↔
      ctx.Binds record (parameter, .term m) (parameter, values) := by
  obtain ⟨checked, found⟩ := compileSource_ok_iff.mp made
  have one := strategyCount_of_check checked
  cases drawsOn_of_source found with
  | constant declared =>
    rw [binds_constant_iff one declared, ValueSource.rawValues, lexical_constantTerm,
      Except.ok.injEq, eq_comm]
  | reference declared =>
    rw [binds_reference_iff one declared, ValueSource.rawValues]
  | template _ declared readable =>
    rw [binds_template_iff one declared readable, ValueSource.rawValues, map_eq_ok_iff]
  | call declared called =>
    have executes := calls _ source called
    obtain ⟨_, name, function, parameters, -, -, -, rfl, -⟩ := id executes
    rw [binds_call_iff one declared executes, ValueSource.rawValues]
    simp only [bind_eq_ok_iff, pure, Except.pure, Except.ok.injEq]

end TermMap

/-- Where the function maps that it calls do so, a function map executes what it declares. -/
theorem Context.executes_of_callSource {ctx : Context} {iri : String} {m : TriplesMap}
    {call : String → Except Fault ValueSource} {source : ValueSource}
    (calls : ∀ iri source, call iri = .ok source → ctx.Executes iri source)
    (found : ctx.graph.find? iri = some m)
    (made : m.callSource ctx.functions call = .ok source) : ctx.Executes iri source := by
  obtain ⟨name, function, parameters, named, registered, same, compiled⟩ :=
    TriplesMap.callSource_declares made
  refine ⟨m, name, function, parameters, found, named, registered, same, fun record bound => ?_⟩
  have reads (declared : String × ObjectMap) (parameter : String × ValueSource)
      (given : String × List RawValue) (compiles : Compiles call declared parameter) :
      (parameter.1 = given.1 ∧ parameter.2.rawValues record = .ok given.2) ↔
        ctx.Binds record declared given := by
    obtain ⟨name, object⟩ := declared
    obtain ⟨_, source⟩ := parameter
    obtain ⟨_, values⟩ := given
    obtain ⟨rfl, label, m, rfl, made⟩ := compiles
    constructor
    · rintro ⟨rfl, read⟩
      exact (m.rawValues_eq_ok_iff calls made).mp read
    · intro binds
      cases binds.parameter_eq
      exact ⟨rfl, (m.rawValues_eq_ok_iff calls made).mpr binds⟩
  rw [ValueSource.bindAll_eq_ok_iff]
  simp only [forall₂_congr_left reads compiled, Parameters.foldl_bind_eq_gather]

/-- By induction over what may still be entered. -/
theorem Context.executes_of_compileCall {ctx : Context} {visiting : List Nat} {iri : String}
    {source : ValueSource} (made : ctx.compileCall visiting iri = .ok source) :
    ctx.Executes iri source := by
  fun_induction ctx.compileCall visiting iri generalizing source with
  | case1 => cases made
  | case2 => cases made
  | case3 => cases made
  | case4 visiting iri place placed fresh m found ih =>
    have known : ctx.graph.find? iri = some m := by
      rw [RuleGraph.find?, placed, Option.bind_some, found]
    exact executes_of_callSource (fun _ _ made => ih _ made) known made

/-- The parameters are bound in the order in which they are declared first. -/
theorem Parameters.gather_names {ctx : Context} {record : Record}
    {declared : List (String × ObjectMap)} {given : List (String × List RawValue)}
    (binds : List.Forall₂ (ctx.Binds record) declared given) :
    (gather given).bindings.map Prod.fst = (declared.map Prod.fst).eraseDups := by
  have names : given.map Prod.fst = declared.map Prod.fst := by
    induction binds with
    | nil => rfl
    | cons first _ ih => rw [List.map_cons, List.map_cons, first.parameter_eq, ih]
  rw [gather, List.map_map, ← names]
  exact List.map_id _

/--
A function map that compiles calls the registered function that it names last. On every record
on which its parameters evaluate, each declaration that does not name a function gives values
to its predicate; the function receives each predicate once, in the order of the first
declarations, with all values given to it one after the other. A predicate that stands without
object maps declares nothing.
-/
theorem Context.executions_bind_declarations {ctx : Context} {iri : String} {stack left : List Nat}
    {source : ValueSource}
    (made : ctx.constructCall ctx.graph.size iri stack = (.ok source, left)) :
    ∃ called name function parameters, ctx.graph.find? iri = some called ∧ called.Names name ∧
      ctx.functions.find? name = some function ∧ source = .call name function parameters ∧
      ∀ record,
        ((∀ p ∈ parameters, ∃ values, p.2.rawValues record = .ok values) →
          ∃ given, List.Forall₂ (ctx.Binds record) called.parameterDeclarations given) ∧
        ∀ given, List.Forall₂ (ctx.Binds record) called.parameterDeclarations given →
          ValueSource.bindAll record .empty parameters = .ok (.gather given) ∧
          (Parameters.gather given).bindings.map Prod.fst =
            (called.parameterDeclarations.map Prod.fst).eraseDups ∧
          ValueSource.callValue record function parameters = function (.gather given) := by
  have gives := ctx.constructCall_gives _ stack iri (length_unvisited_le ctx.graph stack)
  have compiled : ctx.compileCall stack iri = .ok source :=
    congrArg Prod.fst (gives.symm.trans made)
  obtain ⟨called, name, function, parameters, found, named, registered, same, binds⟩ :=
    executes_of_compileCall compiled
  refine ⟨called, name, function, parameters, found, named, registered, same, fun record =>
    ⟨fun evaluate => ?_, fun given declared => ?_⟩⟩
  · obtain ⟨bound, ran⟩ := ValueSource.exists_bindAll evaluate .empty
    obtain ⟨given, declared, -⟩ := (binds record bound).mp ran
    exact ⟨given, declared⟩
  · have ran := (binds record _).mpr ⟨given, declared, rfl⟩
    refine ⟨ran, Parameters.gather_names declared, ?_⟩
    rw [ValueSource.callValue, ran]
    rfl

namespace Parcels

def count : Function := fun ps => .ok (.integer (ps.values "urn:of").length)

def pack : Function := fun ps => .ok (.list (ps.values "urn:item"))

def predicate (iri : String) : TermMap := .ofConstant (.iri iri)

def sticker : Template := ⟨[.text "No. ", .slot ⟨0, "tags"⟩]⟩

theorem sticker_readable : Template.read sticker.render = .ok sticker := by
  refine Template.read_render_of_isNormal ?_
  simp [Template.IsNormal, sticker, Segment.NormalFrom.text_cons_iff,
    Segment.NormalFrom.slot_cons_iff, Segment.NormalFrom.nil, Segment.isText, Segment.slot?]

def stickers : TermMap := { template := some sticker.render, kind := some .literal }

/-- Its second predicate takes the name of a function for a text, and a later statement names
another function. -/
def parcel : TriplesMap where
  iri := "urn:parcel"
  logicalSource := { source := "parcels" }
  predicateObjectMaps := [
    { predicateMaps := [predicate Vocabulary.executes, predicate "urn:item"]
      objectMaps := [.term (predicate "urn:fn:count")] },
    { predicateMaps := [predicate "urn:mark", predicate "urn:item"]
      objectMaps := [.term (.ofConstant (.literal "fragile" none none))] },
    { predicateMaps := [predicate "urn:mark"], objectMaps := [.term stickers] },
    { predicateMaps := [predicate "urn:item"]
      objectMaps := [.term (.ofReference "tags"), .term (.ofFunction "urn:tally")] },
    { predicateMaps := [predicate Vocabulary.fnoExecutes]
      objectMaps := [.term (predicate "urn:fn:pack")] }]

def tally : TriplesMap where
  iri := "urn:tally"
  logicalSource := { source := "parcels" }
  predicateObjectMaps := [
    { predicateMaps := [predicate Vocabulary.executes]
      objectMaps := [.term (predicate "urn:fn:count")] },
    { predicateMaps := [predicate "urn:of"], objectMaps := [.term (.ofReference "tags")] }]

def context : Context :=
  ⟨.ofList [parcel, tally], ⟨[("urn:fn:count", count), ("urn:fn:pack", pack)]⟩, none⟩

def parameters : List (String × ValueSource) := [
  ("urn:item", .constant (.iri "urn:fn:count")),
  ("urn:mark", .constant (.literal "fragile" none none)),
  ("urn:item", .constant (.literal "fragile" none none)),
  ("urn:mark", .template sticker false),
  ("urn:item", .reference "tags"),
  ("urn:item", .call "urn:fn:count" count [("urn:of", .reference "tags")])]

theorem compiled : context.constructCall context.graph.size "urn:parcel" [] =
    (.ok (.call "urn:fn:pack" pack parameters), []) := by
  have readable := sticker_readable
  unfold context parcel stickers
  -- What the text of the template reads as is known, so that it is not computed here.
  generalize sticker.render = text at readable ⊢
  conv_lhs => whnf
  rw [readable]
  rfl

def tags : List RawValue := [.text "glass", .null, .list [.text "blue"]]

def record : Record where
  evaluate _ := .ok tags
  datatype? _ := none

def given : List (String × List RawValue) := [
  ("urn:item", [.text "urn:fn:count"]), ("urn:mark", [.text "fragile"]),
  ("urn:item", [.text "fragile"]), ("urn:mark", [.text "No. glass", .text "No. blue"]),
  ("urn:item", tags), ("urn:item", [.integer 3])]

theorem parcel_declares : parcel.parameterDeclarations = [
    ("urn:item", .term (predicate "urn:fn:count")),
    ("urn:mark", .term (.ofConstant (.literal "fragile" none none))),
    ("urn:item", .term (.ofConstant (.literal "fragile" none none))),
    ("urn:mark", .term stickers), ("urn:item", .term (.ofReference "tags")),
    ("urn:item", .term (.ofFunction "urn:tally"))] := rfl

theorem tally_names : tally.Names "urn:fn:count" := ⟨_, rfl, rfl⟩

theorem stuck : ValueSource.templateRows sticker (stickers.effectiveKind .object = .iri) record =
    .ok ["No. glass", "No. blue"] := ok_of_toOption (by decide +kernel)

/-- The call of the tally counts the tags. -/
theorem declared : List.Forall₂ (context.Binds record) parcel.parameterDeclarations given := by
  rw [parcel_declares]
  have tallied : List.Forall₂ (context.Binds record) tally.parameterDeclarations [("urn:of", tags)] :=
    .cons (.reference rfl rfl) .nil
  have counted : context.Binds record ("urn:item", .term (.ofFunction "urn:tally"))
      ("urn:item", [.integer 3]) := .call rfl rfl tally_names rfl tallied rfl
  have constant (parameter : String) (t : Term) : context.Binds record
      (parameter, .term (.ofConstant t)) (parameter, [.text t.lexical]) := .constant rfl
  exact .cons (constant _ (.iri "urn:fn:count")) (.cons (constant _ (.literal "fragile" none none))
    (.cons (constant _ (.literal "fragile" none none))
      (.cons (.template rfl sticker_readable stuck)
        (.cons (.reference rfl rfl) (.cons counted .nil)))))

theorem evaluate : ∀ p ∈ parameters, ∃ values, p.2.rawValues record = .ok values := by
  rw [parameters]
  simp only [List.forall_mem_cons]
  exact ⟨⟨_, rfl⟩, ⟨_, rfl⟩, ⟨_, rfl⟩, ⟨_, map_eq_ok_iff.mpr ⟨_, stuck, rfl⟩⟩, ⟨_, rfl⟩, ⟨_, rfl⟩,
    List.forall_mem_nil _⟩

end Parcels

theorem parcels_bind_declarations :
    Parcels.context.constructCall Parcels.context.graph.size "urn:parcel" [] =
      (.ok (.call "urn:fn:pack" Parcels.pack Parcels.parameters), []) ∧
    (∀ p ∈ Parcels.parameters, ∃ values, p.2.rawValues Parcels.record = .ok values) ∧
    ValueSource.bindAll Parcels.record .empty Parcels.parameters = .ok ⟨[
      ("urn:item", [.text "urn:fn:count", .text "fragile", .text "glass", .null,
        .list [.text "blue"], .integer 3]),
      ("urn:mark", [.text "fragile", .text "No. glass", .text "No. blue"])]⟩ ∧
    ValueSource.callValue Parcels.record Parcels.pack Parcels.parameters =
      .ok (.list [.text "urn:fn:count", .text "fragile", .text "glass", .null,
        .list [.text "blue"], .integer 3]) := by
  obtain ⟨called, name, function, parameters, found, -, -, same, binds⟩ :=
    Context.executions_bind_declarations Parcels.compiled
  cases same
  have parcel : Parcels.context.graph.find? "urn:parcel" = some Parcels.parcel := rfl
  cases parcel.symm.trans found
  obtain ⟨-, receives⟩ := binds Parcels.record
  obtain ⟨bound, -, returned⟩ := receives Parcels.given Parcels.declared
  exact ⟨Parcels.compiled, Parcels.evaluate, bound, returned⟩

end RdfMapping
