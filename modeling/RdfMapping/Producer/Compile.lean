import RdfMapping.Producer.Basic
import RdfMapping.Rules.Graph

/-!
# Compiling term maps

A term map is checked and its source of values resolved. A function value leads
to another triples map, whose term maps may call functions in turn; the triples
maps being compiled are kept on a stack, so that a function which calls itself is
found. One stack serves all term maps of a rule graph, one after the other.
-/

namespace RdfMapping

/-- All that compiling a term map looks at beside the map itself. -/
structure Context where
  graph : RuleGraph
  functions : Registry
  base : Option String

/-- Compiling with the places of the triples maps being compiled on a stack, the last one first. -/
abbrev Compiling := ExceptT Fault (StateM (List Nat))

/-- Compiles with a triples map put on the stack, which is taken off again after success and fault. -/
def Compiling.entering {α : Type} (place : Nat) (x : Compiling α) : Compiling α :=
  fun stack =>
    let (outcome, stack) := x (place :: stack)
    (outcome, stack.tail)

section

variable {μ : Type → Type} [Monad μ] [MonadExcept Fault μ]

namespace TermMap

/-- The checks on a term map, in the order in which they are reported. -/
def check (m : TermMap) (label : String) (position : Position) : Except Fault Unit := do
  unless m.strategyCount = 1 do throw (.strategyCount label m.strategyCount)
  if let some kind := m.kind then
    unless position.allows kind do throw (.disallowedKind label position kind)
    if let some constant := m.constant then
      unless constant.kind = kind do throw (Fault.constantKindMismatch label kind constant.kind)
  let kind := m.effectiveKind position
  match m.constant with
  | some constant =>
    unless position.allows constant.kind do
      throw (.disallowedConstant label position constant.kind)
  | none => unless position.allows kind do throw (.disallowedKind label position kind)
  if m.language.isSome && m.datatype.isSome then throw (Fault.languageAndDatatype label)
  if (m.language.isSome || m.datatype.isSome) && kind ≠ .literal then
    throw (Fault.literalOptions label kind)

/-- A constant with the literal options of the map, where it has none of its own. -/
def constantTerm (m : TermMap) : Term → Term
  | .literal value datatype language =>
    let language := language.or m.language
    .literal value (if language.isSome then none else datatype.or m.datatype) language
  | t => t

/-- Resolves the source of values; `call` compiles the function call of a triples map. -/
def source (m : TermMap) (call : String → μ ValueSource) (label : String)
    (position : Position) : μ ValueSource :=
  match m.constant, m.reference, m.template, m.functionValue with
  | some constant, _, _, _ => pure (.constant (m.constantTerm constant))
  | none, some expression, _, _ => pure (.reference expression)
  | none, none, some text, _ => match Template.read text with
    | .ok t => pure (.template t (m.effectiveKind position = .iri))
    | .error violation => throw (.template text violation)
  | none, none, none, some function => call function
  | none, none, none, none => throw (.strategyCount label 0)

def compileSource (m : TermMap) (call : String → μ ValueSource) (label : String)
    (position : Position) : μ ValueSource := do
  ofExcept (m.check label position)
  m.source call label position

end TermMap

/-- What the object maps of a function map have declared so far. -/
structure CallDraft where
  function : Option String
  parameters : List (String × ValueSource)

namespace CallDraft

def empty : CallDraft := ⟨none, []⟩

/-- An object map of a predicate names the function or a parameter of it. -/
def addObject (call : String → μ ValueSource) (iri : String) (label : String)
    (predicate : String) (draft : CallDraft) : ObjectMap → μ CallDraft
  | .reference _ => throw (Fault.joiningFunction iri)
  | .term m =>
    if Vocabulary.isExecutes predicate then match m.constantIri? with
      | some function => pure { draft with function := some function }
      | none => throw (Fault.variableFunction iri)
    else do
      let source ← m.compileSource call label .object
      return { draft with parameters := draft.parameters ++ [(predicate, source)] }

def addPredicate (call : String → μ ValueSource) (iri : String)
    (place : Nat) (objects : List ObjectMap) (draft : CallDraft) (m : TermMap) :
    μ CallDraft :=
  match m.constantIri? with
  | none => throw (Fault.variablePredicate iri)
  | some predicate => objects.zipIdx.foldlM (fun draft (object, i) =>
      let label := iri ++ " parameter " ++ toString place ++ "." ++ toString i
      draft.addObject call iri label predicate object) draft

def addPredicateObjects (call : String → μ ValueSource) (iri : String)
    (draft : CallDraft) (poms : PredicateObjectMap × Nat) : μ CallDraft :=
  poms.1.predicateMaps.foldlM (fun draft m =>
    draft.addPredicate call iri poms.2 poms.1.objectMaps m) draft

end CallDraft

/-- The function call that a triples map describes. -/
def TriplesMap.callSource (m : TriplesMap) (functions : Registry)
    (call : String → μ ValueSource) : μ ValueSource := do
  let draft ← m.predicateObjectMaps.zipIdx.foldlM
    (CallDraft.addPredicateObjects call m.iri) CallDraft.empty
  match draft.function with
  | none => throw (Fault.noFunction m.iri)
  | some iri => return .call iri (← ofExcept (functions.resolve iri)) draft.parameters

end

/--
Compiles the function call of a triples map, unless that is on the stack already.
At most `depth` triples maps are entered one inside the other; no rule graph
needs more of that than it has triples maps.
-/
def Context.constructCall (ctx : Context) : (depth : Nat) → String → Compiling ValueSource
  | depth, iri => match ctx.graph.placeOf? iri with
    | none => throw (.unknownTriplesMap iri)
    | some place => do
      if place ∈ (← get) then throw (Fault.functionCycle iri) else
        match ctx.graph.get? place, depth with
        | none, _ => throw (.unknownTriplesMap iri)
        | some _, 0 => throw (.internal "function maps are nested too deep")
        | some m, depth + 1 =>
          Compiling.entering place (m.callSource ctx.functions (ctx.constructCall depth))

namespace Producer

/-- Compiles a term map for a position; `label` names it in faults. -/
def construct (ctx : Context) (label : String) (m : TermMap) (position : Position) :
    Compiling Producer := do
  let source ← m.compileSource (ctx.constructCall ctx.graph.size) label position
  return {
    label, position, source
    kind := m.effectiveKind position
    language := m.language
    datatype := m.datatype
    base := ctx.base
    targets := m.targets }

/-- Compiles a term map by itself. -/
def compile (ctx : Context) (label : String) (m : TermMap) (position : Position) :
    Except Fault Producer :=
  (construct ctx label m position []).1

end Producer

end RdfMapping
