import RdfMapping.OrderedSet
import RdfMapping.Fault
import RdfMapping.RawValue
import RdfMapping.Unicode.Quoted

/-!
# Functions and their parameters

A function takes raw values bound to parameter IRIs. Values bound to one
parameter at several times accumulate, and parameters keep the order in which
they were first bound. A registry knows functions by IRI.
-/

namespace RdfMapping

structure Parameters where
  bindings : List (String × List RawValue)
  deriving Repr

namespace Parameters

def empty : Parameters := ⟨[]⟩

instance : Inhabited Parameters := ⟨empty⟩

/-- Appends values to a binding, or begins a new one at the end. -/
def bindIn (parameter : String) (values : List RawValue) :
    List (String × List RawValue) → List (String × List RawValue)
  | [] => [(parameter, values)]
  | (p, vs) :: rest =>
    if p = parameter then (p, vs ++ values) :: rest
    else (p, vs) :: bindIn parameter values rest

def bind (ps : Parameters) (parameter : String) (values : List RawValue) : Parameters :=
  ⟨bindIn parameter values ps.bindings⟩

def values (ps : Parameters) (parameter : String) : List RawValue :=
  (ps.bindings.lookup parameter).getD []

/-- The first value that is not null. -/
def first? (ps : Parameters) (parameter : String) : Option RawValue :=
  (ps.values parameter).find? fun v => !v.isNull

def text? (ps : Parameters) (parameter : String) : Option String :=
  (ps.first? parameter).bind RawValue.lexical?

def size (ps : Parameters) : Nat := ps.bindings.length

end Parameters

abbrev Function := Parameters → Except Fault RawValue

structure Registry where
  functions : List (String × Function)

namespace Registry

def empty : Registry := ⟨[]⟩

instance : Inhabited Registry := ⟨empty⟩

def find? (r : Registry) (iri : String) : Option Function := r.functions.lookup iri

def contains (r : Registry) (iri : String) : Bool := (r.find? iri).isSome

def size (r : Registry) : Nat := r.functions.length

def replaceIn (iri : String) (f : Function) : List (String × Function) → List (String × Function)
  | [] => [(iri, f)]
  | (i, g) :: rest => if i = iri then (i, f) :: rest else (i, g) :: replaceIn iri f rest

/-- Registers a function in place of an earlier one with this IRI. -/
def register (r : Registry) (iri : String) (f : Function) : Registry :=
  ⟨replaceIn iri f r.functions⟩

def resolve (r : Registry) (iri : String) : Except Fault Function :=
  match r.find? iri with
  | some f => .ok f
  | none => .error (.unknownFunction iri)

/-- Calls the function of this IRI. -/
def call (r : Registry) (iri : String) (ps : Parameters) : Except Fault RawValue :=
  match r.resolve iri with
  | .ok f => f ps
  | .error e => .error e

/-- The registered IRIs in order, for people to read. -/
def describe (r : Registry) : String :=
  let iris := (OrderedSet.ofList (r.functions.map (·.1))).toList
  "FunctionRegistry \x7b functions: [" ++ ", ".intercalate (iris.map Unicode.quoted) ++ "] \x7d"

end Registry

end RdfMapping
