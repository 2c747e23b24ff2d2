import RdfMapping.Function.Basic
import RdfMapping.Iri
import RdfMapping.Quad
import RdfMapping.Record
import RdfMapping.Template.Rows

/-!
# Producers

A producer is a term map made ready: its source of values is resolved, its kind
is fixed, and applying it to a record needs nothing else. Function calls hold
the sources of their parameters, to any depth.
-/

namespace RdfMapping

/-- Where the values of a term map come from. -/
inductive ValueSource where
  | constant (term : Term)
  | reference (expression : String)
  /-- With `encoded`, the values of slots are made safe for use inside an IRI. -/
  | template (template : Template) (encoded : Bool)
  | call (iri : String) (function : Function) (parameters : List (String × ValueSource))

namespace ValueSource

def slotValues (encoded : Bool) (record : Record) (slot : Slot) : Except Fault SlotValues :=
  (record.evaluate slot.expression).map fun raw =>
    (RawValue.lexicalValues raw).map (·.map fun s => if encoded then Iri.safe s else s)

/-- The rows of a template on a record; none where a slot has no values. -/
def templateRows (t : Template) (encoded : Bool) (record : Record) :
    Except Fault (List String) :=
  (t.rows (slotValues encoded record)).map (·.getD [])

mutual

/-- The values themselves, as parameters of a function receive them. -/
def rawValues (record : Record) : ValueSource → Except Fault (List RawValue)
  | .constant t => .ok [.text t.lexical]
  | .reference expression => record.evaluate expression
  | .template t encoded => (templateRows t encoded record).map (·.map RawValue.text)
  | .call _ function parameters => do
    let bound ← bindAll record .empty parameters
    return [← function bound]

/-- Binds parameters one after the other. -/
def bindAll (record : Record) (bound : Parameters) :
    List (String × ValueSource) → Except Fault Parameters
  | [] => .ok bound
  | (parameter, source) :: rest => do
    let values ← rawValues record source
    bindAll record (bound.bind parameter values) rest

end

/-- The result of a function call on a record. -/
def callValue (record : Record) (function : Function) (parameters : List (String × ValueSource)) :
    Except Fault RawValue := do
  function (← bindAll record .empty parameters)

end ValueSource

structure Producer where
  label : String
  position : Position
  kind : TermKind
  source : ValueSource
  language : Option String
  datatype : Option String
  base : Option String
  targets : Targets

namespace Producer

def constant? (p : Producer) : Option Term :=
  match p.source with
  | .constant t => some t
  | _ => none

/-- Literals without language or datatype take the datatype that their values have. -/
def infersDatatype (p : Producer) : Bool :=
  p.kind = .literal && p.language.isNone && p.datatype.isNone

/-- The lexical forms on a record, and the datatype inferred for them. -/
def lexicals (p : Producer) (record : Record) : Except Fault (List String × Option String) :=
  match p.source with
  | .constant t => .ok ([t.lexical], none)
  | .reference expression => do
    let raw ← record.evaluate expression
    return (RawValue.present raw, if p.infersDatatype then record.datatype? expression else none)
  | .template t encoded => (ValueSource.templateRows t encoded record).map (·, none)
  | .call _ function parameters => do
    let raw ← ValueSource.callValue record function parameters
    return (RawValue.present [raw], if p.infersDatatype then raw.firstDatatype? else none)

/-- The term of a lexical form; only an IRI can fail. -/
def makeTerm (p : Producer) (inferred : Option String) (lexical : String) : Except Fault Term :=
  match p.kind with
  | .iri => match Iri.resolve? lexical p.base with
    | some iri => .ok (.iri iri)
    | none => .error (.invalidIri lexical (p.base.getD "<none>"))
  | .blankNode => .ok (.blankNode (Term.blankLabel lexical))
  | .literal => .ok <| match p.language, p.datatype with
    | some tag, _ => .literal lexical none (some tag)
    | none, some type => .literal lexical (some type) none
    | none, none => .literal lexical inferred none

/-- The terms on a record, each once and in the order of their values. -/
def apply (p : Producer) (record : Record) : Except Fault (List RoutedTerm) :=
  match p.source with
  | .constant t => .ok [⟨t, p.targets⟩]
  | _ => do
    let (lexicals, inferred) ← p.lexicals record
    let terms ← lexicals.mapM (p.makeTerm inferred)
    return terms.eraseDups.map (⟨·, p.targets⟩)

def rawValues (p : Producer) (record : Record) : Except Fault (List RawValue) :=
  p.source.rawValues record

end Producer

end RdfMapping
