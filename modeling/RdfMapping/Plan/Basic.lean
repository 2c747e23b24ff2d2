import RdfMapping.Join.Ledger
import RdfMapping.Producer.Basic
import RdfMapping.Rules.Graph

/-!
# Plans

A plan is a rule graph made ready to run. Mapping one record with it gives the
quads that are complete at once and the postings that the record makes to the
join ledger. What a record gives depends on the record alone; the ledger only
decides whether its postings are taken.
-/

namespace RdfMapping

inductive ObjectPlan where
  | term (producer : Producer)
  /-- The subject of a parent that reads the same records. -/
  | sameRecord (subject : Producer) (targets : Targets)
  | join (join : Nat) (childExpressions : List String)

structure PredicateObjectPlan where
  predicates : List Producer
  objects : List ObjectPlan
  graphs : List Producer

structure MapPlan where
  /-- The place of the triples map in the rule graph. -/
  place : Nat
  iri : String
  logicalSource : LogicalSource
  subject : Producer
  subjectGraphs : List Producer
  classes : List RoutedTerm
  predicateObjects : List PredicateObjectPlan
  /-- The stores that the map fills as a parent, with the expressions of their keys. -/
  parentKeys : List (List String × Nat)

/-- What a record adds to the join ledger. -/
inductive Posting where
  | parent (store : Nat) (key : JoinKey) (subject : Term)
  | child (join : Nat) (entry : ChildEntry)

/-- The postings made up to the end or the first fault, and the result or the fault. -/
structure Survey (α : Type) where
  postings : List Posting
  outcome : Except Fault α

namespace Survey

def post (postings : List Posting) : Survey Unit := ⟨postings, .ok ()⟩

/-- A computation that makes no postings. -/
def lift {α : Type} (outcome : Except Fault α) : Survey α := ⟨[], outcome⟩

/-- Postings that were made before a fault stay made. -/
def andThen {α β : Type} (s : Survey α) (next : α → Survey β) : Survey β :=
  match s.outcome with
  | .ok a => ⟨s.postings ++ (next a).postings, (next a).outcome⟩
  | .error f => ⟨s.postings, .error f⟩

instance : Monad Survey where
  pure a := ⟨[], .ok a⟩
  bind := andThen

theorem andThen_assoc {α β γ : Type} (s : Survey α) (f : α → Survey β) (g : β → Survey γ) :
    (s.andThen f).andThen g = s.andThen fun a => (f a).andThen g := by
  obtain ⟨postings, outcome⟩ := s
  cases outcome with
  | error _ => rfl
  | ok a => cases h : (f a).outcome <;> simp [andThen, h]

instance : LawfulMonad Survey := LawfulMonad.mk' Survey
  (by rintro α ⟨postings, _ | _⟩ <;> simp [Functor.map, andThen])
  (by intros; simp [bind, pure, andThen])
  andThen_assoc

end Survey

/-- The terms of several producers, each once; of equal terms the first one stays. -/
def applyAll (producers : List Producer) (record : Record) : Except Fault (List RoutedTerm) := do
  let found ← producers.mapM (·.apply record)
  return found.flatten.eraseDupsBy fun a b => a.term = b.term

/-- The graph that a term names. -/
def graphSlot (graph : RoutedTerm) : Option RoutedTerm :=
  match graph.term.iri? with
  | some iri => if Vocabulary.isDefaultGraph iri then none else some graph
  | none => some graph

/-- The graphs of a statement, each once. No graph at all means the default graph. -/
def graphSlots (graphs : List RoutedTerm) : List (Option RoutedTerm) :=
  match (graphs.map graphSlot).eraseDups with
  | [] => [none]
  | slots => slots

/-- Every subject with every predicate, every object and every graph. -/
def allQuads (subjects predicates objects : List RoutedTerm) (graphs : List (Option RoutedTerm)) :
    List Quad :=
  subjects.flatMap fun s => predicates.flatMap fun p => objects.flatMap fun o =>
    graphs.map fun g => ⟨s, p, o, g⟩

namespace MapPlan

/-- The class statements of the subjects. -/
def classQuads (plan : MapPlan) (emitClasses : Bool) (subjects subjectGraphs : List RoutedTerm) :
    List Quad :=
  if emitClasses then
    allQuads subjects [(Term.iri Vocabulary.rdfType).unrouted] plan.classes
      (graphSlots subjectGraphs)
  else []

def surveyObject (record : Record) (subjects predicates : List RoutedTerm)
    (graphs : List (Option RoutedTerm)) : ObjectPlan → Survey (List Quad)
  | .term producer => do
    let objects ← .lift (producer.apply record)
    return allQuads subjects predicates objects graphs
  | .sameRecord subject targets => do
    let objects ← .lift (subject.apply record)
    return allQuads subjects predicates (objects.map fun v => ⟨v.term, targets⟩) graphs
  | .join join childExpressions => do
    let keys ← .lift (record.joinKeys childExpressions)
    .post (if keys.isEmpty then [] else [.child join ⟨subjects, predicates, graphs, keys⟩])
    return []

def surveyPredicateObject (record : Record) (subjects subjectGraphs : List RoutedTerm)
    (plan : PredicateObjectPlan) : Survey (List Quad) := do
  let predicates ← .lift (applyAll plan.predicates record)
  if predicates.isEmpty then return [] else
    let graphs ← .lift (applyAll plan.graphs record)
    let slots := graphSlots (subjectGraphs ++ graphs)
    let quads ← plan.objects.mapM (surveyObject record subjects predicates slots)
    return quads.flatten

/-- Posts the subjects under each of their keys in one store. -/
def surveyParent (record : Record) (subjects : List RoutedTerm) (key : List String × Nat) :
    Survey Unit := do
  let keys ← .lift (record.joinKeys key.1)
  .post (keys.flatMap fun k => subjects.map fun s => .parent key.2 k s.term)

/-- Without a subject a record gives nothing and posts nothing. -/
def survey (plan : MapPlan) (emitClasses : Bool) (record : Record) : Survey (List Quad) := do
  let subjects ← .lift (plan.subject.apply record)
  if subjects.isEmpty then return [] else
    plan.parentKeys.forM (surveyParent record subjects)
    let subjectGraphs ← .lift (applyAll plan.subjectGraphs record)
    let statements ←
      plan.predicateObjects.mapM (surveyPredicateObject record subjects subjectGraphs)
    return plan.classQuads emitClasses subjects subjectGraphs ++ statements.flatten

end MapPlan

namespace Ledger

def post (l : Ledger) : Posting → Except Fault Unit × Ledger
  | .parent store key subject =>
    let (outcome, next) := l.insert store key subject
    (outcome.map fun _ => (), next)
  | .child join entry => l.buffer join entry

/-- Makes postings until one is refused. -/
def postAll (l : Ledger) : List Posting → Except Fault Unit × Ledger
  | [] => (.ok (), l)
  | p :: rest => match l.post p with
    | (.ok (), next) => next.postAll rest
    | (.error f, next) => (.error f, next)

end Ledger

/-- Maps one record: its postings go to the ledger and its quads are returned. -/
def MapPlan.process (plan : MapPlan) (emitClasses : Bool) (record : Record) (l : Ledger) :
    Ledger × Except Fault (List Quad) :=
  let survey := plan.survey emitClasses record
  match l.postAll survey.postings with
  | (.error f, next) => (next, .error f)
  | (.ok (), next) => (next, survey.outcome)

structure Plan where
  maps : List MapPlan
  ledger : Ledger
  emitClasses : Bool

end RdfMapping
