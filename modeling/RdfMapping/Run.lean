import RdfMapping.Plan.Basic
import RdfMapping.Settings
import RdfMapping.Source.Resolver

/-!
# Runs

A run drives every triples map of a plan: it opens the source, asks for records
batch by batch, maps them, closes the source, and resolves the joins that became
resolvable. The triples maps take turns, one batch at a time, and only so many
sources are open at once. The first fault ends the run, and then every source
that is still open is closed.
-/

namespace RdfMapping

/-- A triples map on its way: its source is not open yet, or open in some state. -/
structure Driver (σ : Type) where
  plan : MapPlan
  source : Option σ

structure Run (σ : Type) where
  resolver : SourceResolver σ
  settings : Settings
  /-- The triples maps that are not done, the next one to take its turn first. -/
  drivers : List (Driver σ)
  ledger : Ledger
  /-- All quads so far, the latest first. -/
  emitted : List Quad
  opened : Nat
  closed : Nat
  failure : Option Fault

namespace Run

variable {σ : Type}

def start (resolver : SourceResolver σ) (settings : Settings) (plan : Plan) : Run σ where
  resolver := resolver
  settings := { settings with emitClasses := plan.emitClasses }
  drivers := plan.maps.map (⟨·, none⟩)
  ledger := plan.ledger
  emitted := []
  opened := 0
  closed := 0
  failure := none

def quads (r : Run σ) : List Quad := r.emitted.reverse

def openCount (r : Run σ) : Nat := r.drivers.countP (·.source.isSome)

/-- Nothing is left to do. -/
def isOver (r : Run σ) : Bool := r.drivers.isEmpty || r.failure.isSome

def emit (r : Run σ) (quads : List Quad) : Run σ :=
  { r with emitted := quads.reverse ++ r.emitted }

/-- Ends the run with a fault; the sources of all waiting triples maps are closed. -/
def fail (r : Run σ) (f : Fault) : Run σ :=
  { r with drivers := [], closed := r.closed + r.openCount, failure := some f }

/-- Maps the records of a batch in order, up to a fault. -/
def processBatch (r : Run σ) (plan : MapPlan) : List Record → Run σ × Option Fault
  | [] => (r, none)
  | record :: rest => match plan.process r.settings.emitClasses record r.ledger with
    | (ledger, .ok quads) => ({ r with ledger }.emit quads).processBatch plan rest
    | (ledger, .error f) => ({ r with ledger }, some f)

/-- Resolves joins in order, up to a fault. -/
def resolveAll (r : Run σ) : List Nat → Run σ × Option Fault
  | [] => (r, none)
  | join :: rest => match r.ledger.resolve join with
    | (.ok quads, ledger) => ({ r with ledger }.emit quads).resolveAll rest
    | (.error f, ledger) => ({ r with ledger }, some f)

/-- A source that is exhausted is closed, and its triples map is complete. -/
def finish (r : Run σ) (plan : MapPlan) (source : σ) : Run σ :=
  let r := { r with closed := r.closed + 1 }
  match r.resolver.close source with
  | .error f => r.fail f
  | .ok () =>
    let (ready, ledger) := r.ledger.markComplete plan.place
    match { r with ledger }.resolveAll ready with
    | (r, some f) => r.fail f
    | (r, none) => r

/-- One batch of a source; a fault closes it. -/
def readBatch (r : Run σ) (plan : MapPlan) (source : σ) : Run σ :=
  match r.resolver.request source r.settings.batchSize with
  | .error f => { r with closed := r.closed + 1 }.fail f
  | .ok ([], source) => r.finish plan source
  | .ok (batch, source) => match r.processBatch plan batch with
    | (r, some f) => { r with closed := r.closed + 1 }.fail f
    | (r, none) => { r with drivers := r.drivers ++ [⟨plan, some source⟩] }

/-- The next triples map takes its turn. One that may not open its source yet goes to the back. -/
def step (r : Run σ) : Run σ :=
  match r.drivers with
  | [] => r
  | ⟨plan, some source⟩ :: rest => { r with drivers := rest }.readBatch plan source
  | ⟨plan, none⟩ :: rest =>
    if r.openCount < r.settings.maxSources then
      match r.resolver.openSource plan.logicalSource with
      | .error f => { r with drivers := rest }.fail f
      | .ok source =>
        { r with drivers := rest ++ [⟨plan, some source⟩], opened := r.opened + 1 }
    else { r with drivers := rest ++ [⟨plan, none⟩] }

/-- Ends the run before it is over, as its reader wishes. -/
def cancel (r : Run σ) : Run σ := r.fail .cancelled

end Run

end RdfMapping
