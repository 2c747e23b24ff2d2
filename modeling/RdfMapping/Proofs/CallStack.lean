import RdfMapping.Producer.Compile

/-!
# The stack of triples maps being compiled

All term maps of a rule graph are compiled on one stack. Every compiling leaves
the stack as it found it, after success and after a fault, so each outcome is
that of compiling alone; and the bound on the depth of calls is never met. The
second definition below passes the visited places down and needs no stack.
-/

namespace RdfMapping

/-- On this stack `x` comes to `y` and leaves the stack as it was. -/
def Compiling.Gives {α : Type} (x : Compiling α) (stack : List Nat) (y : Except Fault α) : Prop :=
  x stack = (y, stack)

namespace Compiling.Gives

variable {α β : Type} {stack : List Nat}

theorem pure (a : α) : Gives (Pure.pure a) stack (Pure.pure a) := rfl

theorem throw (f : Fault) :
    Gives (MonadExcept.throw f : Compiling α) stack (MonadExcept.throw f) := rfl

theorem ofExcept (y : Except Fault α) : Gives (MonadExcept.ofExcept y : Compiling α) stack y := by
  cases y with
  | ok a => exact pure a
  | error f => exact throw f

theorem bind {x : Compiling α} {y : Except Fault α} {f : α → Compiling β} {g : α → Except Fault β}
    (first : Gives x stack y) (next : ∀ a, Gives (f a) stack (g a)) :
    Gives (x >>= f) stack (y >>= g) := by
  have step : (x >>= f) stack = ExceptT.bindCont f (x stack).1 (x stack).2 := rfl
  rw [Gives, step, first]
  cases y with
  | ok a => exact next a
  | error e => rfl

theorem get_bind {f : List Nat → Compiling β} {y : Except Fault β} (next : Gives (f stack) stack y) :
    Gives (get >>= f) stack y := next

theorem foldlM {f : β → α → Compiling β} {g : β → α → Except Fault β}
    (each : ∀ b a, Gives (f b a) stack (g b a)) (xs : List α) (b : β) :
    Gives (xs.foldlM f b) stack (xs.foldlM g b) := by
  induction xs generalizing b with
  | nil => exact pure b
  | cons a xs ih => simpa only [List.foldlM_cons] using bind (each b a) ih

/-- Entering takes off the stack what it put there. -/
theorem entering {place : Nat} {x : Compiling α} {y : Except Fault α}
    (inside : Gives x (place :: stack) y) : Gives (Compiling.entering place x) stack y := by
  rw [Gives, Compiling.entering, inside]
  rfl

end Compiling.Gives

open Compiling (Gives)

section

variable {stack : List Nat} {call : String → Compiling ValueSource}
  {passed : String → Except Fault ValueSource}

theorem ofExcept_eq {α : Type} (y : Except Fault α) :
    (ofExcept y : Except Fault α) = y := by
  cases y <;> rfl

theorem TermMap.compileSource_gives (calls : ∀ iri, Gives (call iri) stack (passed iri))
    (m : TermMap) (label : String) (position : Position) :
    Gives (m.compileSource call label position) stack (m.compileSource passed label position) := by
  have checked : Gives (ofExcept (m.check label position)) stack (m.check label position) :=
    .ofExcept _
  rw [compileSource, compileSource, ofExcept_eq]
  refine checked.bind fun _ => ?_
  unfold source
  split
  · exact .pure _
  · exact .pure _
  · split
    · exact .pure _
    · exact .throw _
  · exact calls _
  · exact .throw _

theorem CallDraft.addObject_gives (calls : ∀ iri, Gives (call iri) stack (passed iri))
    (iri label predicate : String) (draft : CallDraft) (object : ObjectMap) :
    Gives (draft.addObject call iri label predicate object) stack
      (draft.addObject passed iri label predicate object) := by
  cases object with
  | reference r => exact .throw _
  | term m =>
    simp only [addObject]
    split
    · split
      · exact .pure _
      · exact .throw _
    · exact (m.compileSource_gives calls label .object).bind fun source => .pure _

theorem CallDraft.addPredicate_gives (calls : ∀ iri, Gives (call iri) stack (passed iri))
    (iri : String) (place : Nat) (objects : List ObjectMap) (draft : CallDraft) (m : TermMap) :
    Gives (draft.addPredicate call iri place objects m) stack
      (draft.addPredicate passed iri place objects m) := by
  unfold addPredicate
  split
  · exact .throw _
  · exact Gives.foldlM (fun draft object => draft.addObject_gives calls iri _ _ object.1) _ _

theorem TriplesMap.callSource_gives (calls : ∀ iri, Gives (call iri) stack (passed iri))
    (m : TriplesMap) (functions : Registry) :
    Gives (m.callSource functions call) stack (m.callSource functions passed) := by
  rw [callSource]
  refine .bind (Gives.foldlM (fun draft poms => ?_) _ _) fun draft => ?_
  · exact Gives.foldlM
      (fun draft m => draft.addPredicate_gives calls _ _ _ m) _ _
  · split
    · exact .throw _
    · rw [ofExcept_eq]
      exact (Gives.ofExcept _).bind fun function => .pure _

end

namespace Context

/-- The triples maps of the graph that are not being compiled. -/
def unvisited (graph : RuleGraph) (visiting : List Nat) : List Nat :=
  (List.range graph.size).filter fun place => place ∉ visiting

theorem length_unvisited_le (graph : RuleGraph) (visiting : List Nat) :
    (unvisited graph visiting).length ≤ graph.size := by
  have shorter := List.length_filter_le (fun place => place ∉ visiting) (List.range graph.size)
  rwa [List.length_range] at shorter

theorem unvisited_cons (graph : RuleGraph) (visiting : List Nat) (place : Nat) :
    unvisited graph (place :: visiting) = (unvisited graph visiting).filter (· ≠ place) := by
  simp only [unvisited, List.filter_filter, List.mem_cons, not_or, Bool.decide_and]

/-- Entering a triples map leaves fewer to enter. -/
theorem length_unvisited_cons_lt {graph : RuleGraph} {visiting : List Nat} {place : Nat}
    (size : place < graph.size) (fresh : place ∉ visiting) :
    (unvisited graph (place :: visiting)).length < (unvisited graph visiting).length := by
  rw [unvisited_cons, List.length_filter_lt_length_iff_exists]
  exact ⟨place, by simp [unvisited, size, fresh], by simp⟩

/-- The function call of a triples map, when the places visited so far are passed down. -/
def compileCall (ctx : Context) (visiting : List Nat) (iri : String) :
    Except Fault ValueSource :=
  match ctx.graph.placeOf? iri with
  | none => .error (.unknownTriplesMap iri)
  | some place =>
    if _fresh : place ∈ visiting then .error (Fault.functionCycle iri)
    else match _found : ctx.graph.get? place with
      | none => .error (.unknownTriplesMap iri)
      | some m => m.callSource ctx.functions fun callee => ctx.compileCall (place :: visiting) callee
termination_by (unvisited ctx.graph visiting).length
decreasing_by
  exact length_unvisited_cons_lt (List.getElem?_eq_some_iff.mp _found).1 _fresh

/-- On every stack, and with a depth for all triples maps that may still be entered, the
recursion on the stack is the one that passes the places down. -/
theorem constructCall_gives (ctx : Context) (depth : Nat) (stack : List Nat) (iri : String)
    (enough : (unvisited ctx.graph stack).length ≤ depth) :
    Gives (ctx.constructCall depth iri) stack (ctx.compileCall stack iri) := by
  induction depth using Nat.strongRecOn generalizing stack iri with
  | ind depth ih =>
    rw [constructCall, compileCall]
    cases ctx.graph.placeOf? iri with
    | none => exact .throw _
    | some place =>
      refine .get_bind ?_
      by_cases visited : place ∈ stack
      · simp only [visited, if_true, dite_true]
        exact .throw _
      simp only [visited, if_false, dite_false]
      cases found : ctx.graph.get? place with
      | none => exact .throw _
      | some m =>
        have fewer := length_unvisited_cons_lt (List.getElem?_eq_some_iff.mp found).1 visited
        cases depth with
        | zero => exact absurd enough (by omega)
        | succ depth =>
          apply Gives.entering
          apply m.callSource_gives
          intro callee
          exact ih depth (by omega) (place :: stack) callee (by omega)

end Context

namespace Producer

/-- A term map made a producer, with the places visited passed down. -/
def stackless (ctx : Context) (label : String) (m : TermMap) (position : Position) :
    Except Fault Producer := do
  let source ← m.compileSource (ctx.compileCall []) label position
  return {
    label, position, source
    kind := m.effectiveKind position
    language := m.language
    datatype := m.datatype
    base := ctx.base
    targets := m.targets }

theorem construct_gives_stackless (ctx : Context) (label : String) (m : TermMap) (position : Position) :
    Gives (construct ctx label m position) [] (stackless ctx label m position) := by
  have enough := Context.length_unvisited_le ctx.graph []
  have sources := m.compileSource_gives (fun iri => ctx.constructCall_gives _ [] iri enough)
    label position
  exact sources.bind fun source => .pure _

theorem compile_eq_stackless (ctx : Context) (label : String) (m : TermMap) (position : Position) :
    compile ctx label m position = stackless ctx label m position := by
  rw [compile, construct_gives_stackless]

/-- On an empty stack a term map is compiled as by itself, and the stack is empty again. -/
theorem construct_gives (ctx : Context) (label : String) (m : TermMap) (position : Position) :
    Gives (construct ctx label m position) [] (compile ctx label m position) := by
  rw [compile_eq_stackless]
  exact construct_gives_stackless ctx label m position

end Producer

end RdfMapping
