import RdfMapping.Proofs.CallStack

/-!
# What producers give and raise

The functions that a compiled term map calls, to any depth, are functions of the
registry. So applying it to a record fails only where the record or one of these
functions fails, where the slots of a template do not fit together or where a
text is no IRI.
-/

namespace RdfMapping

/-- A computation gives something with `given` or fails with a fault of `raised`. -/
def Settles {α : Type} (x : Except Fault α) (raised : Fault → Prop) (given : α → Prop) : Prop :=
  match x with
  | .ok a => given a
  | .error f => raised f

namespace Settles

variable {α β : Type} {raised : Fault → Prop} {given : α → Prop}

theorem any (x : Except Fault α) : Settles x (fun _ => True) fun _ => True := by
  cases x <;> trivial

theorem imp {x : Except Fault α} {weaker : Fault → Prop} {next : α → Prop}
    (settles : Settles x raised given) (faults : ∀ f, raised f → weaker f)
    (results : ∀ a, given a → next a) : Settles x weaker next := by
  cases x with
  | ok a => exact results a settles
  | error f => exact faults f settles

theorem bind {next : β → Prop} {x : Except Fault α} {f : α → Except Fault β}
    (first : Settles x raised given) (rest : ∀ a, given a → Settles (f a) raised next) :
    Settles (x >>= f) raised next := by
  cases x with
  | ok a => exact rest a first
  | error f => exact first

theorem map {next : β → Prop} {x : Except Fault α} {f : α → β}
    (settles : Settles x raised given) (each : ∀ a, given a → next (f a)) :
    Settles (x.map f) raised next := by
  cases x with
  | ok a => exact each a settles
  | error f => exact settles

theorem foldlM {holds : β → Prop} {f : β → α → Except Fault β} {xs : List α}
    (each : ∀ b, holds b → ∀ a ∈ xs, Settles (f b a) raised holds) (b : β) (start : holds b) :
    Settles (xs.foldlM f b) raised holds := by
  induction xs generalizing b with
  | nil => exact start
  | cons a xs ih =>
    rw [List.foldlM_cons]
    refine (each b start a List.mem_cons_self).bind fun c held => ?_
    exact ih (fun b held a member => each b held a (List.mem_cons_of_mem _ member)) c held

theorem mapM {holds : β → Prop} {f : α → Except Fault β} {xs : List α}
    (each : ∀ a ∈ xs, Settles (f a) raised holds) :
    Settles (xs.mapM f) raised fun bs => ∀ b ∈ bs, holds b := by
  induction xs with
  | nil => exact fun b member => (List.not_mem_nil member).elim
  | cons a xs ih =>
    rw [List.mapM_cons]
    refine (each a List.mem_cons_self).bind fun b first => ?_
    refine (ih fun a member => each a (List.mem_cons_of_mem _ member)).bind fun bs rest => ?_
    exact List.forall_mem_cons.mpr ⟨first, rest⟩

end Settles

/-- Every function that is called is one of the registry. -/
inductive ValueSource.Registered (functions : Registry) : ValueSource → Prop where
  | constant (term : Term) : Registered functions (.constant term)
  | reference (expression : String) : Registered functions (.reference expression)
  | template (template : Template) (encoded : Bool) : Registered functions (.template template encoded)
  | call {iri : String} {function : Function} {parameters : List (String × ValueSource)}
      (found : functions.find? iri = some function)
      (inside : ∀ p ∈ parameters, Registered functions p.2) :
      Registered functions (.call iri function parameters)

section

variable {functions : Registry} {call : String → Except Fault ValueSource}

theorem TermMap.compileSource_registered
    (calls : ∀ iri, Settles (call iri) (fun _ => True) (·.Registered functions))
    (m : TermMap) (label : String) (position : Position) :
    Settles (m.compileSource call label position) (fun _ => True) (·.Registered functions) := by
  rw [compileSource, ofExcept_eq]
  refine (Settles.any (m.check label position)).bind fun _ _ => ?_
  rw [source]
  split
  · exact .constant _
  · exact .reference _
  · split
    · exact .template _ _
    · trivial
  · exact calls _
  · trivial

theorem CallDraft.addObject_registered
    (calls : ∀ iri, Settles (call iri) (fun _ => True) (·.Registered functions))
    (iri label predicate : String) {draft : CallDraft} (object : ObjectMap)
    (drafted : ∀ p ∈ draft.parameters, p.2.Registered functions) :
    Settles (draft.addObject call iri label predicate object) (fun _ => True)
      fun next => ∀ p ∈ next.parameters, p.2.Registered functions := by
  cases object with
  | reference r => trivial
  | term m =>
    simp only [addObject]
    split
    · split
      · exact drafted
      · trivial
    · refine (m.compileSource_registered calls label .object).bind fun source registered => ?_
      intro p member
      rcases List.mem_append.mp member with old | new
      · exact drafted p old
      · rw [List.mem_singleton.mp new]
        exact registered

theorem TriplesMap.callSource_registered
    (calls : ∀ iri, Settles (call iri) (fun _ => True) (·.Registered functions))
    (m : TriplesMap) :
    Settles (m.callSource functions call) (fun _ => True) (·.Registered functions) := by
  have drafted : Settles (m.predicateObjectMaps.zipIdx.foldlM
      (CallDraft.addPredicateObjects call m.iri) CallDraft.empty) (fun _ => True)
      fun draft => ∀ p ∈ draft.parameters, p.2.Registered functions := by
    refine Settles.foldlM (fun draft held poms _ => ?_) _
      fun p member => (List.not_mem_nil member).elim
    refine Settles.foldlM (fun draft held m _ => ?_) _ held
    rw [CallDraft.addPredicate]
    split
    · trivial
    · exact Settles.foldlM (fun draft held object _ =>
        draft.addObject_registered calls _ _ _ object.1 held) _ held
  rw [callSource]
  refine drafted.bind fun draft held => ?_
  split
  · trivial
  · rename_i iri named
    simp only [Registry.resolve]
    cases found : functions.find? iri with
    | none => trivial
    | some function => exact .call found held

end

theorem Context.compileCall_registered (ctx : Context) (visiting : List Nat) (iri : String) :
    Settles (ctx.compileCall visiting iri) (fun _ => True) (·.Registered ctx.functions) := by
  fun_induction compileCall ctx visiting iri with
  | case1 visiting iri unknown => trivial
  | case2 visiting iri place placed visited => trivial
  | case3 visiting iri place placed fresh none => trivial
  | case4 visiting iri place placed fresh m found ih => exact m.callSource_registered ih

/-- A compiled term map calls functions of the registry only. -/
theorem Producer.compile_registered {ctx : Context} {label : String} {m : TermMap}
    {position : Position} {producer : Producer}
    (compiled : compile ctx label m position = .ok producer) :
    producer.source.Registered ctx.functions := by
  have settles : Settles (stackless ctx label m position) (fun _ => True)
      (·.source.Registered ctx.functions) :=
    (m.compileSource_registered (ctx.compileCall_registered []) label position).bind
      fun source registered => registered
  rw [compile_eq_stackless] at compiled
  rwa [compiled] at settles

/-- What applying a term map that calls these functions can fail with. -/
inductive Fault.RaisedOn (functions : Registry) (record : Record) : Fault → Prop where
  | evaluated {expression : String} {f : Fault} (failed : record.evaluate expression = .error f) :
      RaisedOn functions record f
  | called {iri : String} {function : Function} {parameters : Parameters} {f : Fault}
      (found : functions.find? iri = some function) (failed : function parameters = .error f) :
      RaisedOn functions record f
  | unevenSlots (template : String) (counts : List Nat) :
      RaisedOn functions record (.unevenSlots template counts)
  | invalidIri (lexical base : String) : RaisedOn functions record (.invalidIri lexical base)

section

variable {functions : Registry} {record : Record}

theorem Record.evaluate_raises (expression : String) :
    Settles (record.evaluate expression) (Fault.RaisedOn functions record) fun _ => True := by
  cases failed : record.evaluate expression with
  | ok values => trivial
  | error f => exact .evaluated failed

theorem Registry.function_raises {iri : String} {function : Function}
    (found : functions.find? iri = some function) (parameters : Parameters) :
    Settles (function parameters) (Fault.RaisedOn functions record) fun _ => True := by
  cases failed : function parameters with
  | ok value => trivial
  | error f => exact .called found failed

theorem ValueSource.slotValues_raises (encoded : Bool) (slot : Slot) :
    Settles (slotValues encoded record slot) (Fault.RaisedOn functions record) fun _ => True :=
  (Record.evaluate_raises slot.expression).map fun _ _ => trivial

theorem Template.resolveSlots_raises {raised : Fault → Prop}
    {resolve : Slot → Except Fault SlotValues}
    (each : ∀ slot, Settles (resolve slot) raised fun _ => True) (slots : List Slot) :
    Settles (resolveSlots resolve slots).columns raised fun _ => True := by
  induction slots with
  | nil => trivial
  | cons slot rest ih =>
    have first := each slot
    rw [resolveSlots]
    split
    · rename_i f failed
      rwa [failed] at first
    · trivial
    · exact ih.map fun _ _ => trivial

theorem ValueSource.templateRows_raises (t : Template) (encoded : Bool) :
    Settles (templateRows t encoded record) (Fault.RaisedOn functions record) fun _ => True := by
  have columns : Settles (t.resolution (slotValues encoded record)).columns
      (Fault.RaisedOn functions record) fun _ => True :=
    Template.resolveSlots_raises (slotValues_raises encoded) t.slots
  have rows : Settles (t.rows (slotValues encoded record)) (Fault.RaisedOn functions record)
      fun _ => True := by
    rw [Template.rows]
    split
    · rename_i f failed
      rwa [failed] at columns
    · trivial
    · unfold Template.align
      dsimp only
      split
      · split <;> trivial
      · exact .unevenSlots _ _
  exact rows.map fun _ _ => trivial

mutual

theorem ValueSource.rawValues_raises (source : ValueSource) (registered : source.Registered functions) :
    Settles (source.rawValues record) (Fault.RaisedOn functions record) fun _ => True := by
  cases registered with
  | constant t => trivial
  | reference expression => exact Record.evaluate_raises expression
  | template t encoded => exact (templateRows_raises t encoded).map fun _ _ => trivial
  | call found inside =>
    rename_i iri function parameters
    refine (bindAll_raises parameters inside .empty).bind fun bound _ => ?_
    exact (Registry.function_raises found bound).bind fun value _ => trivial

theorem ValueSource.bindAll_raises (parameters : List (String × ValueSource))
    (inside : ∀ p ∈ parameters, p.2.Registered functions) (bound : Parameters) :
    Settles (bindAll record bound parameters) (Fault.RaisedOn functions record)
      fun _ => True := by
  cases parameters with
  | nil => trivial
  | cons parameter rest =>
    obtain ⟨name, source⟩ := parameter
    refine (rawValues_raises source (inside _ List.mem_cons_self)).bind fun values _ => ?_
    exact bindAll_raises rest (fun p member => inside p (List.mem_cons_of_mem _ member)) _

end

/-- The constant of the producer, or what it makes of some lexical form if it has none. -/
def Producer.Makes (p : Producer) (t : Term) : Prop :=
  match p.constant? with
  | some constant => t = constant
  | none => ∃ inferred lexical, p.makeTerm inferred lexical = .ok t

theorem Producer.lexicals_raises {p : Producer} (registered : p.source.Registered functions) :
    Settles (p.lexicals record) (Fault.RaisedOn functions record) fun _ => True := by
  rw [lexicals]
  split
  · trivial
  · exact (Record.evaluate_raises _).bind fun raw _ => trivial
  · exact (ValueSource.templateRows_raises _ _).bind fun rows _ => trivial
  · rename_i iri function parameters called
    rw [called] at registered
    cases registered with
    | call found inside =>
      have value : Settles (ValueSource.callValue record function parameters)
          (Fault.RaisedOn functions record) fun _ => True :=
        (ValueSource.bindAll_raises parameters inside .empty).bind fun bound _ =>
          Registry.function_raises found bound
      exact value.bind fun raw _ => trivial

theorem Producer.makeTerm_raises (p : Producer) (inferred : Option String) (lexical : String) :
    Settles (p.makeTerm inferred lexical) (Fault.RaisedOn functions record)
      fun t => p.makeTerm inferred lexical = .ok t := by
  cases made : p.makeTerm inferred lexical with
  | ok t => rfl
  | error f =>
    rw [makeTerm] at made
    split at made
    · split at made
      · cases made
      · cases made
        exact .invalidIri _ _
    · cases made
    · cases made

/-- Terms are of the producer's making, and faults are those that its source can raise. -/
theorem Producer.apply_settles {p : Producer} (registered : p.source.Registered functions) :
    Settles (p.apply record) (Fault.RaisedOn functions record)
      fun terms => ∀ t ∈ terms, p.Makes t.term := by
  rw [apply]
  split
  · rename_i constant same
    intro routed member
    rw [List.mem_singleton.mp member, Makes, constant?, same]
  · rename_i varies
    have none : p.constant? = none := by
      rw [constant?]
      split
      · rename_i constant same
        exact (varies constant same).elim
      · rfl
    refine (lexicals_raises registered).bind fun lexicals _ => ?_
    have each : ∀ lexical ∈ lexicals.1, Settles (p.makeTerm lexicals.2 lexical)
        (Fault.RaisedOn functions record) p.Makes := by
      refine fun lexical _ => (p.makeTerm_raises lexicals.2 lexical).imp (fun _ raised => raised) ?_
      intro t made
      rw [Makes, none]
      exact ⟨_, _, made⟩
    refine (Settles.mapM each).bind fun terms made => ?_
    intro routed member
    obtain ⟨t, kept, rfl⟩ := List.mem_map.mp member
    exact made t (List.mem_eraseDups.mp kept)

end

end RdfMapping
