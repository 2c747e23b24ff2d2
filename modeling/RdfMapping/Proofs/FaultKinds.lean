import RdfMapping.Proofs.FunctionCycles
import RdfMapping.Proofs.WellFormedQuads

/-!
# Kinds of faults

The kind of a fault tells when it was raised. Compiling reports faults of the rule graph
only, each by itself in one list. A record whose postings can all be taken fails only for
its own sake: its source or a function failed, the slots of a template do not fit together,
or a text is no IRI.
-/

namespace RdfMapping

/-- The fault itself, or one that a validation lists, to any depth. -/
inductive Fault.Within : Fault → Fault → Prop where
  | itself (f : Fault) : Within f f
  | listed {f g : Fault} {faults : List Fault} (member : g ∈ faults) (inside : Within f g) :
      Within f (.validation faults)

/-- A validation is longer than what it lists. -/
theorem Fault.OfRules.not_validation {faults : List Fault}
    (ofRules : Fault.OfRules (.validation faults)) : False := by
  have same : faults = [.validation faults] := ofRules.alone
  have size := congrArg sizeOf same
  simp at size
  omega

theorem Fault.OfRules.eq_of_within {f g : Fault} (ofRules : f.OfRules) (inside : g.Within f) :
    g = f := by
  cases inside with
  | itself => rfl
  | listed member inside => exact ofRules.not_validation.elim

theorem Context.compileCall_ofRules (ctx : Context) (visiting : List Nat) (iri : String) :
    Settles (ctx.compileCall visiting iri) Fault.OfRules fun _ => True := by
  fun_induction compileCall ctx visiting iri with
  | case1 visiting iri unknown => exact ⟨rfl, rfl⟩
  | case2 visiting iri place placed visited => exact ⟨rfl, rfl⟩
  | case3 visiting iri place placed fresh missing => exact ⟨rfl, rfl⟩
  | case4 visiting iri place placed fresh map found ih =>
    exact map.callSource_raises (fun f own => own.toOfRules) fun callee _ => ih callee

theorem Producer.compile_ofRules (ctx : Context) (label : String) (m : TermMap)
    (position : Position) : Settles (compile ctx label m position) Fault.OfRules fun _ => True := by
  have called : ∀ iri, m.functionValue = some iri →
      Settles (ctx.compileCall [] iri) Fault.OfRules fun _ => True := fun iri _ =>
    ctx.compileCall_ofRules [] iri
  rw [compile_eq_stackless]
  exact (m.compileSource_raises (fun f own => own.toOfRules) called label position).bind
    fun source _ => trivial

theorem Settings.check_ofRules (s : Settings) : Settles s.check Fault.OfRules fun _ => True := by
  rw [check]
  simp only [bind, Except.bind, pure, Except.pure, throw, throwThe, MonadExceptOf.throw]
  repeat' split
  all_goals first | trivial | exact ⟨rfl, rfl⟩

theorem ofRules_of_mem_faultOf {α : Type} {x : Except Fault α} {given : α → Prop}
    (settles : Settles x Fault.OfRules given) : ∀ f ∈ faultOf x, f.OfRules := by
  cases x with
  | ok a => exact fun f member => (List.not_mem_nil member).elim
  | error f => exact List.forall_mem_singleton.mpr settles

namespace RuleGraph

variable {ctx : Context} {f : Fault}

theorem termFaults_ofRules {label : String} {maps : List TermMap} {position : Position}
    (member : f ∈ termFaults ctx label maps position) : f.OfRules := by
  obtain ⟨entry, -, raised⟩ := List.mem_flatMap.mp member
  exact ofRules_of_mem_faultOf (Producer.compile_ofRules ctx _ entry.1 position) f raised

theorem referenceFaults_ofRules {map : TriplesMap} {label : String} {reference : ReferencingMap}
    (member : f ∈ referenceFaults ctx map label reference) : f.OfRules := by
  rw [referenceFaults] at member
  split at member
  · rw [List.mem_singleton.mp member]
    exact ⟨rfl, rfl⟩
  · split at member
    · rw [List.mem_singleton.mp member]
      exact ⟨rfl, rfl⟩
    · split at member
      · exact ofRules_of_mem_faultOf (Producer.compile_ofRules ctx _ _ .subject) f member
      · exact (List.not_mem_nil member).elim

theorem objectFaults_ofRules {map : TriplesMap} {label : String} {object : ObjectMap}
    (member : f ∈ objectFaults ctx map label object) : f.OfRules := by
  cases object with
  | term m => exact ofRules_of_mem_faultOf (Producer.compile_ofRules ctx label m .object) f member
  | reference r => exact referenceFaults_ofRules member

theorem predicateObjectFaults_ofRules {map : TriplesMap} {m : PredicateObjectMap} {i : Nat}
    (member : f ∈ predicateObjectFaults ctx map m i) : f.OfRules := by
  rcases List.mem_append.mp member with termMaps | objects
  · rcases List.mem_append.mp termMaps with predicates | graphs
    · exact termFaults_ofRules predicates
    · exact termFaults_ofRules graphs
  · obtain ⟨entry, -, raised⟩ := List.mem_flatMap.mp objects
    exact objectFaults_ofRules raised

theorem mapFaults_ofRules {d : Driven} (member : f ∈ mapFaults ctx d) : f.OfRules := by
  rcases List.mem_append.mp member with subjects | statements
  · rcases List.mem_append.mp subjects with subject | graphs
    · exact ofRules_of_mem_faultOf (Producer.compile_ofRules ctx _ _ .subject) f subject
    · exact termFaults_ofRules graphs
  · obtain ⟨entry, -, raised⟩ := List.mem_flatMap.mp statements
    exact predicateObjectFaults_ofRules raised

theorem preliminaryFaults_ofRules {g : RuleGraph} {settings : Settings}
    (member : f ∈ Plan.preliminaryFaults g settings) : f.OfRules := by
  rcases List.mem_append.mp member with checked | duplicates
  · have settles := settings.check_ofRules
    split at checked
    · exact (List.not_mem_nil checked).elim
    · rename_i found failed
      rw [failed] at settles
      rw [List.mem_singleton.mp checked]
      exact settles
  · obtain ⟨iri, -, rfl⟩ := List.mem_map.mp duplicates
    exact ⟨rfl, rfl⟩

theorem faults_ofRules {g : RuleGraph} {functions : Registry} {settings : Settings}
    (member : f ∈ g.faults functions settings) : f.OfRules := by
  rcases List.mem_append.mp member with preliminary | driven
  · exact preliminaryFaults_ofRules preliminary
  · obtain ⟨d, -, raised⟩ := List.mem_flatMap.mp driven
    exact mapFaults_ofRules raised

end RuleGraph

/-- Compiling fails with one list, and what it lists are faults of the rule graph. -/
theorem Plan.compile_raises {maps : List TriplesMap} {functions : Registry} {settings : Settings}
    {f : Fault} (failed : compile (.ofList maps) functions settings = .error f) :
    ∃ faults, f = .validation faults ∧ ∀ g ∈ faults, g.OfRules := by
  rcases compile_cases (RuleGraph.ofList_placed maps) functions settings with
    ⟨-, reported⟩ | ⟨-, plan, made, -⟩
  · rw [reported] at failed
    cases failed
    exact ⟨_, rfl, fun g => RuleGraph.faults_ofRules⟩
  · rw [made] at failed
    cases failed

/-- The triples map may still post to its stores and to its joins. -/
structure Ledger.OpenFor (l : Ledger) (plan : MapPlan) : Prop where
  stores : ∀ key ∈ plan.parentKeys, ∀ slot, l.stores[key.2]? = some slot →
    slot.store.isSealed = false
  joins : ∀ join ∈ plan.joins, ∃ held, l.join? join = some held ∧ held.phase ≠ .resolved

theorem Ledger.OpenFor.accepts {l : Ledger} {plan : MapPlan} (opened : l.OpenFor plan)
    {posting : Posting} (owns : plan.Owns posting) : l.Accepts posting := by
  cases posting with
  | parent store key subject =>
    obtain ⟨expressions, listed⟩ := owns
    exact opened.stores _ listed
  | child join entry => exact opened.joins join owns

/-- The source of a record failed, or a function. -/
def Fault.IsExternal (f : Fault) : Prop := f.kind = .source ∨ f.kind = .function

/-- The kinds of faults that a record can show. -/
def FaultKind.ofRecords : List FaultKind := [.templateEvaluation, .data, .source, .function]

section

variable {functions : Registry} {record : Record}

theorem Fault.RaisedOn.kind_mem {f : Fault} (raised : f.RaisedOn functions record)
    (evaluated : ∀ e f, record.evaluate e = .error f → f.IsExternal)
    (called : ∀ iri function, functions.find? iri = some function →
      ∀ parameters f, function parameters = .error f → f.IsExternal) :
    f.kind ∈ FaultKind.ofRecords := by
  have external : ∀ f : Fault, f.IsExternal → f.kind ∈ FaultKind.ofRecords := by
    rintro f (source | function)
    · simp [source, FaultKind.ofRecords]
    · simp [function, FaultKind.ofRecords]
  cases raised with
  | evaluated failed => exact external f (evaluated _ f failed)
  | called found failed => exact external f (called _ _ found _ f failed)
  | unevenSlots template counts => exact List.mem_of_elem_eq_true rfl
  | invalidIri lexical base => exact List.mem_of_elem_eq_true rfl

/-- Where all its postings are taken a record fails only with what applying its term maps raises. -/
theorem Plan.Realizes.process_raises {g : RuleGraph} {settings : Settings} {plan : Plan}
    (realized : plan.Realizes g functions settings) {m : MapPlan} (member : m ∈ plan.maps)
    {l : Ledger} (opened : l.OpenFor m) (emitClasses : Bool) :
    Settles (m.process emitClasses record l).2 (Fault.RaisedOn functions record) fun _ => True := by
  have meets := realized.survey_meets member emitClasses record
  rw [MapPlan.process_eq_take fun posting inside =>
    opened.accepts (meets.postings posting inside).1]
  exact meets.outcome.imp (fun _ raised => raised) fun _ _ => trivial

end

/--
Faults of rule graphs and faults of records are told apart by their kinds. Compiling fails
only with the former, at any depth of the list that it reports. When a compiled plan maps a
record whose postings may all still be taken, and the record and the functions fail with
external faults only, it fails only with the latter.
-/
theorem Plan.faults_tell_phase (maps : List TriplesMap) (functions : Registry)
    (settings : Settings) :
    (∀ f, compile (.ofList maps) functions settings = .error f →
      ∀ g : Fault, g.Within f → g.isConstruction) ∧
    ∀ plan, compile (.ofList maps) functions settings = .ok plan →
      (∀ iri function, functions.find? iri = some function →
        ∀ parameters f, function parameters = .error f → f.IsExternal) →
      ∀ m ∈ plan.maps, ∀ emitClasses record l, l.OpenFor m →
        (∀ e f, record.evaluate e = .error f → f.IsExternal) →
        ∀ f, (m.process emitClasses record l).2 = .error f → f.kind ∈ FaultKind.ofRecords := by
  refine ⟨fun f failed g inside => ?_, ?_⟩
  · obtain ⟨faults, rfl, ofRules⟩ := compile_raises failed
    cases inside with
    | itself => rfl
    | listed member inside =>
      have listed := ofRules _ member
      rw [listed.eq_of_within inside]
      exact listed.construction
  · intro plan compiled called m member emitClasses record l opened evaluated f failed
    have raises : Settles (m.process emitClasses record l).2 (Fault.RaisedOn functions record)
        fun _ => True := (realizes_of_compile compiled).process_raises member opened emitClasses
    rw [failed] at raises
    exact Fault.RaisedOn.kind_mem raises evaluated called

namespace Staff

/-- A person without a source of subjects, under settings that leave no room for records. -/
def nameless : TriplesMap := { person with subjectMap := some { termMap := {} } }

def refused : List Fault :=
  [.config "batch_size must be at least 1", .strategyCount "urn:person subject map" 0]

theorem nameless_fails : Plan.compile (.ofList [nameless]) .empty { batchSize := 0 } =
    .error (.validation refused) := rfl

/-- Of Ann no more than the name can be read. -/
def damaged : Record where
  evaluate e := if e = "id" then .ok [.text "urn:ann"] else .error (.expression e "no such field")
  datatype? _ := none

theorem damaged_isExternal (e : String) (f : Fault) (failed : damaged.evaluate e = .error f) :
    f.IsExternal := by
  simp only [damaged] at failed
  split at failed
  · cases failed
  · cases failed
    exact .inl rfl

theorem damaged_fails : ∃ f, (map.process true damaged plan.ledger).2 = .error f := by
  have failed : (map.process true damaged plan.ledger).2.toOption = none := by decide +kernel
  cases given : (map.process true damaged plan.ledger).2 with
  | ok quads =>
    rw [given] at failed
    cases failed
  | error f => exact ⟨f, rfl⟩

theorem ledger_openFor : plan.ledger.OpenFor map := by
  have fresh := (Plan.realizes_of_compile compiled).fresh
  constructor
  · intro key _ slot found
    rw [fresh.stores slot (List.mem_of_getElem? found)]
    rfl
  · intro join member
    cases List.mem_singleton.mp (show join ∈ [0] from member)
    exact ⟨_, rfl, by simp⟩

end Staff

theorem staff_faults_tell_phase :
    (∀ f ∈ Staff.refused, f.isConstruction) ∧
    ∃ f, (Staff.map.process true Staff.damaged Staff.plan.ledger).2 = .error f ∧
      f.kind ∈ FaultKind.ofRecords := by
  constructor
  · intro f listed
    have reported := (Plan.faults_tell_phase [Staff.nameless] .empty { batchSize := 0 }).1
    exact reported _ Staff.nameless_fails f (.listed listed (.itself f))
  · obtain ⟨f, failed⟩ := Staff.damaged_fails
    have mapped := (Plan.faults_tell_phase [Staff.person] .empty {}).2 Staff.plan Staff.compiled
    refine ⟨f, failed, mapped ?_ Staff.map (List.getElem_mem _) true Staff.damaged _
      Staff.ledger_openFor Staff.damaged_isExternal f failed⟩
    intro iri function found
    cases found

end RdfMapping
