import RdfMapping.Proofs.Outcomes
import RdfMapping.Proofs.SurveyResults

/-!
# The quads of a record

What a record that is mapped without a fault gives at once: every subject with the
predicates, objects and graphs that one predicate-object map has on the record. Of
several producers that make the same term the first one supplies it.
-/

namespace RdfMapping

/-- The first of a list for which something holds. -/
def IsFirst {α : Type} (holds : α → Prop) (xs : List α) (x : α) : Prop :=
  holds x ∧ ∃ before after, xs = before ++ x :: after ∧ ∀ y ∈ before, ¬ holds y

namespace IsFirst

variable {α β : Type} {holds : α → Prop}

theorem cons_iff {x y : α} {xs : List α} :
    IsFirst holds (y :: xs) x ↔ holds x ∧ (x = y ∨ ¬ holds y ∧ IsFirst holds xs x) := by
  constructor
  · rintro ⟨here, before, after, split, fresh⟩
    refine ⟨here, ?_⟩
    cases before with
    | nil =>
      cases split
      exact .inl rfl
    | cons z before =>
      cases split
      obtain ⟨first, later⟩ := List.forall_mem_cons.mp fresh
      exact .inr ⟨first, here, before, after, rfl, later⟩
  · rintro ⟨here, rfl | ⟨apart, -, before, after, rfl, fresh⟩⟩
    · exact ⟨here, [], xs, rfl, fun z member => (List.not_mem_nil member).elim⟩
    · exact ⟨here, y :: before, after, rfl, List.forall_mem_cons.mpr ⟨apart, fresh⟩⟩

theorem exists_of_mem {xs : List α} {x : α} (member : x ∈ xs) (here : holds x) :
    ∃ y, IsFirst holds xs y := by
  induction xs with
  | nil => exact (List.not_mem_nil member).elim
  | cons z xs ih =>
    by_cases first : holds z
    · exact ⟨z, cons_iff.mpr ⟨first, .inl rfl⟩⟩
    · rcases List.mem_cons.mp member with rfl | later
      · exact (first here).elim
      · obtain ⟨y, found⟩ := ih later
        exact ⟨y, cons_iff.mpr ⟨found.1, .inr ⟨first, found⟩⟩⟩

theorem unique {xs : List α} {x y : α} (one : IsFirst holds xs x)
    (other : IsFirst holds xs y) : x = y := by
  induction xs with
  | nil =>
    obtain ⟨-, before, after, split, -⟩ := one
    cases before <;> cases split
  | cons z xs ih =>
    obtain ⟨held, rfl | ⟨apart, later⟩⟩ := cons_iff.mp one
    · obtain ⟨-, same | ⟨apart, -⟩⟩ := cons_iff.mp other
      · exact same.symm
      · exact (apart held).elim
    · obtain ⟨held, rfl | ⟨-, last⟩⟩ := cons_iff.mp other
      · exact (apart held).elim
      · exact ih later last

/-- Lists whose items correspond have corresponding first items. -/
theorem of_forall₂ {related : α → β → Prop} {holds' : β → Prop} {as : List α} {bs : List β}
    (all : List.Forall₂ related as bs) (same : ∀ a b, related a b → (holds a ↔ holds' b)) {a : α}
    (first : IsFirst holds as a) : ∃ b, related a b ∧ IsFirst holds' bs b := by
  induction all with
  | nil =>
    obtain ⟨-, before, after, split, -⟩ := first
    cases before <;> cases split
  | cons here _ ih =>
    obtain ⟨held, rfl | ⟨apart, later⟩⟩ := cons_iff.mp first
    · exact ⟨_, here, cons_iff.mpr ⟨(same _ _ here).mp held, .inl rfl⟩⟩
    · obtain ⟨b, found, first⟩ := ih later
      exact ⟨b, found, cons_iff.mpr ⟨first.1, .inr ⟨fun held => apart ((same _ _ here).mpr held),
        first⟩⟩⟩

end IsFirst

/-- The term is one of those that the producer makes on the record. -/
def Producer.Gives (p : Producer) (record : Record) (t : Term) : Prop :=
  ∃ terms, p.apply record = .ok terms ∧ ∃ routed ∈ terms, routed.term = t

theorem Producer.targets_of_mem_apply {p : Producer} {record : Record} {terms : List RoutedTerm}
    (applied : p.apply record = .ok terms) {routed : RoutedTerm} (member : routed ∈ terms) :
    routed.targets = p.targets := by
  rw [apply] at applied
  split at applied
  · cases applied
    rw [List.mem_singleton.mp member]
  · obtain ⟨found, -, applied⟩ := bind_eq_ok_iff.mp applied
    obtain ⟨made, -, applied⟩ := bind_eq_ok_iff.mp applied
    cases applied
    obtain ⟨t, -, rfl⟩ := List.mem_map.mp member
    rfl

theorem Producer.Gives.mem {p : Producer} {record : Record} {t : Term} (gives : p.Gives record t)
    {terms : List RoutedTerm} (applied : p.apply record = .ok terms) : ⟨t, p.targets⟩ ∈ terms := by
  obtain ⟨found, given, routed, member, rfl⟩ := gives
  cases applied.symm.trans given
  rw [← targets_of_mem_apply applied member]
  exact member

/-- Looking for a term is the same before terms are left out that stood there already. -/
theorem find?_eraseDupsBy (t : Term) (found : List RoutedTerm) :
    (found.eraseDupsBy fun a b => a.term = b.term).find? (fun a => a.term = t) =
      found.find? fun a => a.term = t := by
  induction h : found.length using Nat.strongRecOn generalizing found with
  | ind n ih =>
    cases found with
    | nil => rfl
    | cons a rest =>
      rw [List.eraseDupsBy_cons, List.find?_cons, List.find?_cons]
      by_cases same : a.term = t
      · simp only [same, decide_true]
      · have shorter : (rest.filter fun b => decide (b.term = a.term) = false).length < n := by
          have := List.length_filter_le (fun b => decide (b.term = a.term) = false) rest
          simp only [List.length_cons] at h
          omega
        simp only [same, decide_false]
        rw [ih _ shorter _ rfl, List.find?_filter]
        congr 1
        funext b
        by_cases here : b.term = t
        · have apart : t ≠ a.term := fun other => same other.symm
          simp [here, apart]
        · simp [here]

section

variable {producers : List Producer} {record : Record} {terms : List RoutedTerm}

/-- What is found first in the terms of several producers, the first one that has it makes. -/
theorem find?_flatten_of_first {t : Term} {found : List (List RoutedTerm)}
    (applied : List.Forall₂ (fun p terms => p.apply record = .ok terms) producers found)
    {p : Producer} (first : IsFirst (·.Gives record t) producers p) :
    found.flatten.find? (fun a => a.term = t) = some ⟨t, p.targets⟩ := by
  induction applied with
  | nil =>
    obtain ⟨-, before, after, split, -⟩ := first
    cases before <;> cases split
  | @cons q terms producers found here _ ih =>
    rw [List.flatten_cons, List.find?_append]
    obtain ⟨gives, rfl | ⟨apart, later⟩⟩ := IsFirst.cons_iff.mp first
    · cases search : terms.find? fun a => a.term = t with
      | none =>
        have none := List.find?_eq_none.mp search _ (gives.mem here)
        simp at none
      | some routed =>
        have same : routed.term = t := by simpa using List.find?_some search
        have targets := Producer.targets_of_mem_apply here (List.mem_of_find?_eq_some search)
        rw [← same, ← targets]
        rfl
    · have missing : terms.find? (fun a => a.term = t) = none := by
        refine List.find?_eq_none.mpr fun routed member same => apart ?_
        exact ⟨terms, here, routed, member, by simpa using same⟩
      rw [missing, Option.none_or]
      exact ih later

theorem applyAll_ok (ran : applyAll producers record = .ok terms) :
    ∃ found, List.Forall₂ (fun p terms => p.apply record = .ok terms) producers found ∧
      terms = found.flatten.eraseDupsBy fun a b => a.term = b.term := by
  obtain ⟨found, applied, ran⟩ := bind_eq_ok_iff.mp ran
  cases ran
  exact ⟨found, mapM_eq_ok_iff.mp applied, rfl⟩

/-- Of several producers with the same term the first one supplies it, with its targets. -/
theorem mem_applyAll_of_first (ran : applyAll producers record = .ok terms) {t : Term}
    {p : Producer} (first : IsFirst (·.Gives record t) producers p) : ⟨t, p.targets⟩ ∈ terms := by
  obtain ⟨found, applied, rfl⟩ := applyAll_ok ran
  refine List.mem_of_find?_eq_some (p := fun a => a.term = t) ?_
  rw [find?_eraseDupsBy, find?_flatten_of_first applied first]

theorem gives_of_mem_applyAll (ran : applyAll producers record = .ok terms)
    {routed : RoutedTerm} (member : routed ∈ terms) : ∃ p ∈ producers, p.Gives record routed.term := by
  obtain ⟨found, applied, rfl⟩ := applyAll_ok ran
  obtain ⟨terms, listed, inside⟩ := List.mem_flatten.mp (eraseDupsBy_subset _ _ member)
  obtain ⟨p, supplied, given⟩ := exists_left_of_forall₂ applied listed
  exact ⟨p, supplied, terms, given, routed, inside, rfl⟩

end

theorem mem_allQuads {subjects predicates objects : List RoutedTerm}
    {graphs : List (Option RoutedTerm)} {q : Quad} :
    q ∈ allQuads subjects predicates objects graphs ↔
      q.subject ∈ subjects ∧ q.predicate ∈ predicates ∧ q.object ∈ objects ∧ q.graph ∈ graphs := by
  simp only [allQuads, List.mem_flatMap, List.mem_map]
  constructor
  · rintro ⟨s, subject, p, predicate, o, object, g, graph, rfl⟩
    exact ⟨subject, predicate, object, graph⟩
  · rintro ⟨subject, predicate, object, graph⟩
    exact ⟨_, subject, _, predicate, _, object, _, graph, rfl⟩

theorem mem_graphSlots {graphs : List RoutedTerm} {slot : Option RoutedTerm} :
    slot ∈ graphSlots graphs ↔
      graphs = [] ∧ slot = none ∨ ∃ graph ∈ graphs, graphSlot graph = slot := by
  have listed : slot ∈ (graphs.map graphSlot).eraseDups ↔
      ∃ graph ∈ graphs, graphSlot graph = slot := by
    rw [List.mem_eraseDups, List.mem_map]
  unfold graphSlots
  split
  · rename_i nothing
    have none : graphs = [] := by
      cases graphs with
      | nil => rfl
      | cons graph rest =>
        have inside : graphSlot graph ∈ ((graph :: rest).map graphSlot).eraseDups :=
          List.mem_eraseDups.mpr (List.mem_map_of_mem List.mem_cons_self)
        rw [nothing] at inside
        cases inside
    simp [none]
  · rename_i some
    rw [listed]
    refine (or_iff_right ?_).symm
    rintro ⟨rfl, -⟩
    exact some rfl

theorem Survey.outcome_bind {α β : Type} (s : Survey α) (f : α → Survey β) :
    (s >>= f).outcome = s.outcome >>= fun a => (f a).outcome := by
  obtain ⟨postings, outcome⟩ := s
  cases outcome <;> rfl

theorem Survey.outcome_mapM {α β : Type} (f : α → Survey β) (xs : List α) :
    (xs.mapM f).outcome = xs.mapM fun x => (f x).outcome := by
  induction xs with
  | nil => rfl
  | cons x xs ih =>
    rw [List.mapM_cons, List.mapM_cons, outcome_bind]
    congr 1
    funext b
    rw [outcome_bind, ih]
    rfl

/-- What a run over a list gives in all, its steps give one after the other. -/
theorem flatten_of_mapM_ok {α β : Type} {f : α → Except Fault (List β)} {xs : List α}
    {found : List (List β)} (ran : xs.mapM f = .ok found) :
    found.flatten = xs.flatMap fun x => foundIn (f x) := by
  have each := mapM_eq_ok_iff.mp ran
  clear ran
  induction each with
  | nil => rfl
  | cons here _ ih => rw [List.flatten_cons, List.flatMap_cons, here, foundIn_ok, ih]

namespace MapPlan

variable {plan : MapPlan} {record : Record} {subjects predicates subjectGraphs : List RoutedTerm}
  {graphs : List (Option RoutedTerm)}

/-- What an object map has on a record at once; for a join, nothing. -/
def objectValues (record : Record) : ObjectPlan → Except Fault (List RoutedTerm)
  | .term producer => producer.apply record
  | .sameRecord subject targets =>
    (subject.apply record).map fun values => values.map fun v => ⟨v.term, targets⟩
  | .join .. => .ok []

theorem surveyObject_quads {object : ObjectPlan} {quads : List Quad}
    (ran : (surveyObject record subjects predicates graphs object).outcome = .ok quads) :
    ∃ objects, objectValues record object = .ok objects ∧
      ∀ q, q ∈ quads ↔ q ∈ allQuads subjects predicates objects graphs := by
  cases object with
  | term producer =>
    obtain ⟨objects, applied, ran, -⟩ := Survey.bind_ok ran
    cases ran
    exact ⟨objects, applied, fun q => Iff.rfl⟩
  | sameRecord subject targets =>
    obtain ⟨objects, applied, ran, -⟩ := Survey.bind_ok ran
    cases ran
    exact ⟨_, map_eq_ok_iff.mpr ⟨objects, applied, rfl⟩, fun q => Iff.rfl⟩
  | join join expressions =>
    obtain ⟨keys, -, ran, -⟩ := Survey.bind_ok ran
    obtain ⟨-, -, ran, -⟩ := Survey.bind_ok ran
    cases ran
    refine ⟨[], rfl, fun q => ?_⟩
    simp [mem_allQuads]

theorem surveyPredicateObject_cases {pom : PredicateObjectPlan} {quads : List Quad}
    (ran : (surveyPredicateObject record subjects subjectGraphs pom).outcome = .ok quads) :
    ∃ predicates, applyAll pom.predicates record = .ok predicates ∧
      (predicates = [] ∧ quads = [] ∨
        predicates ≠ [] ∧ ∃ graphs, applyAll pom.graphs record = .ok graphs ∧
          ∃ statements, (pom.objects.mapM fun object => (surveyObject record subjects predicates
            (graphSlots (subjectGraphs ++ graphs)) object).outcome) = .ok statements ∧
              quads = statements.flatten) := by
  obtain ⟨predicates, applied, ran, -⟩ := Survey.bind_ok ran
  refine ⟨predicates, applied, ?_⟩
  by_cases none : predicates = []
  · subst none
    cases ran
    exact .inl ⟨rfl, rfl⟩
  · refine .inr ⟨none, ?_⟩
    have some : predicates.isEmpty = false := by simpa using none
    simp only [some, Bool.false_eq_true, if_false] at ran
    obtain ⟨graphs, named, ran, -⟩ := Survey.bind_ok ran
    obtain ⟨statements, stated, ran, -⟩ := Survey.bind_ok ran
    cases ran
    rw [Survey.outcome_mapM] at stated
    exact ⟨graphs, named, statements, stated, rfl⟩

/-- Where a predicate-object map has predicates, each of its objects goes with all of them. -/
theorem surveyPredicateObject_quads {pom : PredicateObjectPlan} {quads : List Quad}
    (ran : (surveyPredicateObject record subjects subjectGraphs pom).outcome = .ok quads) :
    ∃ predicates, applyAll pom.predicates record = .ok predicates ∧
      (predicates = [] ∧ quads = [] ∨
        predicates ≠ [] ∧ ∃ graphs, applyAll pom.graphs record = .ok graphs ∧
          (∀ object ∈ pom.objects, ∃ objects, objectValues record object = .ok objects) ∧
          ∀ q, q ∈ quads ↔ ∃ object ∈ pom.objects, ∃ objects,
            objectValues record object = .ok objects ∧
              q ∈ allQuads subjects predicates objects (graphSlots (subjectGraphs ++ graphs))) := by
  obtain ⟨predicates, applied, none | ⟨some, graphs, named, statements, stated, rfl⟩⟩ :=
    surveyPredicateObject_cases ran
  · exact ⟨predicates, applied, .inl none⟩
  have each := mapM_eq_ok_iff.mp stated
  refine ⟨predicates, applied, .inr ⟨some, graphs, named, fun object inside => ?_, fun q => ?_⟩⟩
  · obtain ⟨quads, -, given⟩ := exists_right_of_forall₂ each inside
    obtain ⟨objects, found, -⟩ := surveyObject_quads given
    exact ⟨objects, found⟩
  · rw [List.mem_flatten]
    constructor
    · rintro ⟨quads, listed, member⟩
      obtain ⟨object, inside, given⟩ := exists_left_of_forall₂ each listed
      obtain ⟨objects, found, same⟩ := surveyObject_quads given
      exact ⟨object, inside, objects, found, (same q).mp member⟩
    · rintro ⟨object, inside, objects, found, member⟩
      obtain ⟨quads, listed, given⟩ := exists_right_of_forall₂ each inside
      obtain ⟨_, again, same⟩ := surveyObject_quads given
      cases found.symm.trans again
      exact ⟨quads, listed, (same q).mpr member⟩

theorem survey_cases {emitClasses : Bool} {quads : List Quad}
    (ran : (plan.survey emitClasses record).outcome = .ok quads) :
    ∃ subjects, plan.subject.apply record = .ok subjects ∧
      (subjects = [] ∧ quads = [] ∨
        subjects ≠ [] ∧ ∃ subjectGraphs, applyAll plan.subjectGraphs record = .ok subjectGraphs ∧
          ∃ statements, (plan.predicateObjects.mapM fun pom =>
            (surveyPredicateObject record subjects subjectGraphs pom).outcome) = .ok statements ∧
              quads = plan.classQuads emitClasses subjects subjectGraphs ++
                statements.flatten) := by
  obtain ⟨subjects, applied, ran, -⟩ := Survey.bind_ok ran
  refine ⟨subjects, applied, ?_⟩
  by_cases none : subjects = []
  · subst none
    cases ran
    exact .inl ⟨rfl, rfl⟩
  · refine .inr ⟨none, ?_⟩
    have some : subjects.isEmpty = false := by simpa using none
    simp only [some, Bool.false_eq_true, if_false] at ran
    obtain ⟨_, -, ran, -⟩ := Survey.bind_ok ran
    obtain ⟨subjectGraphs, named, ran, -⟩ := Survey.bind_ok ran
    obtain ⟨statements, stated, ran, -⟩ := Survey.bind_ok ran
    cases ran
    rw [Survey.outcome_mapM] at stated
    exact ⟨subjectGraphs, named, statements, stated, rfl⟩

/-- A record with subjects gives class statements and those of its predicate-object maps. -/
theorem survey_quads {emitClasses : Bool} {quads : List Quad}
    (ran : (plan.survey emitClasses record).outcome = .ok quads) :
    ∃ subjects, plan.subject.apply record = .ok subjects ∧
      (subjects = [] ∧ quads = [] ∨
        subjects ≠ [] ∧ ∃ subjectGraphs, applyAll plan.subjectGraphs record = .ok subjectGraphs ∧
          (∀ pom ∈ plan.predicateObjects, ∃ statements,
            (surveyPredicateObject record subjects subjectGraphs pom).outcome = .ok statements) ∧
          ∀ q, q ∈ quads ↔ q ∈ plan.classQuads emitClasses subjects subjectGraphs ∨
            ∃ pom ∈ plan.predicateObjects, ∃ statements,
              (surveyPredicateObject record subjects subjectGraphs pom).outcome = .ok statements ∧
                q ∈ statements) := by
  obtain ⟨subjects, applied, none | ⟨some, subjectGraphs, named, statements, stated, rfl⟩⟩ :=
    survey_cases ran
  · exact ⟨subjects, applied, .inl none⟩
  have each := mapM_eq_ok_iff.mp stated
  refine ⟨subjects, applied, .inr ⟨some, subjectGraphs, named, fun pom member => ?_, fun q => ?_⟩⟩
  · obtain ⟨quads, -, given⟩ := exists_right_of_forall₂ each member
    exact ⟨quads, given⟩
  · rw [List.mem_append, List.mem_flatten]
    refine or_congr_right ?_
    constructor
    · rintro ⟨quads, listed, inside⟩
      obtain ⟨pom, member, given⟩ := exists_left_of_forall₂ each listed
      exact ⟨pom, member, quads, given, inside⟩
    · rintro ⟨pom, member, quads, given, inside⟩
      obtain ⟨_, listed, again⟩ := exists_right_of_forall₂ each member
      cases given.symm.trans again
      exact ⟨quads, listed, inside⟩

/-- The quads that an object has at once with the terms of its triples map on a record. -/
def objectQuads (plan : MapPlan) (pom : PredicateObjectPlan) (record : Record)
    (object : ObjectPlan) : List Quad :=
  foundIn (surveyObject record (foundIn (plan.subject.apply record))
    (foundIn (applyAll pom.predicates record))
    (graphSlots (foundIn (applyAll plan.subjectGraphs record)
      ++ foundIn (applyAll pom.graphs record))) object).outcome

theorem objectQuads_join (pom : PredicateObjectPlan) (join : Nat) (expressions : List String) :
    plan.objectQuads pom record (.join join expressions) = [] := by
  rw [objectQuads, surveyObject, Survey.outcome_bind]
  cases record.joinKeys expressions <;> rfl

theorem objectQuads_sameRecord (pom : PredicateObjectPlan) (subject : Producer)
    (targets : Targets) : plan.objectQuads pom record (.sameRecord subject targets) =
      allQuads (foundIn (plan.subject.apply record)) (foundIn (applyAll pom.predicates record))
        ((foundIn (subject.apply record)).map fun v => ⟨v.term, targets⟩)
        (graphSlots (foundIn (applyAll plan.subjectGraphs record)
          ++ foundIn (applyAll pom.graphs record))) := by
  rw [objectQuads, surveyObject, Survey.outcome_bind]
  cases applied : subject.apply record with
  | ok terms => rfl
  | error f =>
    symm
    refine List.flatMap_eq_nil_iff.mpr fun s _ => List.flatMap_eq_nil_iff.mpr fun p _ => ?_
    rfl

/-- What the objects of a predicate-object map have at once on a record. -/
def predicateObjectQuads (plan : MapPlan) (record : Record) (pom : PredicateObjectPlan) :
    List Quad := pom.objects.flatMap (plan.objectQuads pom record)

theorem surveyObject_of_nil {object : ObjectPlan} (none : subjects = [] ∨ predicates = []) :
    foundIn (surveyObject record subjects predicates graphs object).outcome = [] := by
  have nothing (objects : List RoutedTerm) : allQuads subjects predicates objects graphs = [] := by
    rcases none with rfl | rfl <;> simp [allQuads]
  cases ran : (surveyObject record subjects predicates graphs object).outcome with
  | error f => rfl
  | ok quads =>
    obtain ⟨objects, -, same⟩ := surveyObject_quads ran
    refine List.eq_nil_iff_forall_not_mem.mpr fun q member => ?_
    have inside := (same q).mp member
    rw [nothing] at inside
    exact List.not_mem_nil inside

theorem surveyPredicateObject_gives {pom : PredicateObjectPlan} {quads : List Quad}
    (ran : (surveyPredicateObject record (foundIn (plan.subject.apply record))
      (foundIn (applyAll plan.subjectGraphs record)) pom).outcome = .ok quads) :
    quads = plan.predicateObjectQuads record pom := by
  obtain ⟨predicates, applied, ⟨rfl, rfl⟩ | ⟨-, graphs, named, statements, stated, rfl⟩⟩ :=
    surveyPredicateObject_cases ran
  · refine (List.flatMap_eq_nil_iff.mpr fun object _ => surveyObject_of_nil (.inr ?_)).symm
    rw [applied, foundIn_ok]
  · rw [flatten_of_mapM_ok stated]
    refine List.flatMap_congr fun object _ => ?_
    rw [objectQuads, applied, named, foundIn_ok, foundIn_ok]

/-- A record gives the class statements, and then object by object what each has. -/
theorem survey_gives {emitClasses : Bool} {quads : List Quad}
    (ran : (plan.survey emitClasses record).outcome = .ok quads) :
    quads = plan.classQuads emitClasses (foundIn (plan.subject.apply record))
        (foundIn (applyAll plan.subjectGraphs record)) ++
      plan.predicateObjects.flatMap (plan.predicateObjectQuads record) := by
  obtain ⟨subjects, applied, ⟨rfl, rfl⟩ | ⟨-, subjectGraphs, named, statements, stated, rfl⟩⟩ :=
    survey_cases ran
  · have nothing : plan.predicateObjects.flatMap (plan.predicateObjectQuads record) = [] := by
      refine List.flatMap_eq_nil_iff.mpr fun pom _ => List.flatMap_eq_nil_iff.mpr fun object _ => ?_
      exact surveyObject_of_nil (.inl (by rw [applied, foundIn_ok]))
    rw [nothing, applied, foundIn_ok, classQuads]
    cases emitClasses <;> rfl
  · rw [applied, named, flatten_of_mapM_ok stated]
    refine congrArg _ (List.flatMap_congr fun pom member => ?_)
    obtain ⟨quads, -, given⟩ := exists_right_of_forall₂ (mapM_eq_ok_iff.mp stated) member
    rw [given, foundIn_ok]
    refine surveyPredicateObject_gives ?_
    rwa [applied, named]

end MapPlan

end RdfMapping
