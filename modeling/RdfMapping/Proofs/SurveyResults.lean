import RdfMapping.Proofs.JoinKeys
import RdfMapping.Proofs.JoinSites
import RdfMapping.Proofs.Postings

/-!
# What a record has posted

A record inserts its subjects under all its keys in each store of its triples map, up to
the first store that it could not be keyed for. One that is mapped without a fault fills all
stores, and adds an entry to each join for which it has subjects, predicates and keys.
-/

namespace RdfMapping

namespace Survey

variable {α β : Type}

theorem bind_ok {s : Survey α} {f : α → Survey β} {b : β} (ran : (s >>= f).outcome = .ok b) :
    ∃ a, s.outcome = .ok a ∧ (f a).outcome = .ok b ∧
      (s >>= f).postings = s.postings ++ (f a).postings := by
  obtain ⟨postings, outcome⟩ := s
  cases outcome with
  | error f => cases ran
  | ok a => exact ⟨a, rfl, ran, rfl⟩

theorem mapM_ok {f : α → Survey β} {xs : List α} {bs : List β}
    (ran : (xs.mapM f).outcome = .ok bs) :
    (∀ x ∈ xs, ∃ b, (f x).outcome = .ok b) ∧
      (xs.mapM f).postings = xs.flatMap fun x => (f x).postings := by
  induction xs generalizing bs with
  | nil => exact ⟨fun x member => (List.not_mem_nil member).elim, rfl⟩
  | cons x xs ih =>
    rw [List.mapM_cons] at ran ⊢
    obtain ⟨b, first, ran, posted⟩ := bind_ok ran
    obtain ⟨rest, second, -, postedRest⟩ := bind_ok ran
    obtain ⟨each, all⟩ := ih second
    refine ⟨List.forall_mem_cons.mpr ⟨⟨b, first⟩, each⟩, ?_⟩
    rw [posted, postedRest, all, List.flatMap_cons]
    exact congrArg _ (List.append_nil _)

theorem forM_ok {f : α → Survey Unit} {xs : List α} {u : Unit}
    (ran : (xs.forM f).outcome = .ok u) :
    (∀ x ∈ xs, (f x).outcome = .ok ()) ∧
      (xs.forM f).postings = xs.flatMap fun x => (f x).postings := by
  induction xs with
  | nil => exact ⟨fun x member => (List.not_mem_nil member).elim, rfl⟩
  | cons x xs ih =>
    obtain ⟨_, first, ran, posted⟩ := bind_ok (s := f x) (f := fun _ => xs.forM f) ran
    obtain ⟨each, all⟩ := ih ran
    refine ⟨List.forall_mem_cons.mpr ⟨first, each⟩, ?_⟩
    rw [List.flatMap_cons, ← all]
    exact posted

theorem mem_bind {s : Survey α} {f : α → Survey β} {posting : Posting} :
    posting ∈ (s >>= f).postings ↔
      posting ∈ s.postings ∨ ∃ a, s.outcome = .ok a ∧ posting ∈ (f a).postings := by
  obtain ⟨postings, outcome⟩ := s
  cases outcome <;> simp [bind, andThen]

theorem mem_lift_bind {x : Except Fault α} {f : α → Survey β} {posting : Posting} :
    posting ∈ (Survey.lift x >>= f).postings ↔ ∃ a, x = .ok a ∧ posting ∈ (f a).postings :=
  mem_bind.trans (or_iff_right List.not_mem_nil)

theorem exists_of_mem_mapM {f : α → Survey β} {xs : List α} {posting : Posting}
    (posted : posting ∈ (xs.mapM f).postings) : ∃ x ∈ xs, posting ∈ (f x).postings := by
  induction xs with
  | nil =>
    rw [List.mapM_nil] at posted
    exact (List.not_mem_nil posted).elim
  | cons x xs ih =>
    rw [List.mapM_cons] at posted
    rcases mem_bind.mp posted with here | ⟨b, -, posted⟩
    · exact ⟨x, List.mem_cons_self, here⟩
    · rcases mem_bind.mp posted with later | ⟨bs, -, none⟩
      · obtain ⟨y, member, inside⟩ := ih later
        exact ⟨y, List.mem_cons_of_mem x member, inside⟩
      · exact (List.not_mem_nil none).elim

/-- Of several computations those make their postings that come up to the first that fails. -/
theorem mem_forM {f : α → Survey Unit} {xs : List α} {posting : Posting} :
    posting ∈ (xs.forM f).postings ↔ ∃ earlier x later, xs = earlier ++ x :: later ∧
      (∀ y ∈ earlier, (f y).outcome = .ok ()) ∧ posting ∈ (f x).postings := by
  induction xs with
  | nil =>
    refine iff_of_false List.not_mem_nil ?_
    rintro ⟨earlier, x, later, parts, -⟩
    exact List.append_ne_nil_of_right_ne_nil earlier (List.cons_ne_nil x later) parts.symm
  | cons x xs ih =>
    refine (mem_bind (s := f x) (f := fun _ => xs.forM f)).trans ?_
    simp only [ih]
    constructor
    · rintro (here | ⟨_, fine, earlier, y, later, rfl, all, inside⟩)
      · exact ⟨[], x, xs, rfl, List.forall_mem_nil _, here⟩
      · exact ⟨x :: earlier, y, later, rfl, List.forall_mem_cons.mpr ⟨fine, all⟩, inside⟩
    · rintro ⟨earlier, y, later, parts, all, inside⟩
      cases earlier with
      | nil =>
        cases parts
        exact .inl inside
      | cons z earlier =>
        cases parts
        obtain ⟨fine, all⟩ := List.forall_mem_cons.mp all
        exact .inr ⟨(), fine, earlier, y, later, rfl, all, inside⟩

end Survey

/-- Of several lists one only has something, if the others do not have its name. -/
theorem flatMap_of_unique {α β : Type} {names : α → List Nat} {f : α → List β} {xs : List α}
    (nodup : (xs.flatMap names).Nodup) {x : α} (member : x ∈ xs) {name : Nat}
    (named : name ∈ names x) (elsewhere : ∀ y, name ∉ names y → f y = []) :
    xs.flatMap f = f x := by
  induction xs with
  | nil => exact (List.not_mem_nil member).elim
  | cons y ys ih =>
    rw [List.flatMap_cons] at nodup ⊢
    obtain ⟨-, rest, apart⟩ := List.nodup_append.mp nodup
    by_cases here : name ∈ names y
    · have later : ∀ z ∈ ys, name ∉ names z := fun z inside there =>
        apart name here name (List.mem_flatMap.mpr ⟨z, inside, there⟩) rfl
      have same : x = y := by
        rcases List.mem_cons.mp member with same | inside
        · exact same
        · exact (later x inside named).elim
      have nothing : ys.flatMap f = [] :=
        List.flatMap_eq_nil_iff.mpr fun z inside => elsewhere z (later z inside)
      rw [nothing, List.append_nil, same]
    · rcases List.mem_cons.mp member with same | inside
      · exact (here (same ▸ named)).elim
      · rw [elsewhere y here, List.nil_append, ih rest inside]

theorem entriesFor_flatMap {α : Type} (join : Nat) (xs : List α) (f : α → List Posting) :
    entriesFor join (xs.flatMap f) = xs.flatMap fun x => entriesFor join (f x) := by
  rw [entriesFor, List.filterMap_flatMap]
  rfl

theorem entriesFor_eq_nil {join : Nat} {postings : List Posting}
    (none : ∀ entry, .child join entry ∉ postings) : entriesFor join postings = [] :=
  List.eq_nil_iff_forall_not_mem.mpr fun entry member => none entry (mem_entriesFor.mp member)

/-- Where only joins of these names are posted to, the others get nothing. -/
theorem Survey.Meets.entriesFor_elsewhere {α : Type} {s : Survey α} {names : List Nat}
    {raised : Fault → Prop} {given : α → Prop}
    (meets : s.Meets (fun posting => ∃ join ∈ names, ∃ entry, posting = .child join entry) raised
      given) {join : Nat} (away : join ∉ names) : entriesFor join s.postings = [] := by
  refine entriesFor_eq_nil fun entry posting => ?_
  obtain ⟨_, listed, _, same⟩ := meets.postings _ posting
  cases same
  exact away listed

namespace MapPlan

variable {plan : MapPlan} {record : Record} {subjects predicates subjectGraphs : List RoutedTerm}
  {graphs : List (Option RoutedTerm)}

theorem lift_meets {α : Type} (posted : Posting → Prop) (x : Except Fault α) :
    (Survey.lift x).Meets posted (fun _ => True) fun _ => True := by
  apply Survey.Meets.lift
  cases x <;> trivial

/-- An object posts only to its own join. -/
theorem surveyObject_posts (object : ObjectPlan) :
    (surveyObject record subjects predicates graphs object).Meets
      (fun posting => ∃ join ∈ object.joins, ∃ entry, posting = .child join entry)
      (fun _ => True) fun _ => True := by
  cases object with
  | term producer => exact (lift_meets _ _).bind fun _ _ => .pure trivial
  | sameRecord subject targets => exact (lift_meets _ _).bind fun _ _ => .pure trivial
  | join join expressions =>
    refine (lift_meets _ _).bind fun keys _ => (Survey.Meets.post ?_).bind fun _ _ => .pure trivial
    intro posting posted
    split at posted
    · exact (List.not_mem_nil posted).elim
    · rw [List.mem_singleton.mp posted]
      exact ⟨join, List.mem_singleton_self _, _, rfl⟩

theorem surveyPredicateObject_posts (pom : PredicateObjectPlan) :
    (surveyPredicateObject record subjects subjectGraphs pom).Meets
      (fun posting => ∃ join ∈ pom.joins, ∃ entry, posting = .child join entry)
      (fun _ => True) fun _ => True := by
  refine (lift_meets _ _).bind fun predicates _ => ?_
  split
  · exact .pure trivial
  refine (lift_meets _ _).bind fun graphs _ => ?_
  have each : ∀ object ∈ pom.objects, (surveyObject record subjects predicates
      (graphSlots (subjectGraphs ++ graphs)) object).Meets
        (fun posting => ∃ join ∈ pom.joins, ∃ entry, posting = .child join entry)
        (fun _ => True) fun _ => True := by
    refine fun object inside => (surveyObject_posts object).weaken ?_
    rintro posting ⟨join, listed, entry, rfl⟩
    exact ⟨join, List.mem_flatMap.mpr ⟨object, inside, listed⟩, entry, rfl⟩
  exact (Survey.Meets.mapM each).bind fun _ _ => .pure trivial

theorem surveyParent_posts (key : List String × Nat) :
    (surveyParent record subjects key).Meets
      (fun posting => ∃ k subject, posting = .parent key.2 k subject)
      (fun _ => True) fun _ => True := by
  refine (lift_meets _ _).bind fun keys _ => .post fun posting posted => ?_
  simp only [List.mem_flatMap, List.mem_map] at posted
  obtain ⟨k, -, subject, -, rfl⟩ := posted
  exact ⟨k, subject.term, rfl⟩

theorem surveyParent_ok_iff {key : List String × Nat} :
    (surveyParent record subjects key).outcome = .ok () ↔
      ∃ keys, record.joinKeys key.1 = .ok keys := by
  cases found : record.joinKeys key.1 with
  | error f => simp [surveyParent, found, Survey.lift, bind, Survey.andThen]
  | ok keys => simp [surveyParent, found, Survey.lift, Survey.post, bind, Survey.andThen]

theorem mem_surveyParent {key : List String × Nat} {store : Nat} {k : JoinKey} {subject : Term} :
    .parent store k subject ∈ (surveyParent record subjects key).postings ↔ key.2 = store ∧
      (∃ keys, record.joinKeys key.1 = .ok keys ∧ k ∈ keys) ∧
      ∃ t ∈ subjects, t.term = subject := by
  rw [surveyParent, Survey.mem_lift_bind]
  simp only [Survey.post, List.mem_flatMap, List.mem_map, Posting.parent.injEq]
  constructor
  · rintro ⟨keys, found, k, inside, t, listed, rfl, rfl, rfl⟩
    exact ⟨rfl, ⟨keys, found, inside⟩, t, listed, rfl⟩
  · rintro ⟨rfl, ⟨keys, found, inside⟩, t, listed, rfl⟩
    exact ⟨keys, found, k, inside, t, listed, rfl, rfl, rfl⟩

theorem surveyJoin_ok {join : Nat} {expressions : List String} {quads : List Quad}
    (ran : (surveyObject record subjects predicates graphs (.join join expressions)).outcome =
      .ok quads) :
    entriesFor join
      (surveyObject record subjects predicates graphs (.join join expressions)).postings =
      if foundIn (record.joinKeys expressions) = [] then []
      else [⟨subjects, predicates, graphs, foundIn (record.joinKeys expressions)⟩] := by
  rw [surveyObject] at ran ⊢
  obtain ⟨keys, found, ran, posted⟩ := Survey.bind_ok ran
  obtain ⟨_, -, -, postedEntry⟩ := Survey.bind_ok ran
  have keyed : record.joinKeys expressions = .ok keys := found
  rw [posted, postedEntry, keyed]
  by_cases none : keys = []
  · simp [none, Survey.lift, Survey.post, pure]
  · simp [none, Survey.lift, Survey.post, pure, entriesFor]

/-- What a record adds to a join that stands in a predicate-object map. -/
def joinEntries (plan : MapPlan) (pom : PredicateObjectPlan) (expressions : List String)
    (record : Record) : List ChildEntry :=
  let subjects := foundIn (plan.subject.apply record)
  let predicates := foundIn (applyAll pom.predicates record)
  let slots := graphSlots (foundIn (applyAll plan.subjectGraphs record)
    ++ foundIn (applyAll pom.graphs record))
  let keys := foundIn (record.joinKeys expressions)
  if subjects = [] ∨ predicates = [] ∨ keys = [] then [] else [⟨subjects, predicates, slots, keys⟩]

theorem surveyPredicateObject_ok {pom : PredicateObjectPlan} (nodup : pom.joins.Nodup) {join : Nat}
    {expressions : List String} (object : .join join expressions ∈ pom.objects)
    {quads : List Quad}
    (ran : (surveyPredicateObject record subjects subjectGraphs pom).outcome = .ok quads) :
    entriesFor join (surveyPredicateObject record subjects subjectGraphs pom).postings =
      if foundIn (applyAll pom.predicates record) = [] ∨
          foundIn (record.joinKeys expressions) = [] then []
      else [⟨subjects, foundIn (applyAll pom.predicates record),
        graphSlots (subjectGraphs ++ foundIn (applyAll pom.graphs record)),
        foundIn (record.joinKeys expressions)⟩] := by
  rw [surveyPredicateObject] at ran ⊢
  obtain ⟨predicates, found, ran, posted⟩ := Survey.bind_ok ran
  have applied : applyAll pom.predicates record = .ok predicates := found
  rw [posted, applied]
  by_cases none : predicates = []
  · simp [none, Survey.lift, pure]
  · have some : predicates.isEmpty = false := by simpa using none
    simp only [some, Bool.false_eq_true, if_false] at ran ⊢
    obtain ⟨graphs, found, ran, postedGraphs⟩ := Survey.bind_ok ran
    have named : applyAll pom.graphs record = .ok graphs := found
    obtain ⟨statements, ran, -, postedObjects⟩ := Survey.bind_ok ran
    obtain ⟨each, all⟩ := Survey.mapM_ok ran
    obtain ⟨quads, joined⟩ := each _ object
    have elsewhere : ∀ other, join ∉ ObjectPlan.joins other → entriesFor join (surveyObject record
        subjects predicates (graphSlots (subjectGraphs ++ graphs)) other).postings = [] :=
      fun other => (surveyObject_posts other).entriesFor_elsewhere
    rw [postedGraphs, postedObjects, all, named]
    change entriesFor join ([] ++ ([] ++ (List.flatMap _ _ ++ []))) = _
    rw [List.nil_append, List.nil_append, List.append_nil, entriesFor_flatMap,
      flatMap_of_unique nodup object (List.mem_singleton_self join) elsewhere, surveyJoin_ok joined]
    simp only [foundIn_ok, none, false_or]

/-- The parts of a record that is mapped without a fault, and what they post. -/
theorem survey_ok {emitClasses : Bool} {quads : List Quad}
    (ran : (plan.survey emitClasses record).outcome = .ok quads) :
    ∃ subjects, plan.subject.apply record = .ok subjects ∧
      (subjects = [] ∧ (plan.survey emitClasses record).postings = [] ∨
        subjects ≠ [] ∧ ∃ graphs, applyAll plan.subjectGraphs record = .ok graphs ∧
          (∀ key ∈ plan.parentKeys, (surveyParent record subjects key).outcome = .ok ()) ∧
          (∀ pom ∈ plan.predicateObjects, ∃ statements,
            (surveyPredicateObject record subjects graphs pom).outcome = .ok statements) ∧
          (plan.survey emitClasses record).postings =
            plan.parentKeys.flatMap (fun key => (surveyParent record subjects key).postings) ++
              plan.predicateObjects.flatMap fun pom =>
                (surveyPredicateObject record subjects graphs pom).postings) := by
  rw [survey] at ran ⊢
  obtain ⟨subjects, applied, ran, posted⟩ := Survey.bind_ok ran
  refine ⟨subjects, applied, ?_⟩
  rw [posted]
  by_cases none : subjects = []
  · exact .inl ⟨none, by simp [none, Survey.lift, pure]⟩
  · refine .inr ⟨none, ?_⟩
    have some : subjects.isEmpty = false := by simpa using none
    simp only [some, Bool.false_eq_true, if_false] at ran ⊢
    obtain ⟨_, parents, ran, postedParents⟩ := Survey.bind_ok ran
    obtain ⟨graphs, named, ran, postedGraphs⟩ := Survey.bind_ok ran
    obtain ⟨statements, ran, -, postedStatements⟩ := Survey.bind_ok ran
    obtain ⟨eachParent, allParents⟩ := Survey.forM_ok parents
    obtain ⟨eachStatement, allStatements⟩ := Survey.mapM_ok ran
    refine ⟨graphs, named, eachParent, eachStatement, ?_⟩
    rw [postedParents, postedGraphs, postedStatements, allParents, allStatements]
    change [] ++ (_ ++ ([] ++ (List.flatMap _ _ ++ []))) = _
    rw [List.nil_append, List.nil_append, List.append_nil]

/-- A record that is mapped without a fault adds to a join what its place asks for. -/
theorem entriesFor_survey {emitClasses : Bool} (nodup : plan.joins.Nodup)
    {pom : PredicateObjectPlan} (member : pom ∈ plan.predicateObjects) {join : Nat}
    {expressions : List String} (object : .join join expressions ∈ pom.objects)
    {quads : List Quad} (ran : (plan.survey emitClasses record).outcome = .ok quads) :
    entriesFor join (plan.survey emitClasses record).postings =
      plan.joinEntries pom expressions record := by
  obtain ⟨subjects, applied, parts⟩ := survey_ok ran
  rw [joinEntries, applied]
  rcases parts with ⟨none, nothing⟩ | ⟨some, graphs, named, -, stated, posted⟩
  · simp [none, nothing]
  · obtain ⟨statements, stated⟩ := stated pom member
    have listed : join ∈ pom.joins :=
      List.mem_flatMap.mpr ⟨_, object, List.mem_singleton_self join⟩
    have elsewhere : ∀ other, join ∉ PredicateObjectPlan.joins other →
        entriesFor join (surveyPredicateObject record subjects graphs other).postings = [] :=
      fun other => (surveyPredicateObject_posts other).entriesFor_elsewhere
    have fromParents : entriesFor join (plan.parentKeys.flatMap fun key =>
        (surveyParent record subjects key).postings) = [] := by
      refine entriesFor_eq_nil fun entry posting => ?_
      obtain ⟨key, -, posting⟩ := List.mem_flatMap.mp posting
      obtain ⟨_, _, same⟩ := (surveyParent_posts key).postings _ posting
      cases same
    have own : pom.joins.Nodup := (List.nodup_flatMap.mp nodup).1 pom member
    rw [posted, entriesFor_append, fromParents, List.nil_append, entriesFor_flatMap,
      flatMap_of_unique nodup member listed elsewhere, surveyPredicateObject_ok own object stated,
      named]
    simp only [foundIn_ok, some, false_or]

/--
What a record inserts into a store: its subjects under all its keys for the expressions of the
store. Where there are no keys because a value could not be had, the stores behind get nothing.
-/
def Inserts (plan : MapPlan) (record : Record) (store : Nat) (key : JoinKey) (subject : Term) :
    Prop :=
  (∃ earlier expressions later, plan.parentKeys = earlier ++ (expressions, store) :: later ∧
    (∀ other ∈ earlier, ∃ keys, record.joinKeys other.1 = .ok keys) ∧
    ∃ keys, record.joinKeys expressions = .ok keys ∧ key ∈ keys) ∧
  ∃ subjects, plan.subject.apply record = .ok subjects ∧ ∃ t ∈ subjects, t.term = subject

/-- The subjects that a record posts, mapped without a fault or not. -/
theorem mem_survey_parent (emitClasses : Bool) {store : Nat} {key : JoinKey} {subject : Term} :
    .parent store key subject ∈ (plan.survey emitClasses record).postings ↔
      plan.Inserts record store key subject := by
  rw [survey, Survey.mem_lift_bind, Inserts, and_comm, ← exists_and_right]
  refine exists_congr fun subjects => ?_
  rw [and_assoc]
  refine and_congr_right fun _ => ?_
  by_cases none : subjects = []
  · subst none
    refine iff_of_false List.not_mem_nil ?_
    rintro ⟨⟨_, member, -⟩, -⟩
    exact List.not_mem_nil member
  · rw [if_neg (mt List.isEmpty_iff.mp none), Survey.mem_bind, Survey.mem_forM]
    -- Behind the stores only joins are posted to.
    refine (or_iff_left ?_).trans ?_
    · rintro ⟨_, -, posted⟩
      obtain ⟨graphs, -, posted⟩ := Survey.mem_lift_bind.mp posted
      rcases Survey.mem_bind.mp posted with stated | ⟨_, -, nothing⟩
      · obtain ⟨pom, -, inside⟩ := Survey.exists_of_mem_mapM stated
        obtain ⟨_, -, _, same⟩ := (surveyPredicateObject_posts pom).postings _ inside
        cases same
      · exact List.not_mem_nil nothing
    simp only [mem_surveyParent, surveyParent_ok_iff]
    constructor
    · rintro ⟨earlier, ⟨expressions, _⟩, later, parts, fine, rfl, keyed, t, listed, made⟩
      exact ⟨⟨t, listed, made⟩, earlier, expressions, later, parts, fine, keyed⟩
    · rintro ⟨⟨t, listed, made⟩, earlier, expressions, later, parts, fine, keyed⟩
      exact ⟨earlier, (expressions, store), later, parts, fine, rfl, keyed, t, listed, made⟩

/-- A record that is mapped without a fault inserts its subjects under all keys. -/
theorem inserts_iff {emitClasses : Bool} {quads : List Quad}
    (ran : (plan.survey emitClasses record).outcome = .ok quads) {store : Nat} {key : JoinKey}
    {subject : Term} : plan.Inserts record store key subject ↔
      (∃ expressions, (expressions, store) ∈ plan.parentKeys ∧
        key ∈ foundIn (record.joinKeys expressions)) ∧
      ∃ t ∈ foundIn (plan.subject.apply record), t.term = subject := by
  obtain ⟨subjects, applied, parts⟩ := survey_ok ran
  rw [applied, foundIn_ok]
  constructor
  · rintro ⟨⟨earlier, expressions, later, parts, -, keys, found, inside⟩, _, same, made⟩
    cases applied.symm.trans same
    refine ⟨⟨expressions, ?_, by rwa [found]⟩, made⟩
    rw [parts]
    exact List.mem_append_right _ List.mem_cons_self
  · rintro ⟨⟨expressions, listed, keyed⟩, t, inside, made⟩
    rcases parts with ⟨none, -⟩ | ⟨-, _, -, each, -, -⟩
    · rw [none] at inside
      exact (List.not_mem_nil inside).elim
    · obtain ⟨earlier, later, parts⟩ := List.append_of_mem listed
      obtain ⟨keys, found⟩ := surveyParent_ok_iff.mp (each _ listed)
      rw [found] at keyed
      refine ⟨⟨earlier, expressions, later, parts, fun other before => ?_, keys, found, keyed⟩,
        subjects, applied, t, inside, made⟩
      exact surveyParent_ok_iff.mp (each other (parts ▸ List.mem_append_left _ before))

end MapPlan

end RdfMapping
