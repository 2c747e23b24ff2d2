import RdfMapping.Proofs.JoinKeys
import RdfMapping.Proofs.Outcomes
import RdfMapping.Proofs.Scalars

/-!
# Keys as choices

The keys of a record are all ways to take one value for each expression, and they come in the
lexicographic order of the places that the values have. Hence two records have a key in common
just when they have a value in common for each expression. An expression without a value leaves
no key, and one that fails is only asked if all before it have a value.
-/

namespace RdfMapping

/-- Every way to take one value from each column, the last column varying first. -/
def choices : List (List String) → List JoinKey
  | [] => [[]]
  | column :: columns => column.flatMap fun value => (choices columns).map (value :: ·)

/-- The places of the values, in the order of the choices. -/
def choicePlaces : List (List String) → List (List Nat)
  | [] => [[]]
  | column :: columns =>
    (List.range column.length).flatMap fun place => (choicePlaces columns).map (place :: ·)

/-- The value at each place of its column. -/
def valuesAt (columns : List (List String)) (places : List Nat) : List (Option String) :=
  List.zipWith (fun column place => column[place]?) columns places

/-- The keys take a value from each column in every way, in the lexicographic order of places. -/
def AreChoices (columns : List (List String)) (keys : List JoinKey) : Prop :=
  ∃ places : List (List Nat), places.Pairwise (List.Lex (· < ·)) ∧
    (∀ chosen, chosen ∈ places ↔
      List.Forall₂ (fun place column => place < column.length) chosen columns) ∧
    keys.map (List.map some) = places.map (valuesAt columns)

theorem mem_choices {columns : List (List String)} {key : JoinKey} :
    key ∈ choices columns ↔ List.Forall₂ (· ∈ ·) key columns := by
  induction columns generalizing key with
  | nil => simp [choices]
  | cons column columns ih =>
    simp only [choices, List.mem_flatMap, List.mem_map, ih, List.forall₂_cons_right_iff]
    constructor
    · rintro ⟨value, member, rest, chosen, rfl⟩
      exact ⟨value, rest, member, chosen, rfl⟩
    · rintro ⟨value, rest, member, chosen, rfl⟩
      exact ⟨value, member, rest, chosen, rfl⟩

theorem mem_choicePlaces {columns : List (List String)} {chosen : List Nat} :
    chosen ∈ choicePlaces columns ↔
      List.Forall₂ (fun place column => place < column.length) chosen columns := by
  induction columns generalizing chosen with
  | nil => simp [choicePlaces]
  | cons column columns ih =>
    simp only [choicePlaces, List.mem_flatMap, List.mem_map, List.mem_range, ih,
      List.forall₂_cons_right_iff]
    constructor
    · rintro ⟨place, inside, rest, chosen, rfl⟩
      exact ⟨place, rest, inside, chosen, rfl⟩
    · rintro ⟨place, rest, inside, chosen, rfl⟩
      exact ⟨place, inside, rest, chosen, rfl⟩

theorem pairwise_choicePlaces (columns : List (List String)) :
    (choicePlaces columns).Pairwise (List.Lex (· < ·)) := by
  induction columns with
  | nil => exact List.pairwise_singleton _ _
  | cons column columns ih =>
    refine List.pairwise_flatMap.mpr ⟨fun place _ => ?_, ?_⟩
    · exact ih.map _ fun _ _ below => .cons below
    · refine List.pairwise_lt_range.imp fun {i j} below => ?_
      rintro _ first _ second
      obtain ⟨_, -, rfl⟩ := List.mem_map.mp first
      obtain ⟨_, -, rfl⟩ := List.mem_map.mp second
      exact .rel below

theorem map_getElem?_range (column : List String) :
    (List.range column.length).map (column[·]?) = column.map some := by
  refine List.ext_getElem (by simp) fun i _ _ => ?_
  simp

theorem map_some_choices (columns : List (List String)) :
    (choices columns).map (List.map some) = (choicePlaces columns).map (valuesAt columns) := by
  induction columns with
  | nil => rfl
  | cons column columns ih =>
    -- The same rows go behind every value, whether it is named itself or by its place.
    have behind (value : Option String) :
        (choices columns).map (fun key => value :: key.map some) =
          (choicePlaces columns).map fun chosen => value :: valuesAt columns chosen := by
      have rows := congrArg (List.map (value :: ·)) ih
      rwa [List.map_map, List.map_map] at rows
    calc (choices (column :: columns)).map (List.map some)
        = (column.map some).flatMap fun value =>
            (choices columns).map fun key => value :: key.map some := by
          simp [choices, List.map_flatMap, List.flatMap_map, Function.comp_def]
      _ = ((List.range column.length).map (column[·]?)).flatMap fun value =>
            (choicePlaces columns).map fun chosen => value :: valuesAt columns chosen := by
          rw [map_getElem?_range, funext behind]
      _ = (choicePlaces (column :: columns)).map (valuesAt (column :: columns)) := by
          simp [choicePlaces, List.map_flatMap, List.flatMap_map, Function.comp_def, valuesAt]

theorem choices_areChoices (columns : List (List String)) :
    AreChoices columns (choices columns) :=
  ⟨choicePlaces columns, pairwise_choicePlaces columns, fun _ => mem_choicePlaces,
    map_some_choices columns⟩

theorem choices_eq_nil {columns : List (List String)} (missing : [] ∈ columns) :
    choices columns = [] := by
  refine List.eq_nil_iff_forall_not_mem.mpr fun key chosen => ?_
  obtain ⟨value, -, here⟩ := exists_left_of_forall₂ (mem_choices.mp chosen) missing
  exact List.not_mem_nil here

/-- Equally many columns have a choice in common when each has a value in common. -/
theorem share_choice_iff {columns others : List (List String)}
    (same : columns.length = others.length) :
    (∃ key, key ∈ choices columns ∧ key ∈ choices others) ↔
      List.Forall₂ (fun column other => ∃ value, value ∈ column ∧ value ∈ other)
        columns others := by
  simp only [mem_choices]
  induction columns generalizing others with
  | nil =>
    obtain rfl := List.length_eq_zero_iff.mp same.symm
    exact iff_of_true ⟨[], .nil, .nil⟩ .nil
  | cons column columns ih =>
    cases others with
    | nil => cases same
    | cons other others =>
      rw [List.forall₂_cons, ← ih (Nat.succ.inj same)]
      constructor
      · rintro ⟨key, left, right⟩
        obtain ⟨value, rest, member, chosen, rfl⟩ := List.forall₂_cons_right_iff.mp left
        obtain ⟨also, agreed⟩ := List.forall₂_cons.mp right
        exact ⟨⟨value, member, also⟩, rest, chosen, agreed⟩
      · rintro ⟨⟨value, member, also⟩, rest, chosen, agreed⟩
        exact ⟨value :: rest, .cons member chosen, .cons also agreed⟩

/-- The lexical forms of the scalars, to any depth; nulls have none. -/
def RawValue.texts (values : List RawValue) : List String :=
  (scalarsOf values).filterMap lexical?

namespace Record

/-- The expressions are answered with these values. -/
def Answers (r : Record) (expressions : List String) (answers : List (List RawValue)) : Prop :=
  List.Forall₂ (fun e values => r.evaluate e = .ok values) expressions answers

variable {r s : Record} {expressions others : List String} {answers : List (List RawValue)}

theorem present_of_evaluate {e : String} {values : List RawValue}
    (answered : r.evaluate e = .ok values) : r.present e = .ok (RawValue.texts values) := by
  rw [present, answered, RawValue.texts, ← RawValue.present_eq]
  rfl

/-- Expressions with values extend every key by every choice of their values. -/
theorem keysFrom_append (answered : r.Answers expressions answers)
    (found : ∀ values ∈ answers, RawValue.texts values ≠ []) (keys : List JoinKey)
    (rest : List String) :
    r.keysFrom keys (expressions ++ rest) = r.keysFrom
      (keys.flatMap fun key => (choices (answers.map RawValue.texts)).map (key ++ ·)) rest := by
  induction answered generalizing keys with
  | nil => simp [choices]
  | @cons e values expressions answers here _ ih =>
    obtain ⟨some, found⟩ := List.forall_mem_cons.mp found
    rw [List.cons_append, keysFrom, present_of_evaluate here]
    split
    · rename_i failed
      cases failed
    · rename_i nothing
      exact absurd (Except.ok.inj nothing) some
    · rename_i present
      cases present
      rw [ih found, extendKeys]
      simp [choices, List.flatMap_assoc, List.flatMap_map, List.map_flatMap, Function.comp_def]

/-- An expression without a value leaves no key, and those behind it are not asked. -/
theorem keysFrom_of_missing (answered : r.Answers expressions answers)
    (missing : ∃ values ∈ answers, RawValue.texts values = []) (keys : List JoinKey)
    (rest : List String) : r.keysFrom keys (expressions ++ rest) = .ok [] := by
  induction answered generalizing keys with
  | nil =>
    obtain ⟨_, member, -⟩ := missing
    cases member
  | @cons e values expressions answers here _ ih =>
    rw [List.cons_append, keysFrom, present_of_evaluate here]
    split
    · rename_i failed
      cases failed
    · rfl
    · rename_i some present
      obtain ⟨empty, member, nothing⟩ := missing
      refine ih ⟨empty, (List.mem_cons.mp member).resolve_left ?_, nothing⟩ _
      rintro rfl
      rw [nothing] at present
      cases present
      exact some rfl

theorem joinKeys_of_answers (answered : r.Answers expressions answers) :
    r.joinKeys expressions = .ok (choices (answers.map RawValue.texts)) := by
  by_cases missing : ∃ values ∈ answers, RawValue.texts values = []
  · obtain ⟨values, member, nothing⟩ := missing
    have keys := keysFrom_of_missing answered ⟨values, member, nothing⟩ [[]] []
    rw [List.append_nil] at keys
    rw [joinKeys, keys, choices_eq_nil (nothing ▸ List.mem_map_of_mem member)]
  · push Not at missing
    have keys := keysFrom_append answered missing [[]] []
    rw [List.append_nil] at keys
    rw [joinKeys, keys]
    simp [keysFrom]

theorem joinKeys_of_failure (answered : r.Answers expressions answers) {e : String} {f : Fault}
    (failed : r.evaluate e = .error f) (rest : List String) :
    r.joinKeys (expressions ++ e :: rest) = .error f ↔
      ∀ values ∈ answers, RawValue.texts values ≠ [] := by
  have refused : r.present e = .error f := by
    rw [present, failed]
    rfl
  constructor
  · intro fails values member nothing
    have keys := keysFrom_of_missing answered ⟨values, member, nothing⟩ [[]] (e :: rest)
    cases keys.symm.trans fails
  · intro found
    rw [joinKeys, keysFrom_append answered found, keysFrom, refused]

/--
Where all expressions are answered, the keys of a record are the choices of a text for each of
them. Two such records with equally many expressions share a key just when their answers share
a text in every place. An expression that fails behind them is the outcome just when they all
have a text; without a text for one of them there is no key, whatever follows.
-/
theorem keys_choose_values (answered : r.Answers expressions answers) :
    (∃ keys, r.joinKeys expressions = .ok keys ∧
      AreChoices (answers.map RawValue.texts) keys ∧
      (∀ key ∈ keys, key.length = expressions.length) ∧ (expressions = [] → keys = [[]])) ∧
    (∀ (s : Record) others replies, others.length = expressions.length →
      s.Answers others replies →
      ∃ keys also, r.joinKeys expressions = .ok keys ∧ s.joinKeys others = .ok also ∧
        ((∃ key, key ∈ keys ∧ key ∈ also) ↔ List.Forall₂ (fun values found =>
          ∃ text, text ∈ RawValue.texts values ∧ text ∈ RawValue.texts found) answers replies)) ∧
    (∀ e f rest, r.evaluate e = .error f → (r.joinKeys (expressions ++ e :: rest) = .error f ↔
      ∀ values ∈ answers, RawValue.texts values ≠ [])) ∧
    ((∃ values ∈ answers, RawValue.texts values = []) →
      ∀ rest, r.joinKeys (expressions ++ rest) = .ok []) := by
  have keys := joinKeys_of_answers answered
  refine ⟨⟨_, keys, choices_areChoices _, ?_, ?_⟩, ?_, fun e f rest failed =>
    joinKeys_of_failure answered failed rest, fun missing => keysFrom_of_missing answered missing _⟩
  · intro key member
    rw [(mem_choices.mp member).length_eq, List.length_map, answered.length_eq]
  · rintro rfl
    obtain rfl := List.forall₂_nil_left_iff.mp answered
    rfl
  · intro s others replies same agreed
    refine ⟨_, _, keys, joinKeys_of_answers agreed, ?_⟩
    have lengths : (answers.map RawValue.texts).length = (replies.map RawValue.texts).length := by
      rw [List.length_map, List.length_map, ← answered.length_eq, ← agreed.length_eq, same]
    rw [share_choice_iff lengths, List.forall₂_map_left_iff, List.forall₂_map_right_iff]

end Record

namespace Flights

/-- A flight to two airports, the second of them in a list. -/
def flight : Record where
  evaluate e :=
    if e = "to" then .ok [.text "JFK", .null, .list [.text "LGA"]]
    else if e = "country" then .ok [.text "US"]
    else if e = "gate" then .ok [.null]
    else .error (.expression e "no such column")
  datatype? _ := none

def airport : Record where
  evaluate e :=
    if e = "code" then .ok [.list [.text "LGA"], .text "LaGuardia"] else .ok [.text "US"]
  datatype? _ := none

def answers : List (List RawValue) := [[.text "JFK", .null, .list [.text "LGA"]], [.text "US"]]

def replies : List (List RawValue) := [[.list [.text "LGA"], .text "LaGuardia"], [.text "US"]]

theorem flight_answers : flight.Answers ["to", "country"] answers :=
  .cons rfl (.cons rfl .nil)

theorem airport_answers : airport.Answers ["code", "country"] replies :=
  .cons rfl (.cons rfl .nil)

end Flights

theorem flights_choose_values :
    Flights.flight.Answers ["to", "country"] Flights.answers ∧
    Flights.airport.Answers ["code", "country"] Flights.replies ∧
    Flights.flight.joinKeys ["to", "country"] = .ok [["JFK", "US"], ["LGA", "US"]] ∧
    AreChoices [["JFK", "LGA"], ["US"]] [["JFK", "US"], ["LGA", "US"]] ∧
    (∃ keys also, Flights.flight.joinKeys ["to", "country"] = .ok keys ∧
      Flights.airport.joinKeys ["code", "country"] = .ok also ∧ ∃ key, key ∈ keys ∧ key ∈ also) ∧
    Flights.flight.evaluate "seat" = .error (.expression "seat" "no such column") ∧
    Flights.flight.joinKeys ["to", "country", "seat"] =
      .error (.expression "seat" "no such column") ∧
    Flights.flight.Answers ["to", "gate"] [[.text "JFK", .null, .list [.text "LGA"]], [.null]] ∧
    Flights.flight.joinKeys ["to", "gate", "seat"] = .ok [] := by
  obtain ⟨⟨keys, given, areChoices, -⟩, shares, fails, -⟩ :=
    Record.keys_choose_values Flights.flight_answers
  have gate : Flights.flight.Answers ["to", "gate"]
      [[.text "JFK", .null, .list [.text "LGA"]], [.null]] := .cons rfl (.cons rfl .nil)
  obtain ⟨-, -, -, missing⟩ := Record.keys_choose_values gate
  have listed : Flights.flight.joinKeys ["to", "country"] = .ok [["JFK", "US"], ["LGA", "US"]] :=
    rfl
  refine ⟨Flights.flight_answers, Flights.airport_answers, listed, ?_, ?_, rfl, ?_, gate, ?_⟩
  · cases listed.symm.trans given
    exact areChoices
  · obtain ⟨keys, also, left, right, iff⟩ :=
      shares Flights.airport ["code", "country"] Flights.replies rfl Flights.airport_answers
    refine ⟨keys, also, left, right, iff.mpr (.cons ⟨"LGA", ?_, ?_⟩ (.cons ⟨"US", ?_, ?_⟩ .nil))⟩
    all_goals decide
  · exact (fails "seat" _ [] rfl).mpr (by decide)
  · exact missing ⟨[.null], by simp, rfl⟩ ["seat"]

end RdfMapping
