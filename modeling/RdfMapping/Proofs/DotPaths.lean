import Mathlib.Data.List.Basic
import RdfMapping.Json.DotPath

/-!
# What dot paths address

A path is followed step by step, so what it addresses behind a dot is what the rest of it
addresses in each value that it leads to before the dot. A key that does not read as an index
leads to the members of that name, of the value or of what arrays in it hold. The mark of the
record is dropped from the first key even if more of the key follows, so that a member whose
name begins with the mark is missed there.
-/

namespace RdfMapping.Json

theorem dropLeading_of_head?_ne {c : Char} {cs : List Char} (other : cs.head? ≠ some c) :
    dropLeading c cs = cs := by
  cases cs with
  | nil => rfl
  | cons d cs =>
    have apart : c ≠ d := fun same => other (congrArg some same.symm)
    rw [dropLeading, if_neg apart]

theorem dropLeading_append (c : Char) {cs : List Char} (inhabited : cs ≠ []) (rest : List Char) :
    dropLeading c (cs ++ rest) = dropLeading c cs ++ rest := by
  cases cs with
  | nil => contradiction
  | cons d cs =>
    rw [List.cons_append, dropLeading, dropLeading]
    split <;> rfl

/-- The text of a path without the mark of the record and the dot behind it. -/
def unmarked (cs : List Char) : List Char := dropLeading '.' (dropLeading '$' cs)

theorem unmarked_of_head?_ne {cs : List Char} (root : cs.head? ≠ some '$')
    (dot : cs.head? ≠ some '.') : unmarked cs = cs := by
  rw [unmarked, dropLeading_of_head?_ne root, dropLeading_of_head?_ne dot]

theorem unmarked_append {cs : List Char} (inhabited : unmarked cs ≠ []) (rest : List Char) :
    unmarked (cs ++ rest) = unmarked cs ++ rest := by
  have marked : dropLeading '$' cs ≠ [] := by
    intro empty
    exact inhabited (by rw [unmarked, empty]; rfl)
  have whole : cs ≠ [] := by
    rintro rfl
    exact marked rfl
  rw [unmarked, dropLeading_append '$' whole, dropLeading_append '.' marked, unmarked]

/-- Only the mark of the record and the dot behind it say nothing. -/
theorem eq_of_unmarked_eq_nil {cs : List Char} (empty : unmarked cs = []) :
    cs = [] ∨ cs = ['$'] ∨ cs = ['.'] ∨ cs = ['$', '.'] := by
  have alone {c : Char} {ds : List Char} (dropped : dropLeading c ds = []) :
      ds = [] ∨ ds = [c] := by
    cases ds with
    | nil => exact .inl rfl
    | cons d ds =>
      rw [dropLeading] at dropped
      split at dropped
      · rename_i same
        exact .inr (by rw [dropped, same])
      · cases dropped
  rcases alone empty with nothing | dot
  · rcases alone nothing with rfl | rfl
    · exact .inl rfl
    · exact .inr (.inl rfl)
  · cases cs with
    | nil => cases dot
    | cons c cs =>
      rw [dropLeading] at dot
      split at dot
      · rename_i root
        exact .inr (.inr (.inr (by rw [dot, root])))
      · exact .inr (.inr (.inl dot))

theorem pathSteps_of_unmarked {path : String} (inhabited : unmarked path.toList ≠ []) :
    pathSteps path = ((unmarked path.toList).splitOn '.').map String.ofList := by
  rw [pathSteps]
  split
  · contradiction
  · rw [unmarked]

theorem pathSteps_of_unmarked_eq_nil {path : String} (empty : unmarked path.toList = []) :
    pathSteps path = [] := by
  rw [unmarked] at empty
  rw [pathSteps, empty]

/-- A dot parts the steps wherever it stands, unless it only follows the mark. -/
theorem pathSteps_append {p q : String} (inhabited : q ≠ "")
    (root : q.toList.head? ≠ some '$') (dot : q.toList.head? ≠ some '.')
    (apart : p ≠ "." ∧ p ≠ "$.") : pathSteps (p ++ "." ++ q) = pathSteps p ++ pathSteps q := by
  have rest : unmarked q.toList = q.toList := unmarked_of_head?_ne root dot
  have chars : q.toList ≠ [] := fun empty => inhabited (String.toList_eq_nil_iff.mp empty)
  have whole : (p ++ "." ++ q).toList = p.toList ++ '.' :: q.toList := by
    simp
  have later : pathSteps q = (q.toList.splitOn '.').map String.ofList := by
    rw [pathSteps_of_unmarked (by rwa [rest]), rest]
  by_cases empty : unmarked p.toList = []
  · have onlyRest : unmarked (p ++ "." ++ q).toList = q.toList := by
      rw [whole]
      rcases eq_of_unmarked_eq_nil empty with nothing | mark | alone | both
      · rw [nothing]
        rfl
      · rw [mark]
        rfl
      · exact (apart.1 (String.toList_injective alone)).elim
      · exact (apart.2 (String.toList_injective both)).elim
    rw [pathSteps_of_unmarked_eq_nil empty, List.nil_append, later,
      pathSteps_of_unmarked (by rwa [onlyRest]), onlyRest]
  · have both : unmarked (p ++ "." ++ q).toList = unmarked p.toList ++ '.' :: q.toList := by
      rw [whole, unmarked_append empty]
    have parted : unmarked (p ++ "." ++ q).toList ≠ [] := by
      rw [both]
      exact List.append_ne_nil_of_left_ne_nil empty _
    rw [pathSteps_of_unmarked empty, later, pathSteps_of_unmarked parted, both,
      List.splitOn_append_cons_self, List.map_append]

/-- What steps lead to, one after the other. -/
def follow (keys : List String) (value : Json) : List Json :=
  keys.foldl (fun found key => found.flatMap (step key)) [value]

theorem foldl_step (keys : List String) (found : List Json) :
    keys.foldl (fun found key => found.flatMap (step key)) found = found.flatMap (follow keys) := by
  induction keys generalizing found with
  | nil => exact (List.flatMap_singleton' found).symm
  | cons key keys ih =>
    rw [List.foldl_cons, ih, List.flatMap_assoc]
    refine List.flatMap_congr fun value _ => ?_
    rw [follow, List.foldl_cons, ih, List.flatMap_singleton]

theorem follow_cons (key : String) (keys : List String) (value : Json) :
    follow (key :: keys) value = (step key value).flatMap (follow keys) := by
  rw [follow, List.foldl_cons, foldl_step, List.flatMap_singleton]

theorem follow_append (keys more : List String) (value : Json) :
    follow (keys ++ more) value = (follow keys value).flatMap (follow more) := by
  rw [follow, List.foldl_append, foldl_step, follow]

/--
What a path addresses behind a dot is what its rest addresses in each of the values that it
addresses before the dot, in order.
-/
theorem select_behind_dot (value : Json) {p q : String} (inhabited : q ≠ "")
    (root : q.toList.head? ≠ some '$') (dot : q.toList.head? ≠ some '.')
    (apart : p ≠ "." ∧ p ≠ "$.") :
    select value (p ++ "." ++ q) = (select value p).flatMap fun found => select found q := by
  have steps := pathSteps_append inhabited root dot apart
  calc select value (p ++ "." ++ q)
      = follow (pathSteps p ++ pathSteps q) value := by rw [select, steps, follow]
    _ = (follow (pathSteps p) value).flatMap (follow (pathSteps q)) := follow_append _ _ value

mutual

/-- The value itself, or what an array holds, with arrays in it unfolded in turn. -/
def unfolded : Json → List Json
  | .array items => unfoldedItems items
  | value => [value]

def unfoldedItems : List Json → List Json
  | [] => []
  | item :: rest => item.unfolded ++ unfoldedItems rest

end

/-- The values that are reached by descending into one member after the other, in document order.
An array is met in all that it holds; what has no such member leads nowhere. -/
def reached : List String → Json → List Json
  | [], value => [value]
  | key :: keys, value => value.unfolded.flatMap fun found =>
      (found.member? key).toList.flatMap (reached keys)

/-- The digits of a word, with or without a plus sign. -/
def IsItemIndex (key : String) : Prop :=
  ∃ digits : List Char, (key.toList = digits ∨ key.toList = '+' :: digits) ∧ digits ≠ [] ∧
    (∀ c ∈ digits, c.isDigit) ∧ Numeral.natOfDigits digits < wordEnd

theorem isSome_itemIndex?_iff {key : String} : (itemIndex? key).isSome ↔ IsItemIndex key := by
  rw [itemIndex?]
  dsimp only
  constructor
  · intro found
    split at found
    · rename_i digits
      rw [Bool.and_eq_true, Bool.not_eq_true', List.isEmpty_eq_false_iff, List.all_eq_true]
        at digits
      split at found
      · rename_i small
        refine ⟨dropLeading '+' key.toList, ?_, digits.1, digits.2, small⟩
        cases key.toList with
        | nil => exact .inl rfl
        | cons c cs =>
          rw [dropLeading]
          split
          · rename_i same
            exact .inr (by rw [same])
          · exact .inl rfl
      · cases found
    · cases found
  · rintro ⟨digits, written, inhabited, all, small⟩
    have dropped : dropLeading '+' key.toList = digits := by
      rcases written with written | written
      · rw [written]
        refine dropLeading_of_head?_ne fun plus => ?_
        have digit := all '+' (List.mem_of_mem_head? plus)
        cases digit
      · rw [written]
        rfl
    rw [dropped, if_pos, if_pos small]
    · rfl
    · rw [Bool.and_eq_true, Bool.not_eq_true', List.isEmpty_eq_false_iff, List.all_eq_true]
      exact ⟨inhabited, all⟩

/-- A key that a path can name as it stands. -/
structure IsPlainKey (key : String) : Prop where
  inhabited : key ≠ ""
  undotted : '.' ∉ key.toList
  named : key ≠ "*"
  unnumbered : ¬ IsItemIndex key

instance (key : String) : Decidable (IsItemIndex key) := decidable_of_iff _ isSome_itemIndex?_iff

instance (key : String) : Decidable (IsPlainKey key) :=
  decidable_of_iff (key ≠ "" ∧ '.' ∉ key.toList ∧ key ≠ "*" ∧ ¬ IsItemIndex key)
    ⟨fun ⟨inhabited, undotted, named, unnumbered⟩ => ⟨inhabited, undotted, named, unnumbered⟩,
      fun plain => ⟨plain.inhabited, plain.undotted, plain.named, plain.unnumbered⟩⟩

theorem IsPlainKey.itemIndex?_eq_none {key : String} (plain : IsPlainKey key) :
    itemIndex? key = none := by
  rw [← Option.not_isSome_iff_eq_none, isSome_itemIndex?_iff]
  exact plain.unnumbered

theorem IsPlainKey.head?_ne {key : String} (plain : IsPlainKey key) :
    key.toList.head? ≠ some '.' := fun dot => plain.undotted (List.mem_of_mem_head? dot)

mutual

/-- A plain key takes the members of that name, through arrays to any depth. -/
theorem IsPlainKey.step_eq {key : String} (plain : IsPlainKey key) (value : Json) :
    step key value = value.unfolded.flatMap fun found => (found.member? key).toList := by
  cases value with
  | object members =>
    have alone : (Json.object members).unfolded = [.object members] := rfl
    rw [step, if_neg plain.named, alone, List.flatMap_singleton, member?]
  | array items =>
    rw [step, if_neg plain.named, plain.itemIndex?_eq_none, unfolded]
    exact plain.stepItems_eq items
  | _ => rfl

theorem IsPlainKey.stepItems_eq {key : String} (plain : IsPlainKey key) (items : List Json) :
    stepItems key items =
      (unfoldedItems items).flatMap fun found => (found.member? key).toList := by
  cases items with
  | nil => rfl
  | cons item rest =>
    rw [stepItems, unfoldedItems, List.flatMap_append, plain.step_eq item,
      plain.stepItems_eq rest]

end

theorem follow_eq_reached {keys : List String} (plain : ∀ key ∈ keys, IsPlainKey key)
    (value : Json) : follow keys value = reached keys value := by
  induction keys generalizing value with
  | nil => rfl
  | cons key keys ih =>
    obtain ⟨first, rest⟩ := List.forall_mem_cons.mp plain
    rw [follow_cons, first.step_eq, List.flatMap_assoc, reached]
    exact List.flatMap_congr fun found _ => List.flatMap_congr fun next _ => ih rest next

/-- The characters that stand behind the first key of a path. -/
def behindFirst : List String → List Char
  | [] => []
  | keys => '.' :: (".".intercalate keys).toList

theorem toList_intercalate_cons (key : String) (keys : List String) :
    (".".intercalate (key :: keys)).toList = key.toList ++ behindFirst keys := by
  cases keys with
  | nil => rw [String.intercalate_singleton, behindFirst, List.append_nil]
  | cons next keys =>
    rw [String.intercalate_cons_cons, String.toList_append, String.toList_append,
      List.append_assoc]
    rfl

theorem pathSteps_of_text {path key : String} {keys : List String}
    (text : unmarked path.toList = (".".intercalate (key :: keys)).toList) (inhabited : key ≠ "")
    (undotted : ∀ k ∈ key :: keys, '.' ∉ k.toList) : pathSteps path = key :: keys := by
  have parts : (".".intercalate (key :: keys)).toList.splitOn '.' =
      (key :: keys).map String.toList := by
    rw [String.toList_intercalate]
    refine List.splitOn_intercalate '.' ?_ (List.map_cons ▸ List.cons_ne_nil _ _)
    intro part member
    obtain ⟨other, listed, rfl⟩ := List.mem_map.mp member
    exact undotted other listed
  rw [pathSteps_of_unmarked, text, parts, List.map_map]
  · simp [Function.comp_def]
  · rw [text, toList_intercalate_cons]
    exact List.append_ne_nil_of_left_ne_nil
      (fun empty => inhabited (String.toList_eq_nil_iff.mp empty)) _

/-- A path says the keys between its dots, the first one as it is without its mark. -/
theorem pathSteps_intercalate {first key : String} {keys : List String}
    (said : unmarked first.toList = key.toList) (inhabited : key ≠ "")
    (undotted : ∀ k ∈ key :: keys, '.' ∉ k.toList) :
    pathSteps (".".intercalate (first :: keys)) = key :: keys := by
  have chars : unmarked first.toList ≠ [] := by
    rw [said]
    exact fun empty => inhabited (String.toList_eq_nil_iff.mp empty)
  refine pathSteps_of_text ?_ inhabited undotted
  rw [toList_intercalate_cons, unmarked_append chars, said, toList_intercalate_cons]

/-- The mark alone says nothing, and nor does the dot behind it. -/
theorem pathSteps_intercalate_mark {keys : List String} (plain : ∀ key ∈ keys, IsPlainKey key) :
    pathSteps (".".intercalate ("$" :: keys)) = keys := by
  cases keys with
  | nil => exact pathSteps_of_unmarked_eq_nil (congrArg unmarked (toList_intercalate_cons "$" []))
  | cons key keys =>
    exact pathSteps_of_text (congrArg unmarked (toList_intercalate_cons "$" (key :: keys)))
      (plain key List.mem_cons_self).inhabited fun k listed => (plain k listed).undotted

/--
A path of plain keys hands out the raw values of all values that are reached by descending into
one member after the other, in document order and through arrays to any depth, unless the first
key begins with the mark of the record. The mark alone means the record. A longer key should name
its own member, but loses the mark as well, and the member of the shorter name is handed out.
-/
theorem plain_keys_address_members (value : Json) {key : String} {keys : List String}
    (plain : ∀ k ∈ key :: keys, IsPlainKey k) :
    let answer := (record value).evaluate (".".intercalate (key :: keys))
    (key.toList.head? ≠ some '$' → answer = .ok ((reached (key :: keys) value).map toRaw)) ∧
    (key = "$" → answer = .ok ((reached keys value).map toRaw)) ∧
    ∀ rest, key = "$" ++ rest → IsPlainKey rest →
      answer = .ok ((reached (rest :: keys) value).map toRaw) := by
  obtain ⟨first, later⟩ := List.forall_mem_cons.mp plain
  have answered {steps : List String} (all : ∀ k ∈ steps, IsPlainKey k)
      (said : pathSteps (".".intercalate (key :: keys)) = steps) :
      (record value).evaluate (".".intercalate (key :: keys)) =
        .ok ((reached steps value).map toRaw) := by
    have selected : select value (".".intercalate (key :: keys)) = reached steps value := by
      rw [select, said, ← follow_eq_reached all value, follow]
    exact congrArg (fun found => Except.ok (found.map toRaw)) selected
  have undotted {k : String} (alone : IsPlainKey k) : ∀ other ∈ k :: keys, '.' ∉ other.toList :=
    List.forall_mem_cons.mpr ⟨alone.undotted, fun other listed => (later other listed).undotted⟩
  refine ⟨fun unmarked => answered plain ?_, ?_, ?_⟩
  · refine pathSteps_intercalate (unmarked_of_head?_ne unmarked first.head?_ne) first.inhabited
      (undotted first)
  · rintro rfl
    exact answered later (pathSteps_intercalate_mark later)
  · rintro rest rfl shorter
    refine answered (List.forall_mem_cons.mpr ⟨shorter, later⟩) ?_
    refine pathSteps_intercalate ?_ shorter.inhabited (undotted shorter)
    rw [String.toList_append]
    exact dropLeading_of_head?_ne shorter.head?_ne

namespace Club

/-- Teams stand in lists of lists, and one of them has no members. -/
def value : Json := .object
  [("teams", .array [
    .object [("members", .array [.object [("$id", .text "a"), ("id", .whole 1)], .null])],
    .array [.array [.object [("members", .object [("$id", .array [.text "b", .null])])]],
      .object [("name", .text "none")]]]),
   ("$id", .text "marked"), ("$", .object [("id", .text "root")]), ("id", .text "plain")]

end Club

theorem club_keys_address_members :
    (∀ key ∈ ["teams", "members", "$id"], IsPlainKey key) ∧ "teams".toList.head? ≠ some '$' ∧
    (record Club.value).evaluate "teams.members.$id" =
      .ok [.text "a", .list [.text "b", .null]] ∧
    (∀ key ∈ ["$id"], IsPlainKey key) ∧ "$id" = "$" ++ "id" ∧ IsPlainKey "id" ∧
    (record Club.value).evaluate "$id" = .ok [.text "plain"] := by
  have plain : ∀ key ∈ ["teams", "members", "$id"], IsPlainKey key := by decide
  have unmarked : "teams".toList.head? ≠ some '$' := by decide
  obtain ⟨addressed, -, -⟩ := plain_keys_address_members Club.value plain
  have marked : ∀ key ∈ ["$id"], IsPlainKey key := by decide
  have shorter : IsPlainKey "id" := by decide
  obtain ⟨-, -, elsewhere⟩ := plain_keys_address_members Club.value marked
  exact ⟨plain, unmarked, addressed unmarked, marked, rfl, shorter, elsewhere "id" rfl shorter⟩

/-- The member that a path names is missed where its name begins with the mark. -/
theorem club_marked_keys_lead_elsewhere :
    (∀ key ∈ ["$id"], IsPlainKey key) ∧
    (reached ["$id"] Club.value).map toRaw = [.text "marked"] ∧
    (record Club.value).evaluate (".".intercalate ["$id"]) = .ok [.text "plain"] :=
  ⟨by decide, rfl, rfl⟩

theorem club_select_behind_dot :
    "0.members.$id" ≠ "" ∧ "0.members.$id".toList.head? ≠ some '$' ∧
    "0.members.$id".toList.head? ≠ some '.' ∧ ("$.teams.*" ≠ "." ∧ "$.teams.*" ≠ "$.") ∧
    (select Club.value "$.teams.*").length = 2 ∧
    select Club.value ("$.teams.*" ++ "." ++ "0.members.$id") =
      (select Club.value "$.teams.*").flatMap (select · "0.members.$id") ∧
    (select Club.value ("$.teams.*" ++ "." ++ "0.members.$id")).map compact = ["[\"b\",null]"] := by
  have inhabited : "0.members.$id" ≠ "" := by decide
  have root : "0.members.$id".toList.head? ≠ some '$' := by decide
  have dot : "0.members.$id".toList.head? ≠ some '.' := by decide
  have apart : "$.teams.*" ≠ "." ∧ "$.teams.*" ≠ "$." := by decide
  have parted := select_behind_dot Club.value inhabited root dot apart
  exact ⟨inhabited, root, dot, apart, by decide +kernel, parted, by decide +kernel⟩

end RdfMapping.Json
