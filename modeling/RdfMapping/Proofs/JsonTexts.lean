import RdfMapping.Json.Reader
import RdfMapping.Json.Writer

/-!
# Reading what was written

The compact text of a value without numbers is read as the outline of that value, if the
value is not nested too deep: the text is cut into the tokens of the value, and these put
the outline together.
-/

namespace RdfMapping.Json

/-- Without numbers, and with arrays and objects nested up to so many levels. -/
inductive IsPlain : Nat → Json → Prop where
  | null (depth : Nat) : IsPlain depth .null
  | bool (depth : Nat) (b : Bool) : IsPlain depth (.bool b)
  | text (depth : Nat) (s : String) : IsPlain depth (.text s)
  | array {depth : Nat} {items : List Json} (each : ∀ item ∈ items, IsPlain depth item) :
    IsPlain (depth + 1) (.array items)
  | object {depth : Nat} {members : List (String × Json)}
    (each : ∀ m ∈ members, IsPlain depth m.2) : IsPlain (depth + 1) (.object members)

mutual

/-- The tokens of the text of a value. -/
def tokens : Json → List Token
  | .text s => [.text (some s)]
  | .array items => .openArray :: ([.comma].intercalate (itemTokens items) ++ [.closeArray])
  | .object members =>
    .openObject :: ([.comma].intercalate (memberTokens members) ++ [.closeObject])
  | scalar => [.scalar scalar.outline]

def itemTokens : List Json → List (List Token)
  | [] => []
  | item :: rest => item.tokens :: itemTokens rest

def memberTokens : List (String × Json) → List (List Token)
  | [] => []
  | (key, value) :: rest => (.text (some key) :: .colon :: value.tokens) :: memberTokens rest

end

section

variable {items : List Json} {members : List (String × Json)}

theorem itemTokens_eq_map : itemTokens items = items.map tokens := by
  induction items with
  | nil => rfl
  | cons item rest ih => rw [itemTokens, ih, List.map_cons]

theorem memberTokens_eq_map :
    memberTokens members = members.map fun m => .text (some m.1) :: .colon :: m.2.tokens := by
  induction members with
  | nil => rfl
  | cons m rest ih => rw [memberTokens, ih, List.map_cons]

theorem compactItems_eq_map : compactItems items = items.map compact := by
  induction items with
  | nil => rfl
  | cons item rest ih => rw [compactItems, ih, List.map_cons]

theorem compactMembers_eq_map :
    compactMembers members = members.map fun m => quote m.1 ++ ":" ++ m.2.compact := by
  induction members with
  | nil => rfl
  | cons m rest ih => rw [compactMembers, ih, List.map_cons]

theorem outlineItems_eq_map : outlineItems items = items.map outline := by
  induction items with
  | nil => rfl
  | cons item rest ih => rw [outlineItems, ih, List.map_cons]

theorem outlineMembers_eq_map :
    outlineMembers members = members.map fun m => (m.1, m.2.outline) := by
  induction members with
  | nil => rfl
  | cons m rest ih => rw [outlineMembers, ih, List.map_cons]

end

theorem hexValue?_digitChar : ∀ n < 16, hexValue? (Nat.digitChar n) = some n := by decide

theorem lowerHex_control :
    ∀ n < 32, lowerHex n = ['0', '0', Nat.digitChar (n / 16), Nat.digitChar (n % 16)] := by decide

/-- Whole characters are no halves of a pair. -/
theorem isHalf_toNat (c : Char) : isFirstHalf c.toNat = false ∧ isSecondHalf c.toNat = false := by
  have valid : c.toNat.isValidChar := c.valid
  simp only [Nat.isValidChar] at valid
  simp only [isFirstHalf, isSecondHalf, Bool.and_eq_false_iff, decide_eq_false_iff_not]
  omega

theorem joinUnits_map_toNat (joined chars : List Char) :
    joinUnits joined (chars.map Char.toNat) = some (chars.reverse ++ joined) := by
  induction chars generalizing joined with
  | nil => rfl
  | cons c rest ih =>
    obtain ⟨first, second⟩ := isHalf_toNat c
    cases rest with
    | nil => simp [joinUnits, first, second]
    | cons d rest =>
      rw [List.map_cons, List.map_cons, joinUnits, first, second]
      have joinedRest := ih (c :: joined)
      rw [List.map_cons] at joinedRest
      simp [joinedRest]

theorem scanTokens_cons {scan next : Scan} {c : Char} {tokens : List Token}
    (step : scan.step c = some (tokens, next)) (found : List Token) (rest : List Char) :
    scanTokens scan found (c :: rest) = scanTokens next (tokens.reverse ++ found) rest := by
  rw [scanTokens, step]

theorem scanTokens_within {scan next : Scan} {c : Char} (step : scan.step c = some ([], next))
    (found : List Token) (rest : List Char) :
    scanTokens scan found (c :: rest) = scanTokens next found rest :=
  scanTokens_cons step found rest

theorem scanTokens_simpleEscape {letter c : Char} (named : simpleEscape? letter = some c)
    (done : List Nat) (found : List Token) (rest : List Char) :
    scanTokens (.text done) found ('\\' :: letter :: rest)
      = scanTokens (.text (c.toNat :: done)) found rest := by
  have notUnit : letter ≠ 'u' := by
    rintro rfl
    have unknown : simpleEscape? 'u' = none := rfl
    rw [unknown] at named
    cases named
  have opened : (Scan.text done).step '\\' = some ([], .escape done) := rfl
  have closed : (Scan.escape done).step letter = some ([], .text (c.toNat :: done)) := by
    simp [Scan.step, notUnit, named]
  rw [scanTokens_within opened, scanTokens_within closed]

theorem scanTokens_unitEscape {n : Nat} (control : n < 32) (done : List Nat)
    (found : List Token) (rest : List Char) :
    scanTokens (.text done) found ('\\' :: 'u' :: (lowerHex n ++ rest))
      = scanTokens (.text (n :: done)) found rest := by
  have high := hexValue?_digitChar (n / 16) (by omega)
  have low := hexValue?_digitChar (n % 16) (by omega)
  have opened : (Scan.text done).step '\\' = some ([], .escape done) := rfl
  have unit : (Scan.escape done).step 'u' = some ([], .unit done 0 4) := rfl
  have first : (Scan.unit done 0 4).step '0' = some ([], .unit done 0 3) := rfl
  have second : (Scan.unit done 0 3).step '0' = some ([], .unit done 0 2) := rfl
  have third : (Scan.unit done 0 2).step (Nat.digitChar (n / 16))
      = some ([], .unit done (n / 16) 1) := by
    simp [Scan.step, high]
  have fourth : (Scan.unit done (n / 16) 1).step (Nat.digitChar (n % 16))
      = some ([], .text (n :: done)) := by
    have digits : n / 16 * 16 + n % 16 = n := by omega
    simp [Scan.step, low, digits]
  rw [lowerHex_control n control, scanTokens_within opened, scanTokens_within unit]
  simp only [List.cons_append, List.nil_append]
  rw [scanTokens_within first, scanTokens_within second, scanTokens_within third,
    scanTokens_within fourth]

/-- However a character is written, it is read as itself. -/
theorem scanTokens_escapeChar (c : Char) (done : List Nat) (found : List Token)
    (rest : List Char) :
    scanTokens (.text done) found (escapeChar c ++ rest)
      = scanTokens (.text (c.toNat :: done)) found rest := by
  rw [escapeChar]
  split
  · subst_vars; exact scanTokens_simpleEscape rfl done found rest
  split
  · subst_vars; exact scanTokens_simpleEscape rfl done found rest
  split
  · subst_vars; exact scanTokens_simpleEscape rfl done found rest
  split
  · subst_vars; exact scanTokens_simpleEscape rfl done found rest
  split
  · subst_vars; exact scanTokens_simpleEscape rfl done found rest
  split
  · subst_vars; exact scanTokens_simpleEscape rfl done found rest
  split
  · subst_vars; exact scanTokens_simpleEscape rfl done found rest
  split
  · rename_i control
    exact scanTokens_unitEscape control done found rest
  · rename_i quoteMark backslash _ _ _ _ _ control
    have kept : (Scan.text done).step c = some ([], .text (c.toNat :: done)) := by
      rw [Scan.step, if_neg quoteMark, if_neg backslash, if_neg control]
    exact scanTokens_within kept found rest

theorem scanTokens_chars (chars : List Char) (done : List Nat) (found : List Token)
    (rest : List Char) :
    scanTokens (.text done) found (chars.flatMap escapeChar ++ rest)
      = scanTokens (.text ((chars.map Char.toNat).reverse ++ done)) found rest := by
  induction chars generalizing done with
  | nil => rfl
  | cons c chars ih =>
    rw [List.flatMap_cons, List.append_assoc, scanTokens_escapeChar, ih, List.map_cons,
      List.reverse_cons, List.append_assoc, List.singleton_append]

/-- Nothing follows that a word could go on with. -/
def EndsWord (rest : List Char) : Prop := ∀ c ∈ rest.head?, c.isLower = false

theorem EndsWord.cons {c : Char} {rest : List Char} (ends : c.isLower = false) :
    EndsWord (c :: rest) := by
  intro d head
  cases head
  exact ends

theorem scanTokens_word {chars : List Char} (lower : ∀ c ∈ chars, c.isLower = true)
    (done : List Char) (found : List Token) (rest : List Char) :
    scanTokens (.word done) found (chars ++ rest)
      = scanTokens (.word (chars.reverse ++ done)) found rest := by
  induction chars generalizing done with
  | nil => rfl
  | cons c chars ih =>
    obtain ⟨first, later⟩ := List.forall_mem_cons.mp lower
    have step : (Scan.word done).step c = some ([], .word (c :: done)) := by
      rw [Scan.step, if_pos first]
    rw [List.cons_append, scanTokens_within step, ih later, List.reverse_cons,
      List.append_assoc, List.singleton_append]

theorem scanTokens_wordEnd {done : List Char} {value : Outline}
    (named : word? done.reverse = some value) (found : List Token) {rest : List Char}
    (ends : EndsWord rest) :
    scanTokens (.word done) found rest = scanTokens .between (.scalar value :: found) rest := by
  have finished : (Scan.word done).finish? = some [.scalar value] := by
    rw [Scan.finish?, named, Option.map_some]
  cases rest with
  | nil =>
    have between : Scan.between.finish? = some [] := rfl
    simp [scanTokens, finished, between]
  | cons c rest =>
    have bounded : c.isLower = false := ends c rfl
    simp only [scanTokens, Scan.step, bounded, finished]
    cases startToken c with
    | none => rfl
    | some started => simp

/-- The text is cut into these tokens. -/
def Scans (text : List Char) (tokens : List Token) : Prop :=
  ∀ found rest, EndsWord rest → scanTokens .between found (text ++ rest)
    = scanTokens .between (tokens.reverse ++ found) rest

namespace Scans

theorem nil : Scans [] [] := fun _ _ _ => rfl

theorem cons {c : Char} {token : Token} {text : List Char} {tokens : List Token}
    (mark : startToken c = some ([token], .between)) (scans : Scans text tokens) :
    Scans (c :: text) (token :: tokens) := by
  intro found rest ends
  have step : Scan.between.step c = some ([token], .between) := mark
  rw [List.cons_append, scanTokens_cons step, scans _ _ ends]
  simp

theorem append {text more : List Char} {tokens after : List Token} (first : Scans text tokens)
    (ends : EndsWord more) (second : Scans more after) :
    Scans (text ++ more) (tokens ++ after) := by
  intro found rest endsRest
  have bounded : EndsWord (more ++ rest) := by
    cases more with
    | nil => exact endsRest
    | cons c more => exact ends
  rw [List.append_assoc, first _ _ bounded, second _ _ endsRest, List.reverse_append,
    List.append_assoc]

theorem intercalate {α : Type} {text : α → List Char} {tokens : α → List Token} {parts : List α}
    (each : ∀ part ∈ parts, Scans (text part) (tokens part)) :
    Scans ([','].intercalate (parts.map text)) ([.comma].intercalate (parts.map tokens)) := by
  induction parts with
  | nil => exact nil
  | cons part rest ih =>
    obtain ⟨first, later⟩ := List.forall_mem_cons.mp each
    cases rest with
    | nil => simpa using first
    | cons next rest =>
      simp only [List.map_cons, List.intercalate_cons_cons, List.append_assoc,
        List.singleton_append]
      exact first.append (.cons rfl) (cons rfl (ih later))

theorem quote (s : String) : Scans (quote s).toList [.text (some s)] := by
  intro found rest _
  have opened : Scan.between.step '"' = some ([], .text []) := rfl
  have closed (done : List Nat) : (Scan.text done).step '"'
      = some ([.text ((joinUnits [] done).map String.ofList)], .between) := rfl
  have written : (Json.quote s).toList ++ rest
      = '"' :: (s.toList.flatMap escapeChar ++ '"' :: rest) := by
    simp [Json.quote]
  rw [written, scanTokens_within opened, scanTokens_chars, scanTokens_cons (closed _),
    List.append_nil, ← List.map_reverse, joinUnits_map_toNat, List.reverse_reverse,
    List.append_nil, Option.map_some, String.ofList_toList]

theorem word {c : Char} {chars : List Char} {value : Outline}
    (starts : startToken c = some ([], .word [c])) (lower : chars.all Char.isLower = true)
    (named : word? (c :: chars) = some value) : Scans (c :: chars) [.scalar value] := by
  intro found rest ends
  have opened : Scan.between.step c = some ([], .word [c]) := starts
  have whole : word? (chars.reverse ++ [c]).reverse = some value := by simpa using named
  rw [List.cons_append, scanTokens_within opened, scanTokens_word (List.all_eq_true.mp lower),
    scanTokens_wordEnd whole found ends, List.reverse_singleton, List.singleton_append]

end Scans

theorem IsPlain.scans {depth : Nat} {v : Json} (plain : IsPlain depth v) :
    Scans v.compact.toList v.tokens := by
  induction plain with
  | null => exact .word rfl rfl rfl
  | bool _ b => cases b <;> exact .word rfl rfl rfl
  | text _ s => exact .quote s
  | @array _ items _ ih =>
    have inner := Scans.intercalate ih
    rw [compact, tokens, compactItems_eq_map, itemTokens_eq_map]
    have written : ("[" ++ ",".intercalate (items.map compact) ++ "]").toList
        = '[' :: ([','].intercalate (items.map (String.toList ∘ compact)) ++ [']']) := by
      simp [String.toList_intercalate]
    rw [written]
    exact .cons rfl (inner.append (.cons rfl) (.cons rfl .nil))
  | @object _ members _ ih =>
    rw [compact, tokens, compactMembers_eq_map, memberTokens_eq_map]
    have written : ("\x7b" ++ ",".intercalate
          (members.map fun m => Json.quote m.1 ++ ":" ++ m.2.compact) ++ "\x7d").toList
        = '\x7b' :: ([','].intercalate (members.map fun m =>
            (Json.quote m.1).toList ++ ':' :: m.2.compact.toList) ++ ['\x7d']) := by
      simp [String.toList_intercalate, Function.comp_def]
    have each : ∀ m ∈ members, Scans ((Json.quote m.1).toList ++ ':' :: m.2.compact.toList)
        (.text (some m.1) :: .colon :: m.2.tokens) := fun m listed =>
      (Scans.quote m.1).append (.cons rfl) (.cons rfl (ih m listed))
    have inner := Scans.intercalate each
    rw [written]
    exact .cons rfl (inner.append (.cons rfl) (.cons rfl .nil))

/-- Where a value is expected, the tokens put this one together. -/
def Assembles (tokens : List Token) (value : Outline) : Prop :=
  ∀ frames expect rest, expect = .value ∨ expect = .firstItem →
    Assembly.run ⟨frames, expect, [], none⟩ (tokens ++ rest)
      = (Assembly.accept value frames).run rest

theorem run_cons {a next : Assembly} {token : Token} (step : a.step token = some next)
    (rest : List Token) : a.run (token :: rest) = next.run rest := by
  rw [Assembly.run, step]

section

variable {frames : List Frame} {expect : Expect} {α : Type} {tokens : α → List Token}
  {value : α → Outline} {parts : List α}

theorem run_items {part : α} (each : ∀ p ∈ part :: parts, Assembles (tokens p) (value p))
    (expects : expect = .value ∨ expect = .firstItem) (done : List Outline) (rest : List Token) :
    Assembly.run ⟨.array done :: frames, expect, [], none⟩
        ([.comma].intercalate ((part :: parts).map tokens) ++ .closeArray :: rest)
      = (Assembly.accept (.array (done.reverse ++ (part :: parts).map value)) frames).run rest := by
  induction parts generalizing part done expect with
  | nil =>
    have closes : (Assembly.accept (value part) (.array done :: frames)).step .closeArray
        = some (.accept (.array (value part :: done).reverse) frames) := rfl
    rw [List.map_singleton, List.intercalate_singleton,
      each part List.mem_cons_self _ _ _ expects, run_cons closes]
    simp
  | cons next parts ih =>
    obtain ⟨first, later⟩ := List.forall_mem_cons.mp each
    have goes : (Assembly.accept (value part) (.array done :: frames)).step .comma
        = some ⟨.array (value part :: done) :: frames, .value, [], none⟩ := rfl
    have remaining := ih later (.inl rfl) (value part :: done)
    simp only [List.map_cons, List.intercalate_cons_cons, List.append_assoc] at remaining ⊢
    rw [first _ _ _ expects, List.singleton_append, run_cons goes, remaining]
    simp

/-- The tokens of a member take its key and value into the object. -/
theorem run_member {key : String} {tokens : List Token} {value : Outline}
    (assembles : Assembles tokens value) {done : OpenMembers}
    (expects : expect = .key ∨ expect = .firstKey ∧ done = []) (rest : List Token) :
    Assembly.run ⟨frames, expect, done, none⟩ (.text (some key) :: .colon :: tokens ++ rest)
      = Assembly.run ⟨.object ((some key, value) :: done) (some key) :: frames, .separator, [], none⟩
          rest := by
  have names : (⟨frames, expect, done, none⟩ : Assembly).step (.text (some key))
      = some ⟨frames, .colon (some key), done, none⟩ := by
    rcases expects with rfl | ⟨rfl, rfl⟩
    · rfl
    · rfl
  have colon : (⟨frames, .colon (some key), done, none⟩ : Assembly).step .colon
      = some ⟨.object done (some key) :: frames, .value, [], none⟩ := rfl
  rw [List.cons_append, List.cons_append, run_cons names, run_cons colon,
    assembles _ _ _ (.inl rfl)]
  rfl

theorem run_members {key : α → String} {part : α}
    (each : ∀ p ∈ part :: parts, Assembles (tokens p) (value p)) (done : OpenMembers)
    (expects : expect = .key ∨ expect = .firstKey ∧ done = []) (rest : List Token) :
    Assembly.run ⟨frames, expect, done, none⟩
        ([.comma].intercalate ((part :: parts).map fun p => .text (some (key p)) :: .colon :: tokens p)
          ++ .closeObject :: rest)
      = (Assembly.accept (objectOf
          (((part :: parts).map fun p => (some (key p), value p)).reverse ++ done)) frames).run
        rest := by
  induction parts generalizing part done expect with
  | nil =>
    rw [List.map_singleton, List.intercalate_singleton,
      run_member (each part List.mem_cons_self) expects]
    exact run_cons rfl rest
  | cons next parts ih =>
    obtain ⟨first, later⟩ := List.forall_mem_cons.mp each
    have goes : (⟨.object ((some (key part), value part) :: done) (some (key part)) :: frames,
        .separator, [], none⟩ : Assembly).step .comma
        = some ⟨frames, .key, (some (key part), value part) :: done, none⟩ := rfl
    have remaining := ih later ((some (key part), value part) :: done) (.inl rfl)
    simp only [List.map_cons, List.intercalate_cons_cons] at remaining ⊢
    rw [List.append_assoc, List.append_assoc, run_member first expects, List.singleton_append,
      run_cons goes, remaining]
    simp

theorem objectOf_reverse (key : α → String) :
    objectOf (parts.map fun p => (some (key p), value p)).reverse
      = .object (parts.map fun p => (key p, value p)) := by
  have keys : (parts.map fun p => (some (key p), value p)).mapM
      (fun m : Option String × Outline => m.1.map (·, m.2))
        = some (parts.map fun p => (key p, value p)) := by
    induction parts with
    | nil => rfl
    | cons part parts ih => simp [ih]
  rw [objectOf, List.reverse_reverse, keys]

end

theorem assembles_array {items : List Json}
    (each : ∀ item ∈ items, Assembles item.tokens item.outline) :
    Assembles (Json.array items).tokens (Json.array items).outline := by
  intro frames expect rest expects
  have opens : (⟨frames, expect, [], none⟩ : Assembly).step .openArray
      = some ⟨.array [] :: frames, .firstItem, [], none⟩ := by
    rcases expects with rfl | rfl
    · rfl
    · rfl
  rw [tokens, outline, itemTokens_eq_map, outlineItems_eq_map, List.cons_append, run_cons opens,
    List.append_assoc, List.singleton_append]
  cases items with
  | nil => exact run_cons rfl rest
  | cons item items => exact run_items each (.inr rfl) [] rest

theorem assembles_object {members : List (String × Json)}
    (each : ∀ m ∈ members, Assembles m.2.tokens m.2.outline) :
    Assembles (Json.object members).tokens (Json.object members).outline := by
  intro frames expect rest expects
  have opens : (⟨frames, expect, [], none⟩ : Assembly).step .openObject
      = some ⟨frames, .firstKey, [], none⟩ := by
    rcases expects with rfl | rfl
    · rfl
    · rfl
  rw [tokens, outline, memberTokens_eq_map, outlineMembers_eq_map, List.cons_append,
    run_cons opens, List.append_assoc, List.singleton_append]
  cases members with
  | nil => exact run_cons rfl rest
  | cons m members =>
    rw [run_members each [] (.inr ⟨rfl, rfl⟩) rest, List.append_nil, objectOf_reverse]

theorem IsPlain.assembles {depth : Nat} {v : Json} (plain : IsPlain depth v) :
    Assembles v.tokens v.outline := by
  induction plain with
  | null | bool | text =>
    rintro frames _ rest (rfl | rfl)
    · exact run_cons rfl rest
    · exact run_cons rfl rest
  | array _ ih => exact assembles_array ih
  | object _ ih => exact assembles_object ih

theorem IsPlain.limitDepth {depth : Nat} {v : Json} (plain : IsPlain depth v) :
    v.outline.limitDepth depth = v.outline := by
  induction plain with
  | null depth | bool depth | text depth => cases depth <;> rfl
  | array _ ih =>
    rw [outline, outlineItems_eq_map, Outline.limitDepth, List.map_map]
    exact congrArg Outline.array (List.map_congr_left ih)
  | object _ ih =>
    rw [outline, outlineMembers_eq_map, Outline.limitDepth, List.map_map]
    refine congrArg Outline.object (List.map_congr_left fun m listed => ?_)
    rw [Function.comp_apply, ih m listed]

/-- The compact text of a plain value is read as its outline. -/
theorem outline?_compact {v : Json} (plain : IsPlain maxDepth v) :
    outline? v.compact = some v.outline := by
  have ends : EndsWord [] := fun c head => by cases head
  have cut : tokens? v.compact = some v.tokens := by
    have whole := plain.scans [] [] ends
    rw [List.append_nil, List.append_nil] at whole
    rw [tokens?, whole]
    simp [scanTokens, Scan.finish?]
  have built : Assembly.start.run v.tokens = some (.accept v.outline []) := by
    have whole := plain.assembles [] .value [] (.inl rfl)
    rwa [List.append_nil] at whole
  have result : (Assembly.accept v.outline []).result = some v.outline := rfl
  simp only [outline?, cut, built, result, Option.bind_eq_bind, Option.bind_some,
    Option.map_some, plain.limitDepth]

end RdfMapping.Json
