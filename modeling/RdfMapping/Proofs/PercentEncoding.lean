import RdfMapping.Proofs.IriTexts

/-!
# Percent encoding

A value made safe for use inside an IRI consists of characters that may stand there and of
percent triples. Its triples decoded and read as UTF-8, it is the normalized value again,
and no character in it delimits parts of an IRI or is refused by one. Values that are
normalized part by part are made safe part by part. Nothing is used of normalization but
that it is a function.
-/

namespace RdfMapping.Iri

/--
The characters beyond ASCII that may stand in an IRI. The basic plane has them behind the
control characters, less surrogates, private use, noncharacters and specials; the planes from
1 to 14 have all but their last two and, in the last plane, the tags at its start.
-/
def IsUcschar (c : Char) : Prop :=
  0xA0 ≤ c.toNat ∧ c.toNat ≤ 0xD7FF ∨ 0xF900 ≤ c.toNat ∧ c.toNat ≤ 0xFDCF ∨
    0xFDF0 ≤ c.toNat ∧ c.toNat ≤ 0xFFEF ∨
    0x10000 ≤ c.toNat ∧ c.toNat < 0xF0000 ∧ c.toNat % 0x10000 ≤ 0xFFFD ∧
      ¬ (0xE0000 ≤ c.toNat ∧ c.toNat < 0xE1000)

def MayStand (c : Char) : Prop :=
  c.isAlphanum ∨ c ∈ ['-', '.', '_', '~'] ∨ IsUcschar c

def IsUpperHex (c : Char) : Prop := c.isDigit ∨ 'A' ≤ c ∧ c ≤ 'F'

/-- Characters that may stand and percent triples, in any order. -/
inductive PercentForm : List Char → Prop where
  | nil : PercentForm []
  | kept {c : Char} {rest : List Char} (stands : MayStand c) (later : PercentForm rest) :
      PercentForm (c :: rest)
  | triple {high low : Char} {rest : List Char} (upper : IsUpperHex high) (lower : IsUpperHex low)
      (later : PercentForm rest) : PercentForm ('%' :: high :: low :: rest)

/-- The characters that delimit parts of an IRI (`reserved` of RFC 3986). -/
def reserved : List Char :=
  [':', '/', '?', '#', '[', ']', '@', '!', '$', '&', '\x27', '(', ')', '*', '+', ',', ';', '=']

/-- The ranges are those of the planes. -/
theorem isUcschar_iff {c : Char} : isUcschar c ↔ IsUcschar c := by
  simp only [isUcschar, Unicode.inRanges, ucscharRanges, List.any_cons, List.any_nil,
    Bool.or_eq_true, Bool.and_eq_true, decide_eq_true_eq, Bool.or_false, IsUcschar]
  omega

theorem mayStand_of_isKept {c : Char} (kept : isKept c) : MayStand c := by
  simp only [isKept, isUnreserved, Bool.or_eq_true, decide_eq_true_eq] at kept
  rcases kept with ((((alphanum | rfl) | rfl) | rfl) | rfl) | ucschar
  · exact .inl alphanum
  · exact .inr (.inl (by decide))
  · exact .inr (.inl (by decide))
  · exact .inr (.inl (by decide))
  · exact .inr (.inl (by decide))
  · exact .inr (.inr (isUcschar_iff.mp ucschar))

theorem isUpperHex_upperHexDigit {n : Nat} (digit : n < 16) : IsUpperHex (upperHexDigit n) := by
  unfold IsUpperHex
  revert n
  decide

/-- Encoding a character goes before text of the form. -/
theorem percentForm_encodeChar (c : Char) {rest : List Char} (later : PercentForm rest) :
    PercentForm (encodeChar c ++ rest) := by
  unfold encodeChar
  split
  · rename_i kept
    exact .kept (mayStand_of_isKept kept) later
  · induction String.utf8EncodeChar c with
    | nil => exact later
    | cons b bytes ih =>
      have bound : b.toNat < 256 := b.toNat_lt
      rw [List.flatMap_cons, List.append_assoc]
      exact .triple (isUpperHex_upperHexDigit (by omega)) (isUpperHex_upperHexDigit (by omega)) ih

theorem percentForm_encodeChars (cs : List Char) : PercentForm (encodeChars cs) := by
  induction cs with
  | nil => exact .nil
  | cons c cs ih => exact percentForm_encodeChar c ih

/-- No encoded character delimits parts of an IRI. -/
theorem not_mem_reserved_of_isEncoded {c : Char} (encoded : isEncoded c) : c ∉ reserved := by
  intro listed
  have apart : reserved.all fun d => isEncoded d = false := by decide
  have outside := List.all_eq_true.mp apart c listed
  rw [of_decide_eq_true outside] at encoded
  cases encoded

theorem toList_safe (value : String) :
    (safe value).toList = encodeChars (Unicode.nfc value).toList := by
  rw [safe, Unicode.nfc, String.toList_ofList, String.toList_ofList]

theorem fromUTF8?_toByteArray (s : String) : String.fromUTF8? s.toByteArray = some s := by
  unfold String.fromUTF8?
  rw [dif_pos s.isValidUTF8]
  rfl

/-- The bytes that encoded text decodes to are the normalized value in UTF-8. -/
theorem percentDecode_safe (value : String) :
    (percentDecode (safe value).toList).toByteArray = (Unicode.nfc value).toByteArray := by
  rw [toList_safe, percentDecode_encodeChars]
  change (Unicode.nfc value).toList.utf8Encode = _
  rw [← String.toByteArray_ofList, String.ofList_toList]

theorem safe_append {a b : String}
    (apart : Unicode.nfc (a ++ b) = Unicode.nfc a ++ Unicode.nfc b) :
    safe (a ++ b) = safe a ++ safe b := by
  have chars : (safe (a ++ b)).toList = (safe a ++ safe b).toList := by
    rw [String.toList_append, toList_safe, toList_safe, toList_safe, apart, String.toList_append,
      encodeChars, List.flatMap_append]
    rfl
  exact String.toList_inj.mp chars

/--
Values are made safe in a form whose percent triples decode to the normalized value, without
characters that mean something in an IRI or cannot stand in one. So two values are made safe
alike just when they are normalized alike, and one behind the other if they are normalized that
way.
-/
theorem safe_decodes_to_nfc (a : String) :
    PercentForm (safe a).toList ∧
    String.fromUTF8? (percentDecode (safe a).toList).toByteArray = some (Unicode.nfc a) ∧
    (∀ c ∈ (safe a).toList, c ∉ reserved ∧ isForbidden c = false) ∧
    ∀ b, (safe a = safe b ↔ Unicode.nfc a = Unicode.nfc b) ∧
      (Unicode.nfc (a ++ b) = Unicode.nfc a ++ Unicode.nfc b →
        safe (a ++ b) = safe a ++ safe b) := by
  refine ⟨?_, ?_, ?_, fun b => ⟨safe_eq_safe_iff a b, safe_append⟩⟩
  · rw [toList_safe]
    exact percentForm_encodeChars _
  · rw [percentDecode_safe]
    exact fromUTF8?_toByteArray _
  · intro c member
    have encoded := isEncoded_of_mem_safe member
    exact ⟨not_mem_reserved_of_isEncoded encoded, isForbidden_eq_false_of_isEncoded encoded⟩

theorem house_decodes_to_nfc :
    Unicode.nfc ("Zürich/7" ++ "% §") = Unicode.nfc "Zürich/7" ++ Unicode.nfc "% §" ∧
    safe ("Zürich/7" ++ "% §") = safe "Zürich/7" ++ safe "% §" ∧
    safe "Zürich/7" = "Zürich%2F7" := by
  have apart : Unicode.nfc ("Zürich/7" ++ "% §") = Unicode.nfc "Zürich/7" ++ Unicode.nfc "% §" := by
    decide +kernel
  have joined := ((safe_decodes_to_nfc "Zürich/7").2.2.2 "% §").2 apart
  exact ⟨apart, joined, by decide +kernel⟩

end RdfMapping.Iri
