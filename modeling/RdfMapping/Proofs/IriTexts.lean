import RdfMapping.Iri

/-!
# Texts of IRIs

Encoded text holds only characters that may stand in an IRI anywhere, and the
percent sign. Decoding its percent triples gives the bytes of what was encoded, so
two values are made safe alike just when they are the same after normalization.
Nothing is used of normalization but that it is a function. What follows an
absolute text leaves it absolute.
-/

namespace RdfMapping.Iri

/-- The characters that encoding lets stand. -/
def isKept (c : Char) : Bool := isUnreserved c || isUcschar c

/-- The characters of encoded text. -/
def isEncoded (c : Char) : Bool := isKept c || c = '%'

/-- The bytes of a text in which each percent sign starts a triple. -/
def percentDecode : List Char → List UInt8
  | '%' :: high :: low :: rest =>
    UInt8.ofNat (Unicode.hexDigitValue high * 16 + Unicode.hexDigitValue low) :: percentDecode rest
  | c :: rest => String.utf8EncodeChar c ++ percentDecode rest
  | [] => []

theorem isKept_percent : isKept '%' = false := by decide

theorem percentDecode_cons {c : Char} (kept : isKept c) (rest : List Char) :
    percentDecode (c :: rest) = String.utf8EncodeChar c ++ percentDecode rest := by
  rw [percentDecode]
  rintro high low tail rfl
  rw [isKept_percent] at kept
  cases kept

theorem hexDigitValue_upperHexDigit {n : Nat} (digit : n < 16) :
    Unicode.hexDigitValue (upperHexDigit n) = n := by
  revert n
  decide

theorem isKept_upperHexDigit {n : Nat} (digit : n < 16) : isKept (upperHexDigit n) := by
  revert n
  decide

theorem percentDecode_percentByte (b : UInt8) (rest : List Char) :
    percentDecode (percentByte b ++ rest) = b :: percentDecode rest := by
  have bound : b.toNat < 256 := b.toNat_lt
  have whole : b.toNat / 16 * 16 + b.toNat % 16 = b.toNat := by omega
  simp only [percentByte, List.cons_append, List.nil_append, percentDecode]
  rw [hexDigitValue_upperHexDigit (by omega), hexDigitValue_upperHexDigit (by omega), whole,
    UInt8.ofNat_toNat]

theorem percentDecode_bytes (bytes : List UInt8) (rest : List Char) :
    percentDecode (bytes.flatMap percentByte ++ rest) = bytes ++ percentDecode rest := by
  induction bytes with
  | nil => rfl
  | cons b bytes ih =>
    rw [List.flatMap_cons, List.append_assoc, percentDecode_percentByte, ih, List.cons_append]

theorem percentDecode_encodeChar (c : Char) (rest : List Char) :
    percentDecode (encodeChar c ++ rest) = String.utf8EncodeChar c ++ percentDecode rest := by
  unfold encodeChar
  split
  · rename_i kept
    exact percentDecode_cons kept rest
  · exact percentDecode_bytes _ rest

/-- Decoding gives the bytes of the text that was encoded. -/
theorem percentDecode_encodeChars (cs : List Char) :
    percentDecode (encodeChars cs) = cs.flatMap String.utf8EncodeChar := by
  induction cs with
  | nil => rfl
  | cons c cs ih => rw [encodeChars, List.flatMap_cons, percentDecode_encodeChar, ← encodeChars, ih,
      List.flatMap_cons]

theorem utf8_injective {cs ds : List Char}
    (same : cs.flatMap String.utf8EncodeChar = ds.flatMap String.utf8EncodeChar) : cs = ds := by
  have bytes : cs.utf8Encode = ds.utf8Encode := congrArg List.toByteArray same
  have texts : String.ofList cs = String.ofList ds := String.toByteArray_inj.mp bytes
  rw [← String.toList_ofList (l := cs), texts, String.toList_ofList]

theorem encodeChars_injective {cs ds : List Char} (same : encodeChars cs = encodeChars ds) :
    cs = ds := by
  have decoded := congrArg percentDecode same
  rw [percentDecode_encodeChars, percentDecode_encodeChars] at decoded
  exact utf8_injective decoded

/-- Values are made safe alike just when they are the same after normalization. -/
theorem safe_eq_safe_iff (a b : String) : safe a = safe b ↔ Unicode.nfc a = Unicode.nfc b := by
  constructor
  · intro same
    exact congrArg String.ofList (encodeChars_injective (String.ofList_injective same))
  · intro same
    have chars : Unicode.nfcChars a.toList = Unicode.nfcChars b.toList :=
      String.ofList_injective same
    rw [safe, safe, chars]

theorem isEncoded_of_mem_percentByte {b : UInt8} {c : Char} (member : c ∈ percentByte b) :
    isEncoded c := by
  have bound : b.toNat < 256 := b.toNat_lt
  have digit {n : Nat} (small : n < 16) : isEncoded (upperHexDigit n) := by
    rw [isEncoded, isKept_upperHexDigit small, Bool.true_or]
  simp only [percentByte, List.mem_cons, List.not_mem_nil, or_false] at member
  rcases member with rfl | rfl | rfl
  · rfl
  · exact digit (by omega)
  · exact digit (by omega)

theorem isEncoded_of_mem_encodeChar {c d : Char} (member : d ∈ encodeChar c) : isEncoded d := by
  unfold encodeChar at member
  split at member
  · rename_i kept
    rw [List.mem_singleton.mp member, isEncoded, isKept, kept, Bool.true_or]
  · obtain ⟨b, -, inside⟩ := List.mem_flatMap.mp member
    exact isEncoded_of_mem_percentByte inside

theorem isEncoded_of_mem_safe {value : String} {c : Char} (member : c ∈ (safe value).toList) :
    isEncoded c := by
  rw [safe, String.toList_ofList] at member
  obtain ⟨d, -, inside⟩ := List.mem_flatMap.mp member
  exact isEncoded_of_mem_encodeChar inside

theorem isAlphanum_bounds {c : Char} (alphanum : c.isAlphanum) :
    0x20 ≤ c.toNat ∧ c.toNat < 0x7F := by
  have ranges : (c.val ≥ 'A'.val ∧ c.val ≤ 'Z'.val || (c.val ≥ 'a'.val && c.val ≤ 'z'.val) ||
      (c.val ≥ '0'.val && c.val ≤ '9'.val)) = true := alphanum
  simp only [Bool.or_eq_true, Bool.and_eq_true, decide_eq_true_eq, ge_iff_le,
    UInt32.le_iff_toNat_le] at ranges
  have code : c.toNat = c.val.toNat := rfl
  have ends : 'A'.val.toNat = 65 ∧ 'Z'.val.toNat = 90 ∧ 'a'.val.toNat = 97 ∧ 'z'.val.toNat = 122 ∧
      '0'.val.toNat = 48 ∧ '9'.val.toNat = 57 := by decide
  omega

theorem isUcschar_bound {c : Char} (ucschar : isUcschar c) : 0xA0 ≤ c.toNat := by
  have bounds : ∀ r ∈ ucscharRanges, 0xA0 ≤ r.1 := by decide
  obtain ⟨r, listed, inside⟩ := List.any_eq_true.mp ucschar
  simp only [Bool.and_eq_true, decide_eq_true_eq] at inside
  exact Nat.le_trans (bounds r listed) inside.1

theorem isEncoded_bounds {c : Char} (encoded : isEncoded c) :
    0x20 ≤ c.toNat ∧ c.toNat < 0x7F ∨ 0xA0 ≤ c.toNat := by
  simp only [isEncoded, isKept, isUnreserved, Bool.or_eq_true, decide_eq_true_eq] at encoded
  rcases encoded with (((((alphanum | rfl) | rfl) | rfl) | rfl) | ucschar) | rfl
  · exact .inl (isAlphanum_bounds alphanum)
  · decide
  · decide
  · decide
  · decide
  · exact .inr (isUcschar_bound ucschar)
  · decide

/-- Encoded text has no character that an IRI may not hold. -/
theorem isForbidden_eq_false_of_isEncoded {c : Char} (encoded : isEncoded c) :
    isForbidden c = false := by
  have bounds := isEncoded_bounds encoded
  refine Bool.eq_false_iff.mpr fun forbidden => ?_
  rcases Bool.or_eq_true_iff.mp forbidden with control | listed
  · simp only [isControl, Bool.or_eq_true, Bool.and_eq_true, decide_eq_true_eq] at control
    omega
  · have apart : [' ', '<', '>', '"', '\x7b', '\x7d', '|', '\\', '^', '\x60'].all
        fun d => isEncoded d = false := by decide
    have outside := List.all_eq_true.mp apart c (List.contains_iff_mem.mp listed)
    rw [of_decide_eq_true outside] at encoded
    cases encoded

/-- What stops inside a list stops there whatever follows. -/
theorem takeWhile_append_of_mem {p : Char → Bool} {cs : List Char} {c : Char} (member : c ∈ cs)
    (outside : p c = false) (ds : List Char) : (cs ++ ds).takeWhile p = cs.takeWhile p := by
  have stops : (cs.takeWhile p).length ≠ cs.length := by
    intro whole
    have all : cs.takeWhile p = cs := (List.takeWhile_prefix p).eq_of_length whole
    have inside : p c := List.all_eq_true.mp (all ▸ List.all_takeWhile) c member
    rw [outside] at inside
    cases inside
  rw [List.takeWhile_append, if_neg stops]

/-- The first colon of a text stays the first when something is appended. -/
theorem scheme?_append {cs : List Char} (colon : ':' ∈ cs) (ds : List Char) :
    scheme? (cs ++ ds) = scheme? cs := by
  rw [scheme?, scheme?, if_pos colon, if_pos (List.mem_append_left ds colon),
    takeWhile_append_of_mem colon (by decide)]

theorem isAbsolute_append {a : String} (absolute : isAbsolute a) (b : String) :
    isAbsolute (a ++ b) := by
  by_cases colon : ':' ∈ a.toList
  · rw [isAbsolute, String.toList_append, scheme?_append colon]
    exact absolute
  · rw [isAbsolute, scheme?, if_neg colon] at absolute
    cases absolute

theorem isValid_iff {iri : String} :
    isValid iri ↔ isAbsolute iri ∧ ∀ c ∈ iri.toList, isForbidden c = false := by
  simp [isValid]

/-- A valid text is an IRI as it stands, whatever the base. -/
theorem resolve?_of_isValid {lexical : String} (valid : isValid lexical) (base : Option String) :
    resolve? lexical base = some lexical := by
  unfold resolve?
  rw [if_pos valid]

/-- Behind a valid base any text that holds no forbidden character becomes an IRI. -/
theorem resolve?_of_isValid_base {base lexical : String} (valid : isValid base)
    (allowed : ∀ c ∈ lexical.toList, isForbidden c = false) :
    ∃ iri, resolve? lexical (some base) = some iri := by
  by_cases alone : isValid lexical
  · exact ⟨lexical, resolve?_of_isValid alone _⟩
  · obtain ⟨absolute, baseAllowed⟩ := isValid_iff.mp valid
    have joined : isValid (base ++ lexical) := by
      refine isValid_iff.mpr ⟨isAbsolute_append absolute lexical, ?_⟩
      intro c member
      rw [String.toList_append] at member
      rcases List.mem_append.mp member with here | there
      · exact baseAllowed c here
      · exact allowed c there
    refine ⟨base ++ lexical, ?_⟩
    unfold resolve?
    dsimp only
    rw [if_neg alone, if_pos joined]

end RdfMapping.Iri
