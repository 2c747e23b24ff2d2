import RdfMapping.Unicode.Normalization

/-!
# IRIs

Which texts are absolute and valid IRIs, how a value is made safe for use inside
one, and how a text is turned into a valid IRI with the help of a base.
-/

namespace RdfMapping.Iri

/-- The characters beyond ASCII that an IRI may hold (`ucschar` of RFC 3987). -/
def ucscharRanges : List (Nat × Nat) :=
  [(0xA0, 0xD7FF), (0xF900, 0xFDCF), (0xFDF0, 0xFFEF), (0x10000, 0x1FFFD), (0x20000, 0x2FFFD),
   (0x30000, 0x3FFFD), (0x40000, 0x4FFFD), (0x50000, 0x5FFFD), (0x60000, 0x6FFFD),
   (0x70000, 0x7FFFD), (0x80000, 0x8FFFD), (0x90000, 0x9FFFD), (0xA0000, 0xAFFFD),
   (0xB0000, 0xBFFFD), (0xC0000, 0xCFFFD), (0xD0000, 0xDFFFD), (0xE1000, 0xEFFFD)]

def isUcschar (c : Char) : Bool := Unicode.inRanges ucscharRanges c

def isUnreserved (c : Char) : Bool :=
  c.isAlphanum || c = '-' || c = '.' || c = '_' || c = '~'

def upperHexDigit (n : Nat) : Char :=
  if n < 10 then Char.ofNat ('0'.toNat + n) else Char.ofNat ('A'.toNat + n - 10)

def percentByte (b : UInt8) : List Char :=
  ['%', upperHexDigit (b.toNat / 16), upperHexDigit (b.toNat % 16)]

/-- Characters that are not allowed to stand are written byte by byte. -/
def encodeChar (c : Char) : List Char :=
  if isUnreserved c || isUcschar c then [c]
  else (String.utf8EncodeChar c).flatMap percentByte

def encodeChars (cs : List Char) : List Char := cs.flatMap encodeChar

/-- A value as it may stand inside an IRI: normalized, then percent-encoded. -/
def safe (value : String) : String :=
  String.ofList (encodeChars (Unicode.nfcChars value.toList))

def isSchemeChar (c : Char) : Bool := c.isAlphanum || c = '+' || c = '-' || c = '.'

/-- The text before the first colon. -/
def scheme? (cs : List Char) : Option (List Char) :=
  if ':' ∈ cs then some (cs.takeWhile (· ≠ ':')) else none

def isScheme : List Char → Bool
  | [] => false
  | c :: rest => c.isAlpha && rest.all isSchemeChar

def isAbsolute (iri : String) : Bool :=
  match scheme? iri.toList with
  | some scheme => isScheme scheme
  | none => false

/-- The control characters, of ASCII and of Latin-1. -/
def isControl (c : Char) : Bool := c.toNat < 0x20 || 0x7F ≤ c.toNat && c.toNat < 0xA0

def isForbidden (c : Char) : Bool :=
  isControl c || [' ', '<', '>', '"', '\x7b', '\x7d', '|', '\\', '^', '\x60'].contains c

/-- Absolute, and free of the characters that no IRI may hold. -/
def isValid (iri : String) : Bool :=
  isAbsolute iri && !iri.toList.any isForbidden

/-- A valid text is an IRI as it stands; any other must become one behind the base. -/
def resolve? (lexical : String) (base : Option String) : Option String :=
  if isValid lexical then some lexical
  else match base with
    | some b => if isValid (b ++ lexical) then some (b ++ lexical) else none
    | none => none

end RdfMapping.Iri
