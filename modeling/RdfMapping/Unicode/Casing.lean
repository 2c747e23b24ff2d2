import RdfMapping.Unicode.CaseTables

/-!
# Upper and lower case

Each character is mapped on its own, to one character or several, except for the
capital sigma: at the end of a word it becomes the final small sigma.
-/

namespace RdfMapping.Unicode

/-- Case mapping of single characters: runs first, then the ones with several targets. -/
structure CaseMapping where
  runs : List Run
  special : List (List Nat)

namespace CaseMapping

def specialImage? (c : Nat) : List (List Nat) → Option (List Nat)
  | (k :: target) :: rest => if k = c then some target else specialImage? c rest
  | [] :: rest => specialImage? c rest
  | [] => none

def image (m : CaseMapping) (c : Char) : List Char :=
  match m.runs.findSome? (·.image? c.toNat) with
  | some target => [Char.ofNat target]
  | none => match specialImage? c.toNat m.special with
    | some targets => targets.map Char.ofNat
    | none => [c]

end CaseMapping

def upperMapping : CaseMapping :=
  ⟨(tableEntries upperRunText).filterMap Run.ofEntry?, tableEntries upperSpecialText⟩

def lowerMapping : CaseMapping :=
  ⟨(tableEntries lowerRunText).filterMap Run.ofEntry?, tableEntries lowerSpecialText⟩

def casedRanges : List (Nat × Nat) := rangeEntries casedText

def caseIgnorableRanges : List (Nat × Nat) := rangeEntries caseIgnorableText

def isCased (c : Char) : Bool := inRanges casedRanges c

def isCaseIgnorable (c : Char) : Bool := inRanges caseIgnorableRanges c

def upperChar (c : Char) : List Char :=
  if c.toNat < 0x80 then [c.toUpper] else upperMapping.image c

def lowerChar (c : Char) : List Char :=
  if c.toNat < 0x80 then [c.toLower] else lowerMapping.image c

/-- The next character that counts for the case of its neighbours is a cased one. -/
def meetsCased (cs : List Char) : Bool :=
  match cs.dropWhile isCaseIgnorable with
  | c :: _ => isCased c
  | [] => false

/-- A sigma ends a word if a cased character comes before it and none after it. -/
def endsWord (before after : List Char) : Bool :=
  meetsCased before && !meetsCased after

/-- Lower case of a text; `before` holds what comes before it, nearest first. -/
def lowerChars (before : List Char) : List Char → List Char
  | [] => []
  | c :: after =>
    let image :=
      if c = 'Σ' then (if endsWord before after then ['ς'] else ['σ']) else lowerChar c
    image ++ lowerChars (c :: before) after

def toUpper (s : String) : String := String.ofList (s.toList.flatMap upperChar)

def toLower (s : String) : String := String.ofList (lowerChars [] s.toList)

end RdfMapping.Unicode
