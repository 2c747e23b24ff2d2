import Std.Data.HashMap
import RdfMapping.Unicode.NormalizationTables

/-!
# Canonical composition (NFC)

Characters are decomposed, marks are put into canonical order behind their
starter, and starters are composed again with the marks that nothing blocks.
Hangul syllables follow an arithmetic rule.
-/

namespace RdfMapping.Unicode

def decompositions : Std.HashMap Nat (List Nat) :=
  (tableEntries decompositionText).foldl (fun m entry => match entry with
    | c :: parts => m.insert c parts
    | [] => m) ∅

def compositions : Std.HashMap (Nat × Nat) Nat :=
  (tableEntries compositionText).foldl (fun m entry => match entry with
    | [a, b, c] => m.insert (a, b) c
    | _ => m) ∅

def combiningClasses : List (Nat × Nat × Nat) :=
  (tableEntries combiningClassText).filterMap fun
    | [first, size, value] => some (first, size, value)
    | _ => none

/-- The canonical combining class; zero for starters. -/
def combiningClass (c : Nat) : Nat :=
  match combiningClasses.find? fun r => r.1 ≤ c && c < r.1 + r.2.1 with
  | some r => r.2.2
  | none => 0

namespace Hangul

def firstSyllable : Nat := 0xAC00
def firstLead : Nat := 0x1100
def firstVowel : Nat := 0x1161
/-- One before the first trailing consonant, for syllables that have none. -/
def noTrail : Nat := 0x11A7
def leads : Nat := 19
def vowels : Nat := 21
def trails : Nat := 28
def syllables : Nat := leads * vowels * trails

def decompose? (c : Nat) : Option (List Nat) :=
  if firstSyllable ≤ c ∧ c < firstSyllable + syllables then
    let i := c - firstSyllable
    let lead := firstLead + i / (vowels * trails)
    let vowel := firstVowel + i % (vowels * trails) / trails
    let trail := i % trails
    some (if trail = 0 then [lead, vowel] else [lead, vowel, noTrail + trail])
  else none

def compose? (a b : Nat) : Option Nat :=
  if firstLead ≤ a ∧ a < firstLead + leads ∧ firstVowel ≤ b ∧ b < firstVowel + vowels then
    some (firstSyllable + ((a - firstLead) * vowels + (b - firstVowel)) * trails)
  else if firstSyllable ≤ a ∧ a < firstSyllable + syllables ∧ (a - firstSyllable) % trails = 0
      ∧ noTrail < b ∧ b < noTrail + trails then
    some (a + (b - noTrail))
  else none

end Hangul

def decomposeChar (c : Nat) : List Nat :=
  match Hangul.decompose? c with
  | some parts => parts
  | none => (decompositions[c]?).getD [c]

def composePair? (a b : Nat) : Option Nat :=
  match Hangul.compose? a b with
  | some c => some c
  | none => compositions[(a, b)]?

/-- A character with its combining class. -/
structure Mark where
  code : Nat
  level : Nat

/-- Puts a mark behind the marks of lower or equal class; starters stay where they are. -/
def insertMark (m : Mark) : List Mark → List Mark
  | [] => [m]
  | n :: rest => if n.level ≤ m.level then n :: insertMark m rest else m :: n :: rest

/-- Canonical order: each run of marks sorted by class, equal classes in their order. -/
def orderMarks (pending : List Mark) : List Mark → List Mark
  | [] => pending
  | m :: rest =>
    if m.level = 0 then pending ++ m :: orderMarks [] rest
    else orderMarks (insertMark m pending) rest

/--
Composition so far: what is finished in reverse, the starter at hand, the marks behind it
in reverse, and the class of the last of them.
-/
structure Composing where
  finished : List Nat
  starter : Option Nat
  marks : List Nat
  last : Option Nat

namespace Composing

def flush (s : Composing) : List Nat :=
  match s.starter with
  | some c => s.marks ++ c :: s.finished
  | none => s.marks ++ s.finished

/-- A starter begins anew; a mark waits behind the starter at hand. -/
def keep (s : Composing) (m : Mark) : Composing :=
  if m.level = 0 then ⟨s.flush, some m.code, [], none⟩
  else { s with marks := m.code :: s.marks, last := some m.level }

/-- A mark or starter joins the starter at hand unless a mark between them blocks it. -/
def step (s : Composing) (m : Mark) : Composing :=
  let free := match s.last with
    | none => true
    | some level => level < m.level
  match s.starter, free with
  | some c, true => match composePair? c m.code with
    | some joined => { s with starter := some joined }
    | none => s.keep m
  | _, _ => s.keep m

end Composing

def composeMarks (marks : List Mark) : List Nat :=
  (marks.foldl Composing.step ⟨[], none, [], none⟩).flush.reverse

/-- Below this code every character stands for itself and none combines. -/
def firstCombining : Nat := 0x300

def nfcChars (cs : List Char) : List Char :=
  if cs.all (·.toNat < firstCombining) then cs else
    let marks := (cs.flatMap fun c => decomposeChar c.toNat).map fun c => ⟨c, combiningClass c⟩
    (composeMarks (orderMarks [] marks)).map Char.ofNat

def nfc (s : String) : String := String.ofList (nfcChars s.toList)

end RdfMapping.Unicode
