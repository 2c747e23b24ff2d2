/-!
# Character data tables

A table is a text of entries, each ended by a semicolon and made of hexadecimal
numbers with blanks or line ends between them.
-/

namespace RdfMapping.Unicode

def hexDigitValue (c : Char) : Nat :=
  if c.isDigit then c.toNat - '0'.toNat else c.toNat - 'A'.toNat + 10

/-- What has been read of a table: complete entries and numbers in reverse, and the digits at hand. -/
structure TableScan where
  entries : List (List Nat)
  numbers : List Nat
  current : Option Nat

namespace TableScan

def endNumber (s : TableScan) : TableScan :=
  match s.current with
  | some n => ⟨s.entries, n :: s.numbers, none⟩
  | none => s

def step (s : TableScan) (c : Char) : TableScan :=
  if c = ' ' ∨ c = '\n' then s.endNumber
  else if c = ';' then ⟨s.endNumber.numbers.reverse :: s.entries, [], none⟩
  else { s with current := some (s.current.getD 0 * 16 + hexDigitValue c) }

end TableScan

def tableEntries (text : String) : List (List Nat) :=
  (text.toList.foldl TableScan.step ⟨[], [], none⟩).entries.reverse

/-- A run of characters: `size` of them from `first` on, `stride` apart. -/
structure Run where
  first : Nat
  size : Nat
  stride : Nat
  target : Nat

namespace Run

/-- Which member of the run a character is. -/
def index? (r : Run) (c : Nat) : Option Nat :=
  if r.first ≤ c ∧ (c - r.first) % r.stride = 0 ∧ (c - r.first) / r.stride < r.size
  then some ((c - r.first) / r.stride) else none

def image? (r : Run) (c : Nat) : Option Nat :=
  (r.index? c).map fun i => r.target + i * r.stride

def ofEntry? : List Nat → Option Run
  | [first, size, stride, target] => some ⟨first, size, stride, target⟩
  | _ => none

end Run

/-- Ranges of characters, ends included. -/
def rangeEntries (text : String) : List (Nat × Nat) :=
  (tableEntries text).filterMap fun
    | [first, last] => some (first, last)
    | _ => none

def inRanges (ranges : List (Nat × Nat)) (c : Char) : Bool :=
  ranges.any fun r => r.1 ≤ c.toNat && c.toNat ≤ r.2

end RdfMapping.Unicode
