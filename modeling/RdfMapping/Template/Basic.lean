/-!
# Templates

A template is text with numbered slots, each holding a reference expression.
Written out, slots stand in braces, and braces and backslashes that are meant as
such are escaped with a backslash.
-/

namespace RdfMapping

/-- A slot is known by its number; two slots may hold the same expression. -/
structure Slot where
  id : Nat
  expression : String
  deriving DecidableEq, Repr

inductive Segment where
  | text (text : String)
  | slot (slot : Slot)
  deriving DecidableEq, Repr

structure Template where
  segments : List Segment
  deriving DecidableEq, Repr

namespace Segment

def slot? : Segment → Option Slot
  | .slot s => some s
  | .text _ => none

end Segment

namespace Template

def slots (t : Template) : List Slot := t.segments.filterMap Segment.slot?

def expressions (t : Template) : List String := t.slots.map Slot.expression

def isConstant (t : Template) : Bool := t.slots.isEmpty

def escapeMark : Char := '\\'
def openMark : Char := '\x7b'
def closeMark : Char := '\x7d'

/-- The characters that a backslash may stand before. -/
def isMark (c : Char) : Bool := c = openMark || c = closeMark || c = escapeMark

def escapeChar (c : Char) : List Char := if isMark c then [escapeMark, c] else [c]

def escape (cs : List Char) : List Char := cs.flatMap escapeChar

def renderSegment : Segment → List Char
  | .text text => escape text.toList
  | .slot s => openMark :: escape s.expression.toList ++ [closeMark]

def render (t : Template) : String := String.ofList (t.segments.flatMap renderSegment)

end Template

end RdfMapping
