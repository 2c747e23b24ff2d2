import RdfMapping.Function.Basic
import RdfMapping.Unicode.Blank
import RdfMapping.Unicode.Casing

/-!
# GREL string functions

The four functions that every registry may start from. Without input they yield
null.
-/

namespace RdfMapping.Grel

/-- The text of the value parameter, which must not be a list. -/
def inputText? (iri : String) (ps : Parameters) : Except Fault (Option String) :=
  match ps.first? Vocabulary.valueParameter with
  | none => .ok none
  | some (.list _) => .error (.function iri "valueParameter must be a single value")
  | some value => .ok value.lexical?

def mapText (iri : String) (f : String → String) : Function := fun ps =>
  (inputText? iri ps).map fun
    | some s => .text (f s)
    | none => .null

def toUpperCase : Function := mapText Vocabulary.toUpperCase Unicode.toUpper
def toLowerCase : Function := mapText Vocabulary.toLowerCase Unicode.toLower
def stringTrim : Function := mapText Vocabulary.stringTrim Unicode.trim

/-- Joins the leaves of the array parameter that are not null. -/
def arrayJoin : Function := fun ps =>
  let separator := (ps.text? Vocabulary.separatorParameter).getD ""
  .ok <| match (RawValue.leavesOf (ps.values Vocabulary.arrayParameter)).filterMap id with
    | [] => .null
    | parts => .text (separator.intercalate parts)

end RdfMapping.Grel

namespace RdfMapping.Registry

/-- The GREL string functions. -/
def grel : Registry :=
  Registry.empty
    |>.register Vocabulary.toUpperCase Grel.toUpperCase
    |>.register Vocabulary.toLowerCase Grel.toLowerCase
    |>.register Vocabulary.stringTrim Grel.stringTrim
    |>.register Vocabulary.arrayJoin Grel.arrayJoin

end RdfMapping.Registry
