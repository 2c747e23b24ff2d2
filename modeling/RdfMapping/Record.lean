import RdfMapping.Fault
import RdfMapping.RawValue

/-!
# Records

A record is known by what it answers to reference expressions, which only its
source can read: the values, and the datatype that the source has for them.
-/

namespace RdfMapping

structure Record where
  evaluate : String → Except Fault (List RawValue)
  datatype? : String → Option String

namespace Record

/-- The lexical values of an expression, nulls left out. -/
def present (r : Record) (expression : String) : Except Fault (List String) :=
  (r.evaluate expression).map RawValue.present

end Record

end RdfMapping
