import RdfMapping.Number.Shortest
import RdfMapping.Vocabulary

/-!
# Raw values

What evaluating an expression on a record yields, before it becomes a term:
scalars, nulls and lists of such. Lists count as their leaves from left to right.
-/

namespace RdfMapping

inductive RawValue where
  | null
  | boolean (b : Bool)
  | integer (n : Int)
  | double (d : Binary64)
  | text (s : String)
  | list (items : List RawValue)
  deriving Repr, Inhabited

namespace RawValue

def isNull : RawValue → Bool
  | .null => true
  | _ => false

/-- The lexical form of a scalar; nulls and lists have none. -/
def lexical? : RawValue → Option String
  | .null | .list _ => none
  | .boolean b => some (if b then "true" else "false")
  | .integer n => some (toString n)
  | .double d => some (d.text "INF")
  | .text s => some s

/-- The XML Schema datatype that a scalar has by nature; texts have none. -/
def scalarDatatype? : RawValue → Option String
  | .boolean _ => some Vocabulary.xsdBoolean
  | .integer _ => some Vocabulary.xsdInteger
  | .double _ => some Vocabulary.xsdDouble
  | _ => none

mutual

/-- The lexical forms of the leaves, with `none` for each null. -/
def leaves : RawValue → List (Option String)
  | .list items => leavesOf items
  | .null => [none]
  | .boolean b => [lexical? (.boolean b)]
  | .integer n => [lexical? (.integer n)]
  | .double d => [lexical? (.double d)]
  | .text s => [lexical? (.text s)]

def leavesOf : List RawValue → List (Option String)
  | [] => []
  | item :: rest => item.leaves ++ leavesOf rest

end

mutual

/-- The datatype of the first leaf that has one. -/
def firstDatatype? : RawValue → Option String
  | .list items => firstDatatypeOf? items
  | .null => none
  | .boolean b => scalarDatatype? (.boolean b)
  | .integer n => scalarDatatype? (.integer n)
  | .double d => scalarDatatype? (.double d)
  | .text s => scalarDatatype? (.text s)

def firstDatatypeOf? : List RawValue → Option String
  | [] => none
  | item :: rest => match item.firstDatatype? with
    | some type => some type
    | none => firstDatatypeOf? rest

end

/-- The lexical forms of all leaves; values that are all null count as no values. -/
def lexicalValues (values : List RawValue) : List (Option String) :=
  let all := leavesOf values
  if all.all Option.isNone then [] else all

/-- The lexical forms that are there. -/
def present (values : List RawValue) : List String := (lexicalValues values).filterMap id

end RawValue

end RdfMapping
