import RdfMapping.Json.Writer
import RdfMapping.Number.Word
import RdfMapping.Record

/-!
# Dot paths in JSON records

A path is a list of steps with dots between them, `$` standing for the record
itself. A step takes a member of an object or an item of an array; a key that
meets an array is looked for in each of its items, and `*` takes all children.
-/

namespace RdfMapping.Json

def dropLeading (c : Char) : List Char → List Char
  | d :: rest => if c = d then rest else d :: rest
  | [] => []

/-- The steps of a path; one leading `$` and then one leading dot say nothing. -/
def pathSteps (path : String) : List String :=
  match dropLeading '.' (dropLeading '$' path.toList) with
  | [] => []
  | cs => (cs.splitOn '.').map String.ofList

/-- A step that is a number addresses an item of an array, unless no array can be that long. -/
def itemIndex? (step : String) : Option Nat :=
  let digits := dropLeading '+' step.toList
  if !digits.isEmpty && digits.all Char.isDigit then
    let n := Numeral.natOfDigits digits
    if n < wordEnd then some n else none
  else none

mutual

def step (key : String) : Json → List Json
  | .object members =>
    if key = "*" then members.map (·.2) else (members.lookup key).toList
  | .array items =>
    if key = "*" then items else match itemIndex? key with
      | some i => items[i]?.toList
      | none => stepItems key items
  | _ => []

def stepItems (key : String) : List Json → List Json
  | [] => []
  | item :: rest => step key item ++ stepItems key rest

end

/-- The values that a path addresses. -/
def select (root : Json) (path : String) : List Json :=
  (pathSteps path).foldl (fun found key => found.flatMap (step key)) [root]

mutual

/-- An object counts as its text; whole numbers beyond the signed words become doubles. -/
def toRaw : Json → RawValue
  | .null => .null
  | .bool b => .boolean b
  | .whole n => if isSignedWord n then .integer n else .double (Binary64.ofInt n)
  | .double d => .double d
  | .text s => .text s
  | .array items => .list (toRawItems items)
  | .object members => .text (compact (.object members))

def toRawItems : List Json → List RawValue
  | [] => []
  | item :: rest => item.toRaw :: toRawItems rest

end

mutual

/-- The datatype of the first scalar that has one. -/
def datatype? : Json → Option String
  | .bool _ => some Vocabulary.xsdBoolean
  | .whole _ => some Vocabulary.xsdInteger
  | .double _ => some Vocabulary.xsdDouble
  | .array items => datatypeOf? items
  | _ => none

def datatypeOf? : List Json → Option String
  | [] => none
  | item :: rest => match item.datatype? with
    | some type => some type
    | none => datatypeOf? rest

end

/-- A JSON value as a record, its expressions being dot paths. -/
def record (value : Json) : Record where
  evaluate path := .ok ((select value path).map toRaw)
  datatype? path := datatypeOf? (select value path)

end RdfMapping.Json
