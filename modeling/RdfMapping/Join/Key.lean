import RdfMapping.Record

/-!
# Join keys

A key holds one value per expression. A record with several values for an
expression has a key for every way to choose, in the order of its values; one
without a value for some expression has none.
-/

namespace RdfMapping

abbrev JoinKey := List String

namespace Record

/-- Every key extended by every value. -/
def extendKeys (keys : List JoinKey) (values : List String) : List JoinKey :=
  keys.flatMap fun key => values.map fun value => key ++ [value]

/-- Goes through the expressions until one has no value or fails. -/
def keysFrom (r : Record) (keys : List JoinKey) : List String → Except Fault (List JoinKey)
  | [] => .ok keys
  | expression :: rest => match r.present expression with
    | .error f => .error f
    | .ok [] => .ok []
    | .ok values => r.keysFrom (extendKeys keys values) rest

def joinKeys (r : Record) (expressions : List String) : Except Fault (List JoinKey) :=
  r.keysFrom [[]] expressions

end Record

end RdfMapping
