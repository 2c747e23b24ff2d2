import RdfMapping.Number.Shortest

/-!
# TOML values and tables

A document is a table. While it is read, each of its tables remembers how it
came about, since that decides what may still be added to it.
-/

namespace RdfMapping.Toml

inductive Value where
  | text (s : String)
  | integer (n : Int)
  | float (d : Binary64)
  | bool (b : Bool)
  /-- A date, a time, or both. -/
  | moment (written : String)
  | array (items : List Value)
  | table (members : List (String × Value))
  deriving Inhabited

/-- How a table came about. -/
inductive Origin where
  /-- By a header of its own. -/
  | header
  /-- As the parent of a table with a header. -/
  | parent
  /-- By the dotted key of a pair. -/
  | dotted
  deriving DecidableEq, Repr

/-- What stands under a key. The tables of an array come last first. -/
inductive Node where
  | value (v : Value)
  | table (origin : Origin) (members : List (String × Node))
  | tables (latest : List (String × Node)) (earlier : List (List (String × Node)))
  deriving Inhabited

abbrev Table := List (String × Node)

namespace Table

def put (key : String) (node : Node) : Table → Table
  | [] => [(key, node)]
  | (k, n) :: rest => if k = key then (key, node) :: rest else (k, n) :: put key node rest

/-- Adds a pair to the table at hand; its key must be new. -/
def addPair (key : String) (v : Value) (t : Table) : Option Table :=
  if (t.lookup key).isSome then none else some (put key (.value v) t)

/--
Adds a pair under a dotted key. Tables on the way are opened, and those that have
a header of their own are closed to dotted keys, as is the end of the way unless
it was opened by one.
-/
def addDotted (first : String) (v : Value) : List String → Table → Option Table
  | [], t => addPair first v t
  | key :: rest, t => match t.lookup first with
    | none => do
      let inner ← addDotted key v rest []
      return put first (.table .dotted inner) t
    | some (.table origin members) =>
      if origin = .header ∨ (rest = [] ∧ origin ≠ .dotted) then none else do
        let inner ← addDotted key v rest members
        return put first (.table origin inner) t
    | some (.tables latest earlier) =>
      if rest = [] then none else do
        let inner ← addDotted key v rest latest
        return put first (.tables inner earlier) t
    | some (.value _) => none

/-- Changes the table that a header leads to, opening those on the way. -/
def update (change : Table → Option Table) : List String → Table → Option Table
  | [], t => change t
  | key :: rest, t => match t.lookup key with
    | none => do
      let inner ← update change rest []
      return put key (.table .parent inner) t
    | some (.table origin members) => do
      let inner ← update change rest members
      return put key (.table origin inner) t
    | some (.tables latest earlier) => do
      let inner ← update change rest latest
      return put key (.tables inner earlier) t
    | some (.value _) => none

/-- A header may open a new table, or one that is there only as a parent. -/
def openTable (key : String) (t : Table) : Option Table :=
  match t.lookup key with
  | none => some (put key (.table .header []) t)
  | some (.table .parent members) => some (put key (.table .header members) t)
  | _ => none

/-- A double header opens a further table of an array. -/
def openArrayTable (key : String) (t : Table) : Option Table :=
  match t.lookup key with
  | none => some (put key (.tables [] []) t)
  | some (.tables latest earlier) => some (put key (.tables [] (latest :: earlier)) t)
  | _ => none

end Table

mutual

/-- The value of what stands under a key. -/
def Node.toValue : Node → Value
  | .value v => v
  | .table _ members => .table (membersToValue members)
  | .tables latest earlier =>
    .array ((earlierToValues earlier).reverse ++ [.table (membersToValue latest)])

def membersToValue : List (String × Node) → List (String × Value)
  | [] => []
  | (key, node) :: rest => (key, node.toValue) :: membersToValue rest

def earlierToValues : List (List (String × Node)) → List Value
  | [] => []
  | members :: rest => .table (membersToValue members) :: earlierToValues rest

end

end RdfMapping.Toml
