import RdfMapping.Json.Basic

/-!
# Compact JSON text

No blanks, members in the order in which the object holds them, and the fewest
digits for a double. Characters above the controls stand for themselves.
-/

namespace RdfMapping.Json

/-- Doubles always carry a point or a power of ten, so that they read back as doubles. -/
def doubleStyle : Binary64.TextStyle := ⟨fun x => -5 ≤ x ∧ x < 16, true, .even⟩

def lowerHex (n : Nat) : List Char :=
  let digits := Nat.toDigits 16 n
  List.replicate (4 - digits.length) '0' ++ digits

def escapeChar (c : Char) : List Char :=
  if c = '"' then ['\\', '"']
  else if c = '\\' then ['\\', '\\']
  else if c = '\x08' then ['\\', 'b']
  else if c = '\x0c' then ['\\', 'f']
  else if c = '\n' then ['\\', 'n']
  else if c = '\r' then ['\\', 'r']
  else if c = '\t' then ['\\', 't']
  else if c.toNat < 0x20 then '\\' :: 'u' :: lowerHex c.toNat
  else [c]

def quote (s : String) : String :=
  "\"" ++ String.ofList (s.toList.flatMap escapeChar) ++ "\""

/-- A double that is no number has no JSON form and is written as null. -/
def doubleText : Binary64 → String
  | .finite negative significand exponent =>
    Binary64.finiteText doubleStyle negative significand exponent
  | _ => "null"

mutual

def compact : Json → String
  | .null => "null"
  | .bool b => if b then "true" else "false"
  | .whole n => toString n
  | .double d => doubleText d
  | .text s => quote s
  | .array items => "[" ++ ",".intercalate (compactItems items) ++ "]"
  | .object members => "\x7b" ++ ",".intercalate (compactMembers members) ++ "\x7d"

def compactItems : List Json → List String
  | [] => []
  | item :: rest => item.compact :: compactItems rest

def compactMembers : List (String × Json) → List String
  | [] => []
  | (key, value) :: rest => (quote key ++ ":" ++ value.compact) :: compactMembers rest

end

end RdfMapping.Json
