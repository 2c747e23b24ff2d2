import RdfMapping.Json.Number

/-!
# Reading JSON text

The text is cut into tokens one character at a time, and the tokens are put
together with a stack of the arrays and objects that are still open. Both passes
see each character, or token, once. They check how the text is written; parts
without a value are void in the outline that they give.
-/

namespace RdfMapping.Json

inductive Token where
  | openArray
  | closeArray
  | openObject
  | closeObject
  | comma
  | colon
  | scalar (value : Outline)
  /-- A text, or `none` if half a surrogate pair stands in it. -/
  | text (s : Option String)
  deriving Repr

/--
What the characters since the last complete token belong to; `done` is reversed.
The characters of a text are kept by number, since an escape may name half of a
surrogate pair.
-/
inductive Scan where
  | between
  | word (done : List Char)
  | number (done : List Char)
  | text (done : List Nat)
  | escape (done : List Nat)
  /-- Inside `\uXXXX`: the value so far and how many digits are missing. -/
  | unit (done : List Nat) (value : Nat) (missing : Nat)
  deriving Repr

def isBlank (c : Char) : Bool := c = ' ' || c = '\t' || c = '\n' || c = '\r'

def isNumberChar (c : Char) : Bool :=
  c.isDigit || c = '-' || c = '+' || c = '.' || c = 'e' || c = 'E'

def hexValue? (c : Char) : Option Nat :=
  if c.isDigit then some (c.toNat - '0'.toNat)
  else if 'a' ≤ c ∧ c ≤ 'f' then some (c.toNat - 'a'.toNat + 10)
  else if 'A' ≤ c ∧ c ≤ 'F' then some (c.toNat - 'A'.toNat + 10)
  else none

def word? : List Char → Option Outline
  | ['n', 'u', 'l', 'l'] => some .null
  | ['t', 'r', 'u', 'e'] => some (.bool true)
  | ['f', 'a', 'l', 's', 'e'] => some (.bool false)
  | _ => none

/-- A character that starts a token, or is one. -/
def startToken (c : Char) : Option (List Token × Scan) :=
  if isBlank c then some ([], .between)
  else if c = '[' then some ([.openArray], .between)
  else if c = ']' then some ([.closeArray], .between)
  else if c = '\x7b' then some ([.openObject], .between)
  else if c = '\x7d' then some ([.closeObject], .between)
  else if c = ',' then some ([.comma], .between)
  else if c = ':' then some ([.colon], .between)
  else if c = '"' then some ([], .text [])
  else if c.isDigit || c = '-' then some ([], .number [c])
  else if c.isLower then some ([], .word [c])
  else none

/-- Ends a word or number; nothing else may be left open. -/
def Scan.finish? : Scan → Option (List Token)
  | .between => some []
  | .word done => (word? done.reverse).map fun v => [.scalar v]
  | .number done => do
    let n ← Numeral.ofChars? done.reverse
    if admits n then return [.scalar (numberOf n)] else none
  | _ => none

def simpleEscape? (c : Char) : Option Char :=
  if c = '"' ∨ c = '\\' ∨ c = '/' then some c
  else if c = 'b' then some '\x08'
  else if c = 'f' then some '\x0c'
  else if c = 'n' then some '\n'
  else if c = 'r' then some '\r'
  else if c = 't' then some '\t'
  else none

def isFirstHalf (u : Nat) : Bool := 0xD800 ≤ u && u < 0xDC00

def isSecondHalf (u : Nat) : Bool := 0xDC00 ≤ u && u < 0xE000

def joinHalves (first second : Nat) : Char :=
  Char.ofNat (0x10000 + (first - 0xD800) * 0x400 + (second - 0xDC00))

/-- Puts reversed numbers in front of a text; each half of a pair needs the other beside it. -/
def joinUnits (joined : List Char) : List Nat → Option (List Char)
  | [] => some joined
  | [u] => if isFirstHalf u || isSecondHalf u then none else some (Char.ofNat u :: joined)
  | u :: v :: rest =>
    if isSecondHalf u then
      if isFirstHalf v then joinUnits (joinHalves v u :: joined) rest else none
    else if isFirstHalf u then none
    else joinUnits (Char.ofNat u :: joined) (v :: rest)

def Scan.step (scan : Scan) (c : Char) : Option (List Token × Scan) :=
  match scan with
  | .between => startToken c
  | .word done =>
    if c.isLower then some ([], .word (c :: done)) else do
      let ended ← scan.finish?
      let (started, next) ← startToken c
      return (ended ++ started, next)
  | .number done =>
    if isNumberChar c then some ([], .number (c :: done)) else do
      let ended ← scan.finish?
      let (started, next) ← startToken c
      return (ended ++ started, next)
  | .text done =>
    if c = '"' then some ([.text ((joinUnits [] done).map String.ofList)], .between)
    else if c = '\\' then some ([], .escape done)
    else if c.toNat < 0x20 then none
    else some ([], .text (c.toNat :: done))
  | .escape done =>
    if c = 'u' then some ([], .unit done 0 4)
    else (simpleEscape? c).map fun e => ([], .text (e.toNat :: done))
  | .unit done value missing => do
    let v ← hexValue? c
    let value := value * 16 + v
    if missing = 1 then return ([], .text (value :: done))
    else return ([], .unit done value (missing - 1))

/-- The tokens of a text, from the given state on; `found` holds them in reverse. -/
def scanTokens (scan : Scan) (found : List Token) : List Char → Option (List Token)
  | [] => scan.finish?.map fun ended => (ended.reverse ++ found).reverse
  | c :: rest => match scan.step c with
    | some (tokens, next) => scanTokens next (tokens.reverse ++ found) rest
    | none => none

def tokens? (text : String) : Option (List Token) := scanTokens .between [] text.toList

/-- The members of an object, in reverse; a key without a value is `none`. -/
abbrev OpenMembers := List (Option String × Outline)

/-- An object is void if one of its keys is. -/
def objectOf (members : OpenMembers) : Outline :=
  match members.reverse.mapM fun m => m.1.map (·, m.2) with
  | some members => .object members
  | none => .void

/-- An array or object that is still open, its contents in reverse. -/
inductive Frame where
  | array (items : List Outline)
  | object (members : OpenMembers) (key : Option String)

/-- What may come next. -/
inductive Expect where
  | value
  /-- A value, or the end of the array just opened. -/
  | firstItem
  /-- A key, or the end of the object just opened. -/
  | firstKey
  | key
  | colon (key : Option String)
  /-- A comma, or the end of what is open; at the outermost level the end of the text. -/
  | separator

structure Assembly where
  frames : List Frame
  expect : Expect
  /-- The members of the object whose next key is being read. -/
  members : OpenMembers
  result : Option Outline

namespace Assembly

def start : Assembly := ⟨[], .value, [], none⟩

/-- A complete value goes into the innermost open array or object, or is the result. -/
def accept (value : Outline) (frames : List Frame) : Assembly :=
  match frames with
  | [] => ⟨[], .separator, [], some value⟩
  | .array items :: rest => ⟨.array (value :: items) :: rest, .separator, [], none⟩
  | .object members key :: rest =>
    ⟨.object ((key, value) :: members) key :: rest, .separator, [], none⟩

def beginValue (a : Assembly) : Token → Option Assembly
  | .scalar v => some (accept v a.frames)
  | .text (some s) => some (accept (.text s) a.frames)
  | .text none => some (accept .void a.frames)
  | .openArray => some ⟨.array [] :: a.frames, .firstItem, [], none⟩
  | .openObject => some ⟨a.frames, .firstKey, [], none⟩
  | _ => none

def step (a : Assembly) (token : Token) : Option Assembly :=
  match a.expect, token with
  | .value, token => a.beginValue token
  | .firstItem, .closeArray => match a.frames with
    | .array items :: rest => some (accept (.array items.reverse) rest)
    | _ => none
  | .firstItem, token => a.beginValue token
  | .firstKey, .closeObject => some (accept (.object []) a.frames)
  | .firstKey, .text key => some ⟨a.frames, .colon key, [], none⟩
  | .key, .text key => some ⟨a.frames, .colon key, a.members, none⟩
  | .colon key, .colon => some ⟨.object a.members key :: a.frames, .value, [], none⟩
  | .separator, .comma => match a.frames with
    | .array _ :: _ => some ⟨a.frames, .value, [], none⟩
    | .object members _ :: rest => some ⟨rest, .key, members, none⟩
    | [] => none
  | .separator, .closeArray => match a.frames with
    | .array items :: rest => some (accept (.array items.reverse) rest)
    | _ => none
  | .separator, .closeObject => match a.frames with
    | .object members _ :: rest => some (accept (objectOf members) rest)
    | _ => none
  | _, _ => none

def run (a : Assembly) : List Token → Option Assembly
  | [] => some a
  | token :: rest => match a.step token with
    | some next => next.run rest
    | none => none

end Assembly

/-- Arrays and objects have a value when nested up to this many levels. -/
def maxDepth : Nat := 127

/-- The outline of a JSON text; `none` if the text is malformed. -/
def outline? (text : String) : Option Outline := do
  let tokens ← tokens? text
  let done ← Assembly.start.run tokens
  done.result.map (Outline.limitDepth maxDepth)

/-- The value written by a JSON text; `none` if the text is malformed or a part of it is void. -/
def read? (text : String) : Option Json := (outline? text).bind Outline.value?

end RdfMapping.Json
