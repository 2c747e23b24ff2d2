import RdfMapping.Toml.Scalar

/-!
# Reading TOML

A document is read line by line into tables. Values may run over several lines:
arrays, and the long forms of quoted text. Each recursive step takes at least one
character, so the length of the text bounds them all.
-/

namespace RdfMapping.Toml

def isBlank (c : Char) : Bool := c = ' ' || c = '\t'

def skipBlanks (cs : List Char) : List Char := cs.dropWhile isBlank

/-- Controls may stand nowhere, but for the tab. -/
def isPlain (c : Char) : Bool := c = '\t' || (0x20 ≤ c.toNat && c.toNat ≠ 0x7F)

def takeNewline? : List Char → Option (List Char)
  | '\n' :: rest => some rest
  | '\r' :: '\n' :: rest => some rest
  | _ => none

def skipComment : List Char → List Char
  | '#' :: rest => rest.dropWhile isPlain
  | cs => cs

/-- Blanks and a comment up to the end of the line, or of the text. -/
def takeLineEnd? (cs : List Char) : Option (List Char) :=
  match skipComment (skipBlanks cs) with
  | [] => some []
  | cs => takeNewline? cs

/-- Blanks, comments and line ends between the items of an array. -/
def skipGaps : Nat → List Char → List Char
  | 0, cs => cs
  | fuel + 1, cs => match skipComment (skipBlanks cs) with
    | [] => []
    | cs => match takeNewline? cs with
      | some rest => skipGaps fuel rest
      | none => cs

def takeCodePoint? (n : Nat) (cs : List Char) : Option (Char × List Char) :=
  let digits := cs.take n
  if digits.length = n && digits.all isHexDigit then
    let code := natInBase 16 digits
    if code < 0xD800 ∨ (0xDFFF < code ∧ code ≤ 0x10FFFF) then some (Char.ofNat code, cs.drop n)
    else none
  else none

def takeEscape? : List Char → Option (Char × List Char)
  | 'b' :: rest => some ('\x08', rest)
  | 't' :: rest => some ('\t', rest)
  | 'n' :: rest => some ('\n', rest)
  | 'f' :: rest => some ('\x0c', rest)
  | 'r' :: rest => some ('\r', rest)
  | '"' :: rest => some ('"', rest)
  | '\\' :: rest => some ('\\', rest)
  | 'u' :: rest => takeCodePoint? 4 rest
  | 'U' :: rest => takeCodePoint? 8 rest
  | _ => none

/-- A text on one line; `escapes` tells double quotes from single ones. -/
def takeShort? (quote : Char) (escapes : Bool) : Nat → List Char → List Char →
    Option (String × List Char)
  | 0, _, _ => none
  | _ + 1, _, [] => none
  | fuel + 1, done, c :: rest =>
    if c = quote then some (String.ofList done.reverse, rest)
    else if escapes && c = '\\' then do
      let (e, rest) ← takeEscape? rest
      takeShort? quote escapes fuel (e :: done) rest
    else if isPlain c then takeShort? quote escapes fuel (c :: done) rest
    else none

/-- Behind a backslash at the end of a line, all blanks and line ends are skipped. -/
def skipFold? (fuel : Nat) (cs : List Char) : Option (List Char) :=
  (takeNewline? (skipBlanks cs)).map (go fuel)
where
  go : Nat → List Char → List Char
    | 0, cs => cs
    | fuel + 1, cs => match takeNewline? (skipBlanks cs) with
      | some rest => go fuel rest
      | none => skipBlanks cs

/-- A text over several lines; up to two quotes may stand before the closing three. -/
def takeLong? (quote : Char) (escapes : Bool) : Nat → List Char → List Char →
    Option (String × List Char)
  | 0, _, _ => none
  | _ + 1, _, [] => none
  | fuel + 1, done, c :: rest =>
    if c = quote then
      let run := ((c :: rest).takeWhile (· = quote)).length
      if run < 3 then takeLong? quote escapes fuel (c :: done) rest
      else
        let taken := min run 5
        let text := List.replicate (taken - 3) quote ++ done
        some (String.ofList text.reverse, (c :: rest).drop taken)
    else if escapes && c = '\\' then match skipFold? fuel rest with
      | some rest => takeLong? quote escapes fuel done rest
      | none => do
        let (e, rest) ← takeEscape? rest
        takeLong? quote escapes fuel (e :: done) rest
    else match takeNewline? (c :: rest) with
      | some rest => takeLong? quote escapes fuel ('\n' :: done) rest
      | none => if isPlain c then takeLong? quote escapes fuel (c :: done) rest else none

def takeText? (fuel : Nat) (quote : Char) (escapes : Bool) (cs : List Char) :
    Option (String × List Char) :=
  match cs with
  | a :: b :: rest =>
    if a = quote ∧ b = quote then
      takeLong? quote escapes fuel [] ((takeNewline? rest).getD rest)
    else takeShort? quote escapes fuel [] cs
  | _ => takeShort? quote escapes fuel [] cs

def isBareKeyChar (c : Char) : Bool := c.isAlphanum || c = '_' || c = '-'

def takeSimpleKey? (fuel : Nat) : List Char → Option (String × List Char)
  | '"' :: rest => takeShort? '"' true fuel [] rest
  | '\'' :: rest => takeShort? '\'' false fuel [] rest
  | cs =>
    let (key, rest) := cs.span isBareKeyChar
    if key.isEmpty then none else some (String.ofList key, rest)

/-- A key is a path of simple keys with dots between them, blanks allowed around the dots. -/
def takeKey? : Nat → List Char → Option (List String × List Char)
  | 0, _ => none
  | fuel + 1, cs => do
    let (key, rest) ← takeSimpleKey? (cs.length + 1) (skipBlanks cs)
    match skipBlanks rest with
    | '.' :: rest => do
      let (keys, rest) ← takeKey? fuel rest
      return (key :: keys, rest)
    | rest => return ([key], rest)

/-- Arrays and inline tables may be nested, and keys be dotted, less deep than this. -/
def maxDepth : Nat := 80

def addPath (path : List String) (v : Value) (t : Table) : Option Table :=
  match path with
  | [] => none
  | key :: rest => if path.length < maxDepth then Table.addDotted key v rest t else none

mutual

def takeValue? (fuel depth : Nat) (cs : List Char) : Option (Value × List Char) :=
  match fuel with
  | 0 => none
  | fuel + 1 => match cs with
    | '"' :: rest => (takeText? fuel '"' true rest).map fun (s, rest) => (.text s, rest)
    | '\'' :: rest => (takeText? fuel '\'' false rest).map fun (s, rest) => (.text s, rest)
    | '[' :: rest =>
      if depth + 1 < maxDepth then takeItems? fuel (depth + 1) [] (skipGaps fuel rest) else none
    | c :: rest =>
      if c = '\x7b' then
        if depth + 1 < maxDepth then takeInline? fuel (depth + 1) [] true (skipBlanks rest)
        else none
      else takeScalar? (c :: rest)
    | [] => none

/-- The items of an array up to its closing bracket; a comma may stand before that. -/
def takeItems? (fuel depth : Nat) (done : List Value) (cs : List Char) :
    Option (Value × List Char) :=
  match fuel with
  | 0 => none
  | fuel + 1 => match cs with
    | ']' :: rest => some (.array done.reverse, rest)
    | cs => do
      let (v, rest) ← takeValue? fuel depth cs
      match skipGaps fuel rest with
      | ',' :: rest => takeItems? fuel depth (v :: done) (skipGaps fuel rest)
      | ']' :: rest => return (.array (v :: done).reverse, rest)
      | _ => none

/-- The pairs of an inline table; only an empty one may close before a pair. -/
def takeInline? (fuel depth : Nat) (done : Table) (mayClose : Bool) (cs : List Char) :
    Option (Value × List Char) :=
  match fuel with
  | 0 => none
  | fuel + 1 =>
    match mayClose, cs with
    | true, '\x7d' :: rest => some (.table (membersToValue done), rest)
    | _, cs => do
      let (path, rest) ← takeKey? (cs.length + 1) cs
      match rest with
      | '=' :: rest =>
        let (v, rest) ← takeValue? fuel depth (skipBlanks rest)
        let done ← addPath path v done
        match skipBlanks rest with
        | ',' :: rest => takeInline? fuel depth done false (skipBlanks rest)
        | '\x7d' :: rest => return (.table (membersToValue done), rest)
        | _ => none
      | _ => none

end

/-- The document so far and the table that pairs go to. -/
structure Reading where
  root : Table
  header : List String

namespace Reading

/-- Splits a header path before its last key. -/
def openWith (change : String → Table → Option Table) (r : Reading) (path : List String) :
    Option Reading := do
  let key ← path.getLast?
  if path.length < maxDepth then
    let root ← Table.update (change key) path.dropLast r.root
    return ⟨root, path⟩
  else none

def addPair (r : Reading) (path : List String) (v : Value) : Option Reading := do
  let root ← Table.update (addPath path v) r.header r.root
  return { r with root }

/-- One line, without its end: nothing, a header, or a pair. -/
def line? (r : Reading) (cs : List Char) : Option (Reading × List Char) :=
  match skipBlanks cs with
  | '[' :: '[' :: rest => do
    let (path, rest) ← takeKey? (rest.length + 1) rest
    match rest with
    | ']' :: ']' :: rest => return (← r.openWith Table.openArrayTable path, rest)
    | _ => none
  | '[' :: rest => do
    let (path, rest) ← takeKey? (rest.length + 1) rest
    match rest with
    | ']' :: rest => return (← r.openWith Table.openTable path, rest)
    | _ => none
  | [] => some (r, [])
  | c :: rest =>
    if c = '#' ∨ c = '\n' ∨ c = '\r' then some (r, c :: rest)
    else do
      let (path, rest) ← takeKey? (rest.length + 2) (c :: rest)
      match rest with
      | '=' :: rest =>
        let (v, rest) ← takeValue? (rest.length + 1) 0 (skipBlanks rest)
        return (← r.addPair path v, rest)
      | _ => none

def lines? : Nat → Reading → List Char → Option Reading
  | 0, _, _ => none
  | _ + 1, r, [] => some r
  | fuel + 1, r, cs => do
    let (r, rest) ← r.line? cs
    lines? fuel r (← takeLineEnd? rest)

end Reading

def dropByteOrderMark : List Char → List Char
  | '\uFEFF' :: rest => rest
  | cs => cs

/-- The table written by a TOML text; `none` if the text is malformed. -/
def read? (text : String) : Option (List (String × Value)) := do
  let cs := dropByteOrderMark text.toList
  let r ← Reading.lines? (cs.length + 1) ⟨[], []⟩ cs
  return membersToValue r.root

end RdfMapping.Toml
