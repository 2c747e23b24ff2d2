import RdfMapping.Number.Word
import RdfMapping.Toml.Basic

/-!
# Scalars of TOML

Numbers, truth values and moments are runs of characters that need no quotes.
What such a run means is decided by its form as a whole.
-/

namespace RdfMapping.Toml

/-- Digits with single underscores between them, underscores taken out. -/
def digitsOf? (isDigit : Char → Bool) : List Char → Option (List Char)
  | [] => none
  | [c] => if isDigit c then some [c] else none
  | c :: '_' :: rest => if isDigit c then (digitsOf? isDigit rest).map (c :: ·) else none
  | c :: d :: rest => if isDigit c then (digitsOf? isDigit (d :: rest)).map (c :: ·) else none

def isHexDigit (c : Char) : Bool :=
  c.isDigit || ('a' ≤ c && c ≤ 'f') || ('A' ≤ c && c ≤ 'F')

def digitValue (c : Char) : Nat :=
  if c.isDigit then c.toNat - '0'.toNat
  else if c.isLower then c.toNat - 'a'.toNat + 10
  else c.toNat - 'A'.toNat + 10

def natInBase (base : Nat) (cs : List Char) : Nat :=
  cs.foldl (fun n c => n * base + digitValue c) 0

/-- Decimal digits without an idle leading zero. -/
def wholeDigits? (cs : List Char) : Option (List Char) :=
  match digitsOf? Char.isDigit cs with
  | some ('0' :: _ :: _) => none
  | digits => digits

def inWord (n : Int) : Option Value :=
  if isSignedWord n then some (.integer n) else none

def integer? : List Char → Option Value
  | '0' :: 'x' :: rest => do inWord (natInBase 16 (← digitsOf? isHexDigit rest))
  | '0' :: 'o' :: rest => do inWord (natInBase 8 (← digitsOf? (fun c => '0' ≤ c && c ≤ '7') rest))
  | '0' :: 'b' :: rest => do inWord (natInBase 2 (← digitsOf? (fun c => c = '0' || c = '1') rest))
  | '+' :: rest => do inWord (natInBase 10 (← wholeDigits? rest))
  | '-' :: rest => do inWord (-(natInBase 10 (← wholeDigits? rest) : Int))
  | cs => do inWord (natInBase 10 (← wholeDigits? cs))

def takeSign : List Char → Option Char × List Char
  | '+' :: rest => (some '+', rest)
  | '-' :: rest => (some '-', rest)
  | cs => (none, cs)

def isPowerMark (c : Char) : Bool := c = 'e' || c = 'E'

/-- A point with digits, a power of ten, or both; too large a number is none. -/
def float? (cs : List Char) : Option Value := do
  let (sign, body) := takeSign cs
  if body = ['i', 'n', 'f'] then return .float (.infinite (sign = some '-'))
  if body = ['n', 'a', 'n'] then return .float .nan
  let (mantissa, power) := body.span (!isPowerMark ·)
  let (whole, fraction) := mantissa.span (· ≠ '.')
  let whole ← wholeDigits? whole
  let fraction ← match fraction with
    | [] => some none
    | _ :: digits => (digitsOf? Char.isDigit digits).map some
  let power ← match power with
    | [] => some none
    | _ :: rest =>
      let (powerSign, digits) := takeSign rest
      (digitsOf? Char.isDigit digits).map fun ds => some (powerSign, ds)
  if fraction.isNone && power.isNone then none
  else
    let d := Binary64.ofDecimal (Numeral.value ⟨sign, whole, fraction, power⟩)
    if d = .infinite false then none else some (.float d)

/-- Reads exactly `n` digits. -/
def takeNumber? (n : Nat) (cs : List Char) : Option (Nat × List Char) :=
  let digits := cs.take n
  if digits.length = n && digits.all Char.isDigit then some (natInBase 10 digits, cs.drop n)
  else none

def expect? (c : Char) : List Char → Option (List Char)
  | d :: rest => if d = c then some rest else none
  | [] => none

def isLeapYear (year : Nat) : Bool := year % 4 = 0 && (year % 100 ≠ 0 || year % 400 = 0)

def daysInMonth (year month : Nat) : Nat :=
  if month = 2 then (if isLeapYear year then 29 else 28)
  else if month = 4 ∨ month = 6 ∨ month = 9 ∨ month = 11 then 30 else 31

def takeDate? (cs : List Char) : Option (List Char) := do
  let (year, cs) ← takeNumber? 4 cs
  let (month, cs) ← takeNumber? 2 (← expect? '-' cs)
  let (day, cs) ← takeNumber? 2 (← expect? '-' cs)
  if 1 ≤ month ∧ month ≤ 12 ∧ 1 ≤ day ∧ day ≤ daysInMonth year month then some cs else none

def takeTime? (cs : List Char) : Option (List Char) := do
  let (hour, cs) ← takeNumber? 2 cs
  let (minute, cs) ← takeNumber? 2 (← expect? ':' cs)
  let (second, cs) ← takeNumber? 2 (← expect? ':' cs)
  if hour ≤ 23 ∧ minute ≤ 59 ∧ second ≤ 60 then
    match cs with
    | '.' :: rest =>
      let (digits, rest) := rest.span Char.isDigit
      if digits.isEmpty then none else some rest
    | _ => some cs
  else none

def isOffset : List Char → Bool
  | [] => true
  | [c] => c = 'Z' || c = 'z'
  | c :: rest =>
    (c = '+' || c = '-') && match takeNumber? 2 rest with
      | some (hour, rest) => hour ≤ 23 && match (expect? ':' rest).bind (takeNumber? 2) with
        | some (minute, rest) => minute ≤ 59 && rest.isEmpty
        | none => false
      | none => false

def isMoment (cs : List Char) : Bool :=
  match takeDate? cs with
  | some [] => true
  | some (c :: rest) => (c = 'T' || c = 't' || c = ' ') && match takeTime? rest with
    | some offset => isOffset offset
    | none => false
  | none => takeTime? cs = some []

def isScalarChar (c : Char) : Bool :=
  c.isAlphanum || c = '+' || c = '-' || c = '_' || c = '.' || c = ':'

def scalar? (cs : List Char) : Option Value :=
  if cs = ['t', 'r', 'u', 'e'] then some (.bool true)
  else if cs = ['f', 'a', 'l', 's', 'e'] then some (.bool false)
  else if isMoment cs then some (.moment (String.ofList cs))
  else (integer? cs).orElse fun _ => float? cs

/-- A scalar and what follows it. A blank may stand between a date and a time. -/
def takeScalar? (cs : List Char) : Option (Value × List Char) := do
  let (token, rest) := cs.span isScalarChar
  match takeDate? token, rest with
  | some [], ' ' :: d :: more =>
    if d.isDigit then
      let (time, rest) := (d :: more).span isScalarChar
      return (← scalar? (token ++ ' ' :: time), rest)
    else return (← scalar? token, rest)
  | _, _ => return (← scalar? token, rest)

end RdfMapping.Toml
