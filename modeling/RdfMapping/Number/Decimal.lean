/-!
# Decimal numerals

A numeral is first cut into its parts, which keeps how it was spelled, and then
valued as a signed whole number times a power of ten. Which spellings a format
admits is decided by that format on the parts.
-/

namespace RdfMapping

/-- The signed value `digits · 10 ^ exponent`. -/
structure Decimal where
  negative : Bool
  digits : Nat
  exponent : Int
  deriving DecidableEq, Repr

/-- A numeral as written: sign, digits before the point, digits after it, and the power of ten. -/
structure Numeral where
  sign : Option Char
  whole : List Char
  fraction : Option (List Char)
  power : Option (Option Char × List Char)
  deriving DecidableEq, Repr

namespace Numeral

def takeSign : List Char → Option Char × List Char
  | '+' :: rest => (some '+', rest)
  | '-' :: rest => (some '-', rest)
  | rest => (none, rest)

def takeDigits (cs : List Char) : List Char × List Char :=
  cs.span Char.isDigit

/-- Cuts a text into the parts of a numeral; nothing may be left over. -/
def ofChars? (cs : List Char) : Option Numeral :=
  let (sign, cs) := takeSign cs
  let (whole, cs) := takeDigits cs
  let (fraction, cs) := match cs with
    | '.' :: rest => let (digits, rest) := takeDigits rest; (some digits, rest)
    | rest => (none, rest)
  match cs with
  | [] => some ⟨sign, whole, fraction, none⟩
  | c :: rest =>
    if c = 'e' ∨ c = 'E' then
      let (powerSign, rest) := takeSign rest
      let (digits, rest) := takeDigits rest
      if rest = [] then some ⟨sign, whole, fraction, some (powerSign, digits)⟩ else none
    else none

/-- A number with one more digit behind it. -/
def pushDigit (n : Nat) (digit : Char) : Nat := n * 10 + (digit.toNat - '0'.toNat)

def natOfDigits (cs : List Char) : Nat := cs.foldl pushDigit 0

/-- A numeral that has neither a point nor a power of ten. -/
def isWhole (n : Numeral) : Bool := n.fraction.isNone && n.power.isNone

/-- There is a digit beside the point, and one in the power of ten if it is written. -/
def hasDigits (n : Numeral) : Bool :=
  !(n.whole ++ n.fraction.getD []).isEmpty && n.power.all fun p => !p.2.isEmpty

def isNegative (n : Numeral) : Bool := n.sign = some '-'

/-- The power of ten that the last digit stands for. -/
def exponent (n : Numeral) : Int :=
  let power : Int := match n.power with
    | none => 0
    | some (some '-', digits) => -(natOfDigits digits)
    | some (_, digits) => natOfDigits digits
  power - (n.fraction.getD []).length

def value (n : Numeral) : Decimal :=
  ⟨n.isNegative, natOfDigits (n.whole ++ n.fraction.getD []), n.exponent⟩

end Numeral

/-- Reads a numeral in any spelling: `.5`, `5.` and `+5e3` are admitted. -/
def Decimal.ofText? (text : String) : Option Decimal :=
  match Numeral.ofChars? text.toList with
  | some n => if n.hasDigits then some n.value else none
  | none => none

/-- The decimal digits of a number, most significant first. -/
def decimalDigits (n : Nat) : List Char := Nat.toDigits 10 n

end RdfMapping
