import RdfMapping.Json.Outline
import RdfMapping.Number.Word

/-!
# Numbers in JSON texts

A numeral with neither point nor power that fits a machine word is a whole
number. Any other is a double and found by double arithmetic: the leading digits
that fit a machine word become a double, which is multiplied or divided by a
power of ten. Each step rounds, so this is not always the double nearest to the
numeral.
-/

namespace RdfMapping.Json

/-- The numerals of JSON: no plus sign, no idle leading zero, a digit on each side of a point. -/
def admits (n : Numeral) : Bool :=
  n.sign ≠ some '+'
    && !n.whole.isEmpty && (n.whole.length = 1 || n.whole.head? ≠ some '0')
    && n.fraction.all (!·.isEmpty)
    && n.power.all (!·.2.isEmpty)

/-- Appends digits to a number while it fits a machine word, and counts the digits left over. -/
def appendDigits (n : Nat) : List Char → Nat × Nat
  | [] => (n, 0)
  | digit :: rest =>
    let next := Numeral.pushDigit n digit
    if next < wordEnd then appendDigits next rest else (n, rest.length + 1)

/--
The leading digits that fit a machine word, and the power of ten that their last
one stands for. Digits left over before the point count as zeros; the first digit
after it may fit again.
-/
def leadingDigits (n : Numeral) : Nat × Int :=
  let (start, wholeLeft) := appendDigits 0 n.whole
  let (digits, fractionLeft) := appendDigits start (n.fraction.getD [])
  (digits, n.exponent + wholeLeft + fractionLeft)

/-- The largest power of ten that is a finite double. -/
def maxPower : Nat := 308

def powerOfTen (power : Nat) : Binary64 := Binary64.ofInt (Nat.pow 10 power)

/--
A machine word with a sign, times a power of ten. After two divisions by the
largest power of ten nothing is left of any word.
-/
def scaledWord (negative : Bool) (word : Nat) (power : Int) : Binary64 :=
  let d := Binary64.ofFraction negative word 1
  if word = 0 then d
  else if maxPower < power then .infinite negative
  else if 0 ≤ power then d * powerOfTen power.toNat
  else if -maxPower ≤ power then d / powerOfTen (-power).toNat
  else if -(2 * maxPower) ≤ power then
    d / powerOfTen maxPower / powerOfTen (-power - maxPower).toNat
  else Binary64.zero negative

/-- The whole numbers that a numeral may stand for; larger ones are doubles. -/
def isWordSized (n : Int) : Bool := isSignedWord n || isWord n

/-- What a numeral stands for. Minus zero is a double, and one too large to be finite is void. -/
def numberOf (n : Numeral) : Outline :=
  let (digits, power) := leadingDigits n
  let signed : Int := if n.isNegative then -digits else digits
  if n.isWhole && power = 0 && isWordSized signed && !(n.isNegative && digits = 0) then
    .whole signed
  else
    let d := scaledWord n.isNegative digits power
    if d.isFinite then .double d else .void

end RdfMapping.Json
