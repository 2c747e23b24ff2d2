import RdfMapping.Number.Decimal

/-!
# Double-precision numbers

A finite double is a signed significand times a power of two. Rounding is done
on exact fractions: the last place is chosen from the size of the number and the
quotient goes to the nearest significand, a half to the even one.
-/

namespace RdfMapping

/-- A double: not a number, an infinity, or `significand · 2 ^ exponent` with a sign. -/
inductive Binary64 where
  | nan
  | infinite (negative : Bool)
  | finite (negative : Bool) (significand : Nat) (exponent : Int)
  deriving DecidableEq, Repr, Inhabited

namespace Binary64

/-- The exponent of the smallest positive double. -/
def minExponent : Int := -1074

/-- The exponent of the largest finite doubles. -/
def maxExponent : Int := 971

/-- The number of bits of a significand. -/
def precision : Nat := 53

/-- Significands lie below this, and from its half on wherever the exponent is not the smallest. -/
def significandEnd : Nat := Nat.pow 2 precision

def zero (negative : Bool) : Binary64 := .finite negative 0 minExponent

/-- The quotient of two numbers as the nearest whole number; a half goes to the even neighbour. -/
def roundQuotient (num den : Nat) : Nat :=
  let q := num / den
  let r := num % den
  if 2 * r < den then q
  else if den < 2 * r then q + 1
  else if q % 2 = 0 then q else q + 1

/-- Multiplies a fraction by `base ^ power`, keeping both parts whole. -/
def scaleFraction (base : Nat) (power : Int) (num den : Nat) : Nat × Nat :=
  if 0 ≤ power then (num * base.pow power.toNat, den)
  else (num, den * base.pow (-power).toNat)

/-- The largest `t` with `2 ^ t ≤ num / den`, for positive `num` and `den`. -/
def binaryMagnitude (num den : Nat) : Int :=
  let t : Int := (num.log2 : Int) - den.log2
  let (n, d) := scaleFraction 2 (-t) num den
  if d ≤ n then t else t - 1

/-- The double nearest to the fraction `num / den` with the given sign. -/
def ofFraction (negative : Bool) (num den : Nat) : Binary64 :=
  if num = 0 then zero negative else
    let place := max minExponent (binaryMagnitude num den - (precision - 1 : Nat))
    let (n, d) := scaleFraction 2 (-place) num den
    let q := roundQuotient n d
    let (q, place) :=
      if q = significandEnd then (significandEnd / 2, place + 1) else (q, place)
    if maxExponent < place then .infinite negative else .finite negative q place

/-- The double nearest to a whole number. -/
def ofInt (n : Int) : Binary64 := ofFraction (n < 0) n.natAbs 1

/-- Magnitudes with their leading digit above this place are infinite. -/
def decimalCeiling : Int := 310

/-- Magnitudes with their leading digit below this place are zero. -/
def decimalFloor : Int := -330

/-- The double nearest to a decimal. The two bounds keep the powers of ten small. -/
def ofDecimal (d : Decimal) : Binary64 :=
  if d.digits = 0 then zero d.negative else
    let leading : Int := (decimalDigits d.digits).length + d.exponent
    if decimalCeiling < leading then .infinite d.negative
    else if leading < decimalFloor then zero d.negative
    else
      let (num, den) := scaleFraction 10 d.exponent d.digits 1
      ofFraction d.negative num den

/-- The product, rounded; zero times an infinity is no number. -/
def mul : Binary64 → Binary64 → Binary64
  | .finite m a x, .finite n b y =>
    let (num, den) := scaleFraction 2 (x + y) (a * b) 1
    ofFraction (m != n) num den
  | .infinite m, .infinite n => .infinite (m != n)
  | .infinite m, .finite n b _ => if b = 0 then .nan else .infinite (m != n)
  | .finite m a _, .infinite n => if a = 0 then .nan else .infinite (m != n)
  | _, _ => .nan

/-- The quotient, rounded; zero by zero and infinity by infinity are no numbers. -/
def div : Binary64 → Binary64 → Binary64
  | .finite m a x, .finite n b y =>
    if b = 0 then if a = 0 then .nan else .infinite (m != n)
    else
      let (num, den) := scaleFraction 2 (x - y) a b
      ofFraction (m != n) num den
  | .infinite m, .finite n _ _ => .infinite (m != n)
  | .finite m _ _, .infinite n => zero (m != n)
  | _, _ => .nan

instance : Mul Binary64 := ⟨mul⟩

instance : Div Binary64 := ⟨div⟩

def isFinite : Binary64 → Bool
  | .finite .. => true
  | _ => false

end Binary64

end RdfMapping
