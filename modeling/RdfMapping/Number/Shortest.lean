import RdfMapping.Number.Binary64

/-!
# Shortest decimal text of a double

Among the decimals that round to a given double, the one with the fewest digits
is chosen, and of those the nearest. The search walks the decimal grids from one
digit to seventeen and tests the two neighbours of the value on each. A value
half way between two neighbours goes up or to the even one, as the caller asks.
-/

namespace RdfMapping.Binary64

/-- The largest `x` with `10 ^ x ≤ num / den`, for positive `num` and `den`. -/
def decimalMagnitude (num den : Nat) : Int :=
  let t : Int := (decimalDigits num).length - (decimalDigits den).length
  let (n, d) := scaleFraction 10 (-t) num den
  if d ≤ n then t else t - 1

/--
The reals that round to a positive double, in quarters of its last place: from
`low` to `high`, the ends included exactly when the significand is even.
-/
structure RoundingInterval where
  low : Nat
  middle : Nat
  high : Nat
  closed : Bool
  deriving DecidableEq, Repr

/-- Below a power of two the doubles lie twice as dense, so the lower end is nearer. -/
def roundingInterval (significand : Nat) (exponent : Int) : RoundingInterval where
  low := if significand = significandEnd / 2 ∧ minExponent < exponent
    then 4 * significand - 1 else 4 * significand - 2
  middle := 4 * significand
  high := 4 * significand + 2
  closed := significand % 2 = 0

def RoundingInterval.holds (r : RoundingInterval) (num unit : Nat) : Bool :=
  if r.closed then r.low * unit ≤ num && num ≤ r.high * unit
  else r.low * unit < num && num < r.high * unit

/-- Where a value half way between two decimals goes. -/
inductive Tie where
  | up
  | even
  deriving DecidableEq, Repr

/--
The neighbours of the value on the grid of multiples of `10 ^ place`: the nearer
one that rounds to the same double, if any does.
-/
def gridPoint? (tie : Tie) (significand : Nat) (exponent place : Int) : Option Nat :=
  let r := roundingInterval significand exponent
  -- one quarter of the last place is `quarter / grid` steps of the grid
  let (quarter, den) := scaleFraction 2 (exponent - 2) 1 1
  let (quarter, grid) := scaleFraction 10 (-place) quarter den
  let below := r.middle * quarter / grid
  let above := below + 1
  let belowFits := 0 < below && r.holds (below * grid) quarter
  let aboveFits := r.holds (above * grid) quarter
  match belowFits, aboveFits with
  | true, true =>
    let down := r.middle * quarter - below * grid
    let up := above * grid - r.middle * quarter
    if down < up ∨ (down = up ∧ tie = .even ∧ below % 2 = 0) then some below else some above
  | true, false => some below
  | false, true => some above
  | false, false => none

/-- Drops trailing zeros: the digits that count and the power of ten that takes the rest. -/
def trimZeros (digits : Nat) (exponent : Int) : Nat × Int :=
  if h : 0 < digits ∧ digits % 10 = 0 then trimZeros (digits / 10) (exponent + 1)
  else (digits, exponent)
termination_by digits
decreasing_by exact Nat.div_lt_self h.1 (by omega)

/-- Seventeen digits tell any two doubles apart. -/
def maxDigits : Nat := 17

/-- The fewest digits that round to the positive double `significand · 2 ^ exponent`. -/
def shortestDigits (tie : Tie) (significand : Nat) (exponent : Int) : Nat × Int :=
  let (num, den) := scaleFraction 2 exponent significand 1
  let leading := decimalMagnitude num den
  let grids := (List.range maxDigits).map fun (n : Nat) => leading - (n : Int)
  match grids.findSome? fun place => (gridPoint? tie significand exponent place).map (·, place) with
  | some (digits, place) => trimZeros digits place
  | none => (significand, exponent)

/-- How a finite double is written out of its shortest digits. -/
structure TextStyle where
  /-- Decimal exponents of the leading digit that are written without a power of ten. -/
  positional : Int → Bool
  /-- Whole numbers keep a zero after the point. -/
  keepsPoint : Bool
  /-- Where a value half way between two shortest decimals goes. -/
  tie : Tie

def zeros (n : Nat) : List Char := List.replicate n '0'

/-- Places the point among the digits, padding with zeros on either side. -/
def positionalText (keepsPoint : Bool) (digits : List Char) (exponent : Int) : List Char :=
  if 0 ≤ exponent then
    digits ++ zeros exponent.toNat ++ if keepsPoint then ['.', '0'] else []
  else
    let places := (-exponent).toNat
    let padded := zeros (places + 1 - digits.length) ++ digits
    let whole := padded.length - places
    padded.take whole ++ '.' :: padded.drop whole

/-- One digit before the point and a signed power of ten. -/
def scientificText (digits : List Char) (leading : Int) : List Char :=
  let mantissa := match digits with
    | [] => []
    | [d] => [d]
    | d :: ds => d :: '.' :: ds
  let power := decimalDigits leading.natAbs
  mantissa ++ 'e' :: (if leading < 0 then '-' else '+') :: power

def finiteText (style : TextStyle) (negative : Bool) (significand : Nat) (exponent : Int) :
    String :=
  let body :=
    if significand = 0 then positionalText style.keepsPoint ['0'] 0 else
      let (digits, place) := shortestDigits style.tie significand exponent
      let ds := decimalDigits digits
      let leading := place + ds.length - 1
      if style.positional leading then positionalText style.keepsPoint ds place
      else scientificText ds leading
  String.ofList (if negative then '-' :: body else body)

/-- Never a power of ten, and whole numbers without a point. -/
def plainStyle : TextStyle := ⟨fun _ => true, false, .up⟩

/-- The plain decimal text of a double; the two infinities are named by the caller. -/
def text (infinity : String) : Binary64 → String
  | .nan => "NaN"
  | .infinite false => infinity
  | .infinite true => "-" ++ infinity
  | .finite negative significand exponent => finiteText plainStyle negative significand exponent

end RdfMapping.Binary64
