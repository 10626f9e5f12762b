/-
ProxyClient/Double/Print.lean

Numbers as text, always positional.  Without a scale a number is written
with the fewest digits that lie in the interval of reals rounding to it,
and of these the nearest to it, the upper one if two are equally near.
With a scale it is written with that many places, rounded half to even.
-/
import ProxyClient.Double.Basic

namespace ProxyClient.Double

/-! ### Decimal digits -/

/-- A decimal `digits * 10 ^ exponent`. -/
structure Decimal where
  /-- All digits, as one number. -/
  digits : Nat
  /-- The power of ten of the last digit. -/
  exponent : Int
  deriving DecidableEq, Repr

/-- The number of decimal digits of `n`; zero has one. -/
def digitCount (n : Nat) : Nat :=
  (Nat.toDigits 10 n).length

/-- The exponent `k` with `10 ^ (k - 1) ≤ num / den < 10 ^ k`, for a positive fraction. -/
def decimalExponent (num den : Nat) : Int :=
  let guess : Int := digitCount num - digitCount den
  if num * 10 ^ (-guess).toNat < den * 10 ^ guess.toNat then guess else guess + 1

/-- The reals that round to a number: `low` to `high` in units of `1 / den`,
the ends included if `closed`, around `mid`. -/
structure Interval where
  /-- Lower end. -/
  low : Nat
  /-- The number itself. -/
  mid : Nat
  /-- Upper end. -/
  high : Nat
  /-- Common denominator. -/
  den : Nat
  /-- The ends belong to the interval. -/
  closed : Bool
  deriving Repr

/-- Half the gap to either neighbour belongs to a number; below a power of two
the gap is half as wide.  Ends go to the even mantissa. -/
def roundingInterval (mantissa : Nat) (exponent : Int) : Interval :=
  let (unit, den) := fraction 1 (exponent - 2)
  let below := if mantissa = 2 ^ 52 then 1 else 2
  { low := (4 * mantissa - below) * unit
    mid := 4 * mantissa * unit
    high := (4 * mantissa + 2) * unit
    den := den
    closed := mantissa % 2 = 0 }

/-- The multiple of `10 ^ exponent` nearest to the middle of the interval
among the two around it that lie in the interval; the upper one if both are
equally near. -/
def Interval.onGrid? (interval : Interval) (exponent : Int) : Option Nat :=
  let scale := 10 ^ (-exponent).toNat
  let unit := interval.den * 10 ^ exponent.toNat
  let below := interval.mid * scale / unit
  let rest := interval.mid * scale % unit
  let low := interval.low * scale
  let high := interval.high * scale
  let lowerFits := if interval.closed then low ≤ below * unit else low < below * unit
  let upperFits := if interval.closed then (below + 1) * unit ≤ high else (below + 1) * unit < high
  if upperFits ∧ (¬ lowerFits ∨ unit ≤ 2 * rest) then some (below + 1)
  else if lowerFits then some below
  else none

/-- The decimal with the fewest digits in the interval.  Seventeen digits
always suffice. -/
def Interval.shortest (interval : Interval) : Decimal :=
  let exponent := decimalExponent interval.mid interval.den
  let found := (List.range' 1 17).findSome? fun (count : Nat) =>
    (interval.onGrid? (exponent - count)).map fun digits => (⟨digits, exponent - count⟩ : Decimal)
  found.getD ⟨interval.mid / interval.den, 0⟩

/-- The digits of `n` with a point before the last `places`. -/
def withPoint (n places : Nat) : String :=
  let digits := Nat.toDigits 10 n
  let padded := List.replicate (places + 1 - digits.length) '0' ++ digits
  let whole := padded.take (padded.length - places)
  let part := padded.drop (padded.length - places)
  String.ofList (if part.isEmpty then whole else whole ++ '.' :: part)

/-- The same decimal without trailing zeros after the point. -/
def Decimal.trimmed : Nat → Decimal → Decimal
  | 0, d => d
  | steps + 1, d =>
    if d.exponent < 0 ∧ d.digits % 10 = 0 then trimmed steps ⟨d.digits / 10, d.exponent + 1⟩ else d

/-- A decimal written out in full. -/
def Decimal.positional (d : Decimal) : String :=
  let d := d.trimmed (-d.exponent).toNat
  withPoint (d.digits * 10 ^ d.exponent.toNat) (-d.exponent).toNat

/-! ### Numbers as text -/

/-- A minus sign in front of the text of a negative number. -/
def signed (x : Double) (text : String) : String :=
  if x.isNegative then "-" ++ text else text

/-- The shortest text of a number. -/
def shortestText (x : Double) : String :=
  match x.magnitude with
  | .nan => "NaN"
  | .infinite => x.signed "inf"
  | .finite 0 _ => x.signed "0"
  | .finite mantissa exponent => x.signed (roundingInterval mantissa exponent).shortest.positional

/-- The text of a number with `places` digits after the point. -/
def fixedText (x : Double) (places : Nat) : String :=
  match x.magnitude with
  | .nan => "NaN"
  | .infinite => x.signed "inf"
  | .finite mantissa exponent =>
    let (num, den) := fraction mantissa exponent
    x.signed (withPoint (roundHalfEven (num * 10 ^ places) den) places)

/-- The text of a number with `scale` places, or its shortest text if `scale` is zero.

It is written for up to 65535 places.  A program that is asked for more stops before it has
a text; here it is the text that these places would make. -/
def format (x : Double) (scale : Nat) : String :=
  if scale = 0 then x.shortestText else x.fixedText scale

end ProxyClient.Double
