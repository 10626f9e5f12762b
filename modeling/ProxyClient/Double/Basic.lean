/-
ProxyClient/Double/Basic.lean

Binary floating point numbers of 64 bits, held as their bits.  A finite
number is a sign and an exact value `mantissa * 2 ^ exponent`, so that
printing and reading are arithmetic on natural numbers.
-/
import ProxyClient.Text.Numeral

namespace ProxyClient

/-- A floating point number of 64 bits. -/
structure Double where
  /-- Sign, 11 bits of exponent, 52 bits of fraction. -/
  bits : UInt64
  deriving DecidableEq, Repr, Inhabited

namespace Double

/-- The size of a number without its sign. -/
inductive Magnitude where
  /-- Not a number. -/
  | nan
  /-- Larger than every finite number. -/
  | infinite
  /-- Exactly `mantissa * 2 ^ exponent`. -/
  | finite (mantissa : Nat) (exponent : Int)
  deriving DecidableEq, Repr

/-- The sign bit is set. -/
def isNegative (x : Double) : Bool :=
  2 ^ 63 ≤ x.bits.toNat

/-- The magnitude that the exponent and fraction bits stand for. -/
def magnitude (x : Double) : Magnitude :=
  let fraction := x.bits.toNat % 2 ^ 52
  match x.bits.toNat / 2 ^ 52 % 2 ^ 11 with
  | 0 => .finite fraction (-1074)
  | 2047 => if fraction = 0 then .infinite else .nan
  | field => .finite (2 ^ 52 + fraction) (field - 1075)

/-- Whether the number is not a number. -/
def isNaN (x : Double) : Bool :=
  x.magnitude = .nan

/-- The number with sign `negative` whose other bits are `bits`. -/
def ofSignBits (negative : Bool) (bits : Nat) : Double :=
  ⟨UInt64.ofNat (bits + if negative then 2 ^ 63 else 0)⟩

/-- The bits of infinity, without the sign. -/
def infinityBits : Nat := 2047 * 2 ^ 52

/-- The bits of the number that stands for no number, without the sign. -/
def nanBits : Nat := infinityBits + 2 ^ 51

/-- `mantissa * 2 ^ exponent` as a fraction. -/
def fraction (mantissa : Nat) (exponent : Int) : Nat × Nat :=
  (mantissa * 2 ^ exponent.toNat, 2 ^ (-exponent).toNat)

/-- `num / den` to the nearest whole number, a half to the even neighbour. -/
def roundHalfEven (num den : Nat) : Nat :=
  let quotient := num / den
  let twice := 2 * (num % den)
  if twice < den then quotient
  else if den < twice then quotient + 1
  else if quotient % 2 = 0 then quotient else quotient + 1

end Double

end ProxyClient
