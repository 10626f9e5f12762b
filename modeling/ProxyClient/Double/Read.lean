/-
ProxyClient/Double/Read.lean

Numbers from text: an optional sign, then `nan`, `inf` or `infinity` in any
case, or digits with an optional point among or beside them and an optional
exponent.  The value is rounded to the nearest number, a half to the even
one.
-/
import ProxyClient.Double.Basic

namespace ProxyClient.Double

/-- The bits of the number nearest to the positive fraction `num / den`. -/
def nearestBits (num den : Nat) : Nat :=
  let guess : Int := (Nat.log2 num : Int) - Nat.log2 den
  let top := if num * 2 ^ (-guess).toNat < den * 2 ^ guess.toNat then guess - 1 else guess
  let exponent := max (top - 52) (-1074)
  let mantissa := roundHalfEven (num * 2 ^ (-exponent).toNat) (den * 2 ^ exponent.toNat)
  min ((exponent + 1074).toNat * 2 ^ 52 + mantissa) infinityBits

/-- The bits of the number nearest to `digits * 10 ^ exponent`.  Beyond the
range of the format the power of ten is not computed. -/
def nearestDecimalBits (digits : Nat) (exponent : Int) : Nat :=
  let top := (Nat.toDigits 10 digits).length + exponent
  if digits = 0 ∨ top < -330 then 0
  else if 310 < top then infinityBits
  else nearestBits (digits * 10 ^ exponent.toNat) (10 ^ (-exponent).toNat)

/-- The value of an exponent part: nothing written, or `e` with a signed numeral. -/
def exponentPart? : List Char → Option Int
  | [] => some 0
  | mark :: rest =>
    if mark = 'e' ∨ mark = 'E' then
      match rest with
      | '-' :: digits => (Text.digits? digits).map fun n => -(n : Int)
      | '+' :: digits => (Text.digits? digits).map Int.ofNat
      | digits => (Text.digits? digits).map Int.ofNat
    else none

/-- The bits of an unsigned decimal. -/
def decimalBits? (chars : List Char) : Option Nat :=
  let whole := chars.takeWhile Char.isDigit
  let afterWhole := chars.dropWhile Char.isDigit
  let (part, rest) := match afterWhole with
    | '.' :: more => (more.takeWhile Char.isDigit, more.dropWhile Char.isDigit)
    | _ => ([], afterWhole)
  do
    let digits ← Text.digits? (whole ++ part)
    let exponent ← exponentPart? rest
    return nearestDecimalBits digits (exponent - part.length)

/-- The bits of an unsigned number in text. -/
def unsignedBits? (chars : List Char) : Option Nat :=
  let word := String.ofList (chars.map Char.toLower)
  if word = "nan" then some nanBits
  else if word = "inf" ∨ word = "infinity" then some infinityBits
  else decimalBits? chars

/-- The number that a text spells; nothing for any other text. -/
def ofText? (text : String) : Option Double :=
  match text.toList with
  | '-' :: rest => (unsignedBits? rest).map (ofSignBits true)
  | '+' :: rest => (unsignedBits? rest).map (ofSignBits false)
  | chars => (unsignedBits? chars).map (ofSignBits false)

end ProxyClient.Double
