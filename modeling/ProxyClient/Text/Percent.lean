/-
ProxyClient/Text/Percent.lean

Percent-encoding: a byte that may not stand in a place is written there as
`%` and two hexadecimal digits.  In the query of a URL the names and values
of a form are written this way, `+` standing for a blank.
-/
import ProxyClient.Text.Lossy
import ProxyClient.Text.Split

namespace ProxyClient.Text

/-! ### Encoding -/

/-- The digit of a number below 16. -/
def hexDigit (n : Nat) : Char :=
  if n < 10 then Char.ofNat ('0'.toNat + n) else Char.ofNat ('A'.toNat + (n - 10))

/-- A byte as `%` and two digits. -/
def percentByte (byte : UInt8) : List Char :=
  ['%', hexDigit (byte.toNat / 16), hexDigit (byte.toNat % 16)]

/-- A text with every byte of a character outside `keep` percent-encoded. -/
def percentEncode (keep : Char → Bool) (chars : List Char) : List Char :=
  chars.flatMap fun c =>
    if keep c then [c] else (Bytes.ofText (String.singleton c)).flatMap percentByte

/-! ### Decoding -/

/-- The number of a hexadecimal digit of either case. -/
def hexValue? (byte : UInt8) : Option Nat :=
  let n := byte.toNat
  if 48 ≤ n ∧ n ≤ 57 then some (n - 48)
  else if 65 ≤ n ∧ n ≤ 70 then some (n - 55)
  else if 97 ≤ n ∧ n ≤ 102 then some (n - 87)
  else none

/-- Bytes with every `%` that two digits follow decoded; other bytes stay. -/
def percentDecode : Bytes → Bytes
  | 37 :: high :: low :: rest =>
    match hexValue? high, hexValue? low with
    | some h, some l => UInt8.ofNat (16 * h + l) :: percentDecode rest
    | _, _ => 37 :: percentDecode (high :: low :: rest)
  | byte :: rest => byte :: percentDecode rest
  | [] => []

/-! ### Forms -/

/-- A name or value of a form. -/
def formText (chars : List Char) : String :=
  let blanked := chars.map fun c => if c = '+' then ' ' else c
  decodeLossy (percentDecode (Bytes.ofText (String.ofList blanked)))

/-- The names and values of a form, in order.  A part without `=` is a name
with an empty value; an empty part is nothing. -/
def formPairs (query : List Char) : List (String × String) :=
  ((splitAll '&' query).filter (!·.isEmpty)).map fun part =>
    match splitFirst '=' part with
    | some (name, value) => (formText name, formText value)
    | none => (formText part, "")

end ProxyClient.Text
