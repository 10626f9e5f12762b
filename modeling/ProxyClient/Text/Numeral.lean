/-
ProxyClient/Text/Numeral.lean

Whole numbers and blanks in text.  A numeral is a non-empty run of the
digits 0 to 9; a sign may stand in front, `-` only where negative numbers
are meant.  Hexadecimal digits count in either case.
-/

namespace ProxyClient.Text

/-! ### Numerals -/

/-- The value of a run of digits; nothing for an empty run or any other character. -/
def digits? (chars : List Char) : Option Nat :=
  if chars ≠ [] ∧ chars.all Char.isDigit then
    some (chars.foldl (fun n c => 10 * n + (c.toNat - '0'.toNat)) 0)
  else none

/-- The digits of a number in base ten. -/
def decimal (n : Nat) : String :=
  String.ofList (Nat.toDigits 10 n)

/-- A number below `bound`, with or without a plus sign. -/
def natural? (bound : Nat) (text : String) : Option Nat :=
  let digits := match text.toList with
    | '+' :: rest => rest
    | chars => chars
  (digits? digits).filter (· < bound)

/-- An integer from `-bound` to `bound - 1`, with or without a sign. -/
def integer? (bound : Nat) (text : String) : Option Int :=
  match text.toList with
  | '-' :: rest => ((digits? rest).filter (· ≤ bound)).map fun n => -(n : Int)
  | '+' :: rest => ((digits? rest).filter (· < bound)).map Int.ofNat
  | chars => ((digits? chars).filter (· < bound)).map Int.ofNat

/-! ### Hexadecimal digits -/

/-- The value of a hexadecimal digit. -/
def hexDigit? (c : Char) : Option Nat :=
  if c.isDigit then some (c.toNat - '0'.toNat)
  else if 'a' ≤ c ∧ c ≤ 'f' then some (c.toNat - 'a'.toNat + 10)
  else if 'A' ≤ c ∧ c ≤ 'F' then some (c.toNat - 'A'.toNat + 10)
  else none

/-- The value of a run of hexadecimal digits. -/
def hexadecimal (digits : List Char) : Nat :=
  digits.foldl (fun n c => 16 * n + (hexDigit? c).getD 0) 0

/-! ### Blanks -/

/-- The characters that Unicode counts as white space. -/
def isBlank (c : Char) : Bool :=
  let n := c.toNat
  (9 ≤ n && n ≤ 13) || n == 0x20 || n == 0x85 || n == 0xA0 || n == 0x1680 ||
    (0x2000 ≤ n && n ≤ 0x200A) || n == 0x2028 || n == 0x2029 || n == 0x202F || n == 0x205F ||
    n == 0x3000

/-- A text without the blanks at either end. -/
def trim (text : String) : String :=
  String.ofList ((text.toList.dropWhile isBlank).reverse.dropWhile isBlank).reverse

end ProxyClient.Text
