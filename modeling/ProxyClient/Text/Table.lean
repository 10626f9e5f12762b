/-
ProxyClient/Text/Table.lean

Tables of characters, written as text.  Words stand between blanks and line
ends.  In a word characters are given by their numbers in hexadecimal, and a
range of them by its ends with a hyphen between.
-/
import ProxyClient.Text.Numeral
import ProxyClient.Text.Split

namespace ProxyClient.Text

/-! ### Words -/

/-- Adds a character to the words of a text, the last of which stands in front. -/
def addToWords (found : List (List Char)) (c : Char) : List (List Char) :=
  if c = ' ' ∨ c = '\n' then [] :: found
  else
    match found with
    | [] => [[c]]
    | word :: rest => (c :: word) :: rest

/-- The words of a text. -/
def words (text : String) : List (List Char) :=
  (((text.toList.foldl addToWords []).filter (!·.isEmpty)).reverse).map List.reverse

/-! ### Ranges -/

/-- The characters from a first to a last, by number. -/
structure CharRange where
  /-- The number of the first. -/
  first : Nat
  /-- The number of the last. -/
  last : Nat
  deriving DecidableEq, Repr

namespace CharRange

/-- The range that a word spells: its ends, or a single character. -/
def ofWord (word : List Char) : CharRange :=
  match splitFirst '-' word with
  | some (first, last) => ⟨hexadecimal first, hexadecimal last⟩
  | none => ⟨hexadecimal word, hexadecimal word⟩

/-- A character lies in a range. -/
def contains (range : CharRange) (c : Char) : Bool :=
  range.first ≤ c.toNat && c.toNat ≤ range.last

end CharRange

/-- The ranges that the words of a text spell. -/
def ranges (text : String) : List CharRange :=
  (words text).map CharRange.ofWord

/-- A character lies in one of some ranges. -/
def inRanges (ranges : List CharRange) (c : Char) : Bool :=
  ranges.any (·.contains c)

/-- The characters whose numbers a text lists, with commas between them. -/
def listed (chars : List Char) : List Char :=
  ((splitAll ',' chars).filter (!·.isEmpty)).map fun digits => Char.ofNat (hexadecimal digits)

end ProxyClient.Text
