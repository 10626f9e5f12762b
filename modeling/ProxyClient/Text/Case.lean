/-
ProxyClient/Text/Case.lean

Comparing names.  Names differ in case freely, but only among the letters
`A` to `Z`: other alphabets are compared as they stand.
-/

namespace ProxyClient.Text

/-- A text with the letters `A` to `Z` made small. -/
def fold (text : String) : List Char :=
  text.toList.map Char.toLower

/-- Two names are the same up to the case of the letters `A` to `Z`. -/
def sameName (a b : String) : Bool :=
  fold a == fold b

@[simp] theorem sameName_iff {a b : String} : sameName a b = true ↔ fold a = fold b := by
  simp [sameName]

/-- Whether `part` stands somewhere inside `whole`. -/
def occursIn (part : List Char) : List Char → Bool
  | [] => part.isEmpty
  | whole@(_ :: rest) => part.isPrefixOf whole || occursIn part rest

end ProxyClient.Text
