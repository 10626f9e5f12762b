/-
ProxyClient/Text/Split.lean

Cutting a list at a separator: at its first place, at its last place, or at
every place; and cutting a piece out of a text, by places in its bytes.
-/

namespace ProxyClient.Text

variable {α : Type} [DecidableEq α]

/-- The parts before and after the first `sep`; nothing if there is none. -/
def splitFirst (sep : α) : List α → Option (List α × List α)
  | [] => none
  | c :: rest =>
    if c = sep then some ([], rest)
    else (splitFirst sep rest).map fun (before, after) => (c :: before, after)

/-- The parts before and after the last `sep`; nothing if there is none. -/
def splitLast (sep : α) : List α → Option (List α × List α)
  | [] => none
  | c :: rest =>
    match splitLast sep rest with
    | some (before, after) => some (c :: before, after)
    | none => if c = sep then some ([], rest) else none

/-- The parts between all places of `sep`; at least one. -/
def splitAll (sep : α) : List α → List (List α)
  | [] => [[]]
  | c :: rest =>
    if c = sep then [] :: splitAll sep rest
    else
      match splitAll sep rest with
      | [] => [[c]]
      | part :: parts => (c :: part) :: parts

/-- The part of a text between two places, which are counted in its bytes;
nothing if they are out of order, or if one of them is inside a letter or
behind the end. -/
def cut? (text : String) (start stop : Nat) : Option String :=
  if h : String.Pos.Raw.IsValid text ⟨start⟩ ∧ String.Pos.Raw.IsValid text ⟨stop⟩ ∧ start ≤ stop then
    some (text.extract ⟨⟨start⟩, h.1⟩ ⟨⟨stop⟩, h.2.1⟩)
  else none

/-- What stands between two other texts is cut out by their sizes. -/
theorem cut?_append (front part back : String) :
    cut? (front ++ part ++ back) front.utf8ByteSize (front.utf8ByteSize + part.utf8ByteSize) =
      some part := by
  -- both places are borders of characters
  have start : String.Pos.Raw.IsValid (front ++ part ++ back) ⟨front.utf8ByteSize⟩ :=
    String.Pos.Raw.isValid_iff_exists_append.mpr ⟨front, part ++ back, String.append_assoc .., rfl⟩
  have size : (front ++ part).utf8ByteSize = front.utf8ByteSize + part.utf8ByteSize :=
    String.utf8ByteSize_append
  have stop : String.Pos.Raw.IsValid (front ++ part ++ back)
      ⟨front.utf8ByteSize + part.utf8ByteSize⟩ :=
    String.Pos.Raw.isValid_iff_exists_append.mpr
      ⟨front ++ part, back, rfl, congrArg String.Pos.Raw.mk size.symm⟩
  rw [cut?, dif_pos ⟨start, stop, Nat.le_add_right _ _⟩]
  refine congrArg some (String.toByteArray_inj.mp ?_)
  rw [String.toByteArray_extract, String.toByteArray_append, ByteArray.extract_append]
  have behind : back.toByteArray.extract (front.utf8ByteSize - (front ++ part).toByteArray.size)
      (front.utf8ByteSize + part.utf8ByteSize - (front ++ part).toByteArray.size) = .empty := by
    rw [ByteArray.extract_eq_empty_iff, String.size_toByteArray, size, Nat.sub_self]
    exact Nat.le_trans (Nat.min_le_left _ _) (Nat.zero_le _)
  simp only
  rw [behind, ByteArray.append_empty, String.toByteArray_append]
  exact ByteArray.extract_append_eq_right String.size_toByteArray.symm
    (by rw [String.size_toByteArray, String.size_toByteArray])

end ProxyClient.Text
