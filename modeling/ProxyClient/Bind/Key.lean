/-
ProxyClient/Bind/Key.lean

How a bind variable names its placeholder: by name, or by position.
-/
import ProxyClient.Text.Case
import ProxyClient.Text.Numeral

namespace ProxyClient

/-- A text without the `:` or `@` that may stand in front of a placeholder name. -/
def withoutSigil (text : String) : String :=
  match text.toList with
  | c :: rest => if c = ':' ∨ c = '@' then String.ofList rest else text
  | [] => text

/-- The key of a bind variable. -/
inductive BindKey where
  /-- The name of a placeholder such as `:name`, without the sigil. -/
  | name (text : String)
  /-- The number of a placeholder such as `?`, `$1` or `:1`. -/
  | position (n : UInt16)
  deriving DecidableEq, Repr

namespace BindKey

/-- The key that a text stands for, a sigil in front being optional: a
position if it is a positive number below 65536, and otherwise a name. -/
def ofText (text : String) : BindKey :=
  let bare := withoutSigil text
  match Text.natural? 65536 bare with
  | some n => if 0 < n then position (UInt16.ofNat n) else name bare
  | none => name bare

-- These unfold the definition by `delta`: its equation is found by evaluating the bound.

theorem ofText_congr {text text' : String} (same : withoutSigil text = withoutSigil text') :
    ofText text = ofText text' := by
  delta ofText
  rw [same]

theorem ofText_of_positive {text : String} {n : Nat} (positive : 0 < n)
    (read : Text.natural? 65536 (withoutSigil text) = some n) :
    ofText text = position (UInt16.ofNat n) := by
  delta ofText
  dsimp only
  rw [read]
  exact if_pos positive

theorem ofText_of_not_positive {text : String}
    (read : ∀ n, 0 < n → Text.natural? 65536 (withoutSigil text) ≠ some n) :
    ofText text = name (withoutSigil text) := by
  delta ofText
  dsimp only
  split
  · next n number => exact if_neg fun positive => read n positive number
  · rfl

/-- The key as it is sent: the name, or the position in decimal. -/
def wireName : BindKey → String
  | name text => text
  | position n => Text.decimal n.toNat

/-- The same placeholder is meant.  Names are compared up to the case of letters. -/
def sameAs : BindKey → BindKey → Bool
  | name a, name b => Text.sameName a b
  | position a, position b => a == b
  | _, _ => false

end BindKey

end ProxyClient
