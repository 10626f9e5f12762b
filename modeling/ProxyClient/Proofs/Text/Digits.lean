/-
ProxyClient/Proofs/Text/Digits.lean

Texts that are made of digits: the case of letters is nothing to them, and what they are
read as is the number that they spell.  A number that is written in decimal is read as
itself, and of the texts that are read as a positive number its decimal is the one that
begins with neither a sign nor a zero.
-/
import ProxyClient.Text.Case
import ProxyClient.Text.Numeral
import Mathlib.Data.List.Basic
import Mathlib.Data.List.Induction

namespace ProxyClient.Text

/-! ### Case -/

theorem toNat_of_isDigit {digit : Char} (isDigit : digit.isDigit = true) :
    48 ≤ digit.toNat ∧ digit.toNat ≤ 57 := by
  simp only [Char.isDigit, Bool.and_eq_true, decide_eq_true_eq] at isDigit
  exact isDigit

/-- Digits stand in front of the letters. -/
theorem toNat_lt_of_isDigit {digit : Char} (isDigit : digit.isDigit = true) :
    digit.toNat < 65 := by
  have last := (toNat_of_isDigit isDigit).2
  omega

theorem toLower_of_lt {c : Char} (early : c.toNat < 65) : c.toLower = c := by
  refine dif_neg fun capital => ?_
  have letter : 65 ≤ c.toNat := capital.1
  omega

/-- The characters in front of the letters have no other case. -/
theorem eq_of_toLower_eq {c sign : Char} (early : sign.toNat < 65) (same : c.toLower = sign) :
    c = sign := by
  by_cases capital : c.val ≥ 'A'.val ∧ c.val ≤ 'Z'.val
  · -- a capital letter becomes a small one, and these stand behind the capital ones
    have low : 65 ≤ c.toNat := capital.1
    have high : c.toNat ≤ 90 := capital.2
    have lowered : c.toLower.val = c.val + ('a'.val - 'A'.val) := congrArg Char.val (dif_pos capital)
    have small : (c.toNat + 32) % 2 ^ 32 = sign.toNat := by
      rw [← same]
      exact (UInt32.toNat_add ..).symm.trans (congrArg UInt32.toNat lowered).symm
    omega
  · have unchanged : c.toLower = c := dif_neg capital
    exact unchanged.symm.trans same

theorem eq_of_map_toLower_eq {letters signs : List Char} (early : ∀ c ∈ signs, c.toNat < 65)
    (same : letters.map Char.toLower = signs.map Char.toLower) : letters = signs := by
  induction letters generalizing signs with
  | nil => exact (List.map_eq_nil_iff.mp same.symm).symm
  | cons c letters ih =>
    cases signs with
    | nil => exact absurd same (List.cons_ne_nil _ _)
    | cons sign signs =>
      obtain ⟨first, others⟩ := List.forall_mem_cons.mp early
      obtain ⟨head, tail⟩ := List.cons.inj same
      rw [eq_of_toLower_eq first (head.trans (toLower_of_lt first)), ih others tail]

/-- A text that is the same as one without letters is that text. -/
theorem eq_of_fold_eq {text signs : String} (early : ∀ c ∈ signs.toList, c.toNat < 65)
    (same : fold text = fold signs) : text = signs :=
  String.toList_inj.mp (eq_of_map_toLower_eq early same)

/-! ### Numbers -/

/-- Without a sign a text is read as the number that its digits spell. -/
theorem natural?_ofList {bound : Nat} {chars : List Char} (nonempty : chars ≠ [])
    (unsigned : chars.head? ≠ some '+') :
    natural? bound (String.ofList chars) =
      if chars.all Char.isDigit ∧ Nat.ofDigitChars 10 chars 0 < bound then
        some (Nat.ofDigitChars 10 chars 0)
      else none := by
  -- without a sign in front all characters are digits, or it is no number
  have read : natural? bound (String.ofList chars) = (digits? chars).filter (· < bound) := by
    rw [natural?, String.toList_ofList]
    split
    · exact absurd rfl unsigned
    · rfl
  have digits : digits? chars =
      if chars.all Char.isDigit then some (Nat.ofDigitChars 10 chars 0) else none := by
    show (if _ ∧ _ then some (Nat.ofDigitChars 10 chars 0) else none) = _
    by_cases all : chars.all Char.isDigit = true
    · rw [if_pos ⟨nonempty, all⟩, if_pos all]
    · rw [if_neg fun both => all both.2, if_neg all]
  rw [read, digits]
  by_cases all : chars.all Char.isDigit = true
  · simp [all, Option.filter_some]
  · simp [all]

theorem natural?_lt {bound n : Nat} {text : String} (read : natural? bound text = some n) :
    n < bound := by
  rw [natural?, Option.filter_eq_some_iff] at read
  exact of_decide_eq_true read.2

theorem isDigit_of_digits? {chars : List Char} {n : Nat} (read : digits? chars = some n) {c : Char}
    (member : c ∈ chars) : c.isDigit = true := by
  rw [digits?] at read
  split at read
  · next both => exact List.all_eq_true.mp both.2 c member
  · contradiction

/-- What is read as a number holds signs and digits only. -/
theorem sign_or_isDigit_of_natural? {bound n : Nat} {text : String}
    (read : natural? bound text = some n) {c : Char} (member : c ∈ text.toList) :
    c = '+' ∨ c.isDigit = true := by
  rw [natural?, Option.filter_eq_some_iff] at read
  have digits := read.1
  split at digits
  · next rest signed =>
    rw [signed] at member
    exact (List.mem_cons.mp member).imp_right (isDigit_of_digits? digits)
  · exact .inr (isDigit_of_digits? digits member)

/-- What is neither a sign nor a digit is not in a numeral. -/
theorem notMem_of_natural? {bound n : Nat} {numeral : List Char}
    (read : natural? bound (String.ofList numeral) = some n) {c : Char}
    (other : c ≠ '+' ∧ c.isDigit = false) : c ∉ numeral := by
  intro member
  rw [← String.toList_ofList (l := numeral)] at member
  rcases sign_or_isDigit_of_natural? read member with sign | isDigit
  · exact other.1 sign
  · exact absurd (isDigit.symm.trans other.2) (by decide)

/-- Digits spell zero if each of them is a zero. -/
theorem ofDigitChars_eq_zero_iff {digits : List Char}
    (allDigits : ∀ c ∈ digits, c.isDigit = true) :
    Nat.ofDigitChars 10 digits 0 = 0 ↔ ∀ c ∈ digits, c = '0' := by
  induction digits with
  | nil => simp
  | cons digit digits ih =>
    have zero : digit.toNat - '0'.toNat = 0 ↔ digit = '0' := by
      have low := (toNat_of_isDigit (allDigits digit List.mem_cons_self)).1
      have first : '0'.toNat = 48 := rfl
      rw [← Char.toNat_inj, first]
      omega
    rw [Nat.ofDigitChars_cons, Nat.ofDigitChars_eq_ofDigitChars_zero, Nat.mul_zero, Nat.zero_add,
      Nat.add_eq_zero_iff, Nat.mul_eq_zero, List.forall_mem_cons, zero,
      ih fun c member => allDigits c (List.mem_cons_of_mem _ member)]
    simp

theorem digitChar_of_isDigit {digit : Char} (isDigit : digit.isDigit = true) :
    Nat.digitChar (digit.toNat - '0'.toNat) = digit := by
  obtain ⟨low, high⟩ := toNat_of_isDigit isDigit
  have digits : ∀ n < 10, (Nat.digitChar n).toNat = 48 + n := by decide
  have zero : '0'.toNat = 48 := rfl
  rw [← Char.toNat_inj, digits _ (by omega)]
  omega

theorem isDigit_of_mem_decimal {n : Nat} {c : Char} (member : c ∈ (decimal n).toList) :
    c.isDigit = true := by
  rw [decimal, String.toList_ofList] at member
  exact Nat.isDigit_of_mem_toDigits (by decide) (by decide) member

/-- A number in decimal is read as itself. -/
theorem natural?_decimal {bound n : Nat} (small : n < bound) :
    natural? bound (decimal n) = some n := by
  have allDigits : ∀ c ∈ Nat.toDigits 10 n, c.isDigit = true := fun c member =>
    Nat.isDigit_of_mem_toDigits (by decide) (by decide) member
  have unsigned : (Nat.toDigits 10 n).head? ≠ some '+' := fun head =>
    absurd (allDigits '+' (List.mem_of_head? head)) (by decide)
  rw [decimal, natural?_ofList Nat.toDigits_ne_nil unsigned, Nat.ofDigitChars_ten_toDigits,
    if_pos ⟨List.all_eq_true.mpr allDigits, small⟩]

/-- Digits of which the first is not a zero are those of their number. -/
theorem toDigits_ofDigitChars {digits : List Char} (nonempty : digits ≠ [])
    (allDigits : ∀ c ∈ digits, c.isDigit = true) (unpadded : digits.head? ≠ some '0') :
    Nat.toDigits 10 (Nat.ofDigitChars 10 digits 0) = digits := by
  -- the last digit is split off; what stands in front of it is no zero either
  induction digits using List.reverseRecOn with
  | nil => exact absurd rfl nonempty
  | append_singleton front digit ih =>
    have isDigit := allDigits digit (by simp)
    have small : digit.toNat - '0'.toNat < 10 := by
      have last := (toNat_of_isDigit isDigit).2
      have zero : '0'.toNat = 48 := rfl
      omega
    have single : Nat.toDigits 10 (digit.toNat - '0'.toNat) = [digit] := by
      rw [Nat.toDigits_of_lt_base small, digitChar_of_isDigit isDigit]
    rw [Nat.ofDigitChars_append, Nat.ofDigitChars_cons, Nat.ofDigitChars_nil]
    by_cases alone : front = []
    · rw [alone, Nat.ofDigitChars_nil, Nat.mul_zero, Nat.zero_add, single, List.nil_append]
    · have digitsFront : ∀ c ∈ front, c.isDigit = true := fun c member =>
        allDigits c (List.mem_append_left _ member)
      have first : front.head? ≠ some '0' := by
        rwa [List.head?_append_of_ne_nil _ alone] at unpadded
      have positive : 0 < Nat.ofDigitChars 10 front 0 := by
        refine Nat.pos_of_ne_zero fun zero => first ?_
        have zeros := (ofDigitChars_eq_zero_iff digitsFront).mp zero
        rw [List.head?_eq_some_head alone, zeros _ (List.head_mem alone)]
      rw [← Nat.toDigits_append_toDigits (by decide) positive small, ih alone digitsFront first,
        single]

/-- The first digit of a positive number is not a zero. -/
theorem head?_toDigits_ne {n : Nat} (positive : 0 < n) : (Nat.toDigits 10 n).head? ≠ some '0' := by
  induction n using Nat.strongRecOn with
  | ind n ih =>
    by_cases small : n < 10
    · have digits : ∀ n < 10, 0 < n → Nat.digitChar n ≠ '0' := by decide
      rw [Nat.toDigits_of_lt_base small]
      exact fun zero => digits n small positive (Option.some.inj zero)
    · rw [Nat.toDigits_of_base_le (by decide) (Nat.le_of_not_lt small),
        List.head?_append_of_ne_nil _ Nat.toDigits_ne_nil]
      exact ih (n / 10) (by omega) (by omega)

/-- A text that is read as a positive number is its decimal, unless a sign or a zero stands
in front. -/
theorem eq_decimal_iff {bound n : Nat} {text : String} (read : natural? bound text = some n)
    (positive : 0 < n) :
    text = decimal n ↔ text.toList.head? ≠ some '+' ∧ text.toList.head? ≠ some '0' := by
  constructor
  · rintro rfl
    refine ⟨fun sign => ?_, ?_⟩
    · exact absurd (isDigit_of_mem_decimal (List.mem_of_head? sign)) (by decide)
    · rw [decimal, String.toList_ofList]
      exact head?_toDigits_ne positive
  · -- the digits that were read are the ones that are written
    rintro ⟨unsigned, unpadded⟩
    have nonempty : text.toList ≠ [] := by
      intro empty
      rw [natural?, empty] at read
      contradiction
    rw [← String.ofList_toList (s := text), natural?_ofList nonempty unsigned] at read
    split at read
    · next digits =>
      obtain rfl := Option.some.inj read
      rw [decimal, toDigits_ofDigitChars nonempty (List.all_eq_true.mp digits.1) unpadded,
        String.ofList_toList]
    · contradiction

theorem decimal_inj {m n : Nat} : decimal m = decimal n ↔ m = n := by
  refine ⟨fun same => ?_, fun same => same ▸ rfl⟩
  have digits := congrArg (Nat.ofDigitChars 10 · 0) (String.ofList_injective same)
  simpa only [Nat.ofDigitChars_ten_toDigits] using digits

end ProxyClient.Text
