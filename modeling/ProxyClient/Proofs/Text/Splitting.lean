/-
ProxyClient/Proofs/Text/Splitting.lean

Cutting at a separator.  Where a list is cut is told by the parts: with the separator
between them they make up the list, and the part in front of its first place does not hold
it, nor does the part behind its last place:

    splitFirst sep list = some (front, back)  ↔  list = front ++ sep :: back ∧ sep ∉ front
    splitLast sep list = some (front, back)   ↔  list = front ++ sep :: back ∧ sep ∉ back

A list is not cut if it does not hold the separator.
-/
import ProxyClient.Text.Split
import Mathlib.Data.List.Basic

namespace ProxyClient.Text

variable {α : Type} [DecidableEq α] {sep : α} {list front back : List α}

/-! ### At the first place -/

theorem splitFirst_append (notIn : sep ∉ front) (back : List α) :
    splitFirst sep (front ++ sep :: back) = some (front, back) := by
  induction front with
  | nil => exact if_pos rfl
  | cons c front ih =>
    obtain ⟨other, others⟩ := not_or.mp (List.mem_cons.not.mp notIn)
    rw [List.cons_append, splitFirst, if_neg (Ne.symm other), ih others]
    rfl

theorem splitFirst_eq_none (notIn : sep ∉ list) : splitFirst sep list = none := by
  induction list with
  | nil => rfl
  | cons c list ih =>
    obtain ⟨other, others⟩ := not_or.mp (List.mem_cons.not.mp notIn)
    rw [splitFirst, if_neg (Ne.symm other), ih others]
    rfl

theorem splitFirst_eq_some_iff :
    splitFirst sep list = some (front, back) ↔ list = front ++ sep :: back ∧ sep ∉ front := by
  refine ⟨fun cut => ?_, fun ⟨whole, notIn⟩ => whole ▸ splitFirst_append notIn back⟩
  have mem : sep ∈ list := by
    by_contra notIn
    rw [splitFirst_eq_none notIn] at cut
    contradiction
  obtain ⟨front', back', whole, notIn⟩ := List.eq_append_cons_of_mem mem
  rw [whole, splitFirst_append notIn] at cut
  obtain ⟨rfl, rfl⟩ := Prod.mk.inj (Option.some.inj cut)
  exact ⟨whole, notIn⟩

/-! ### At the last place -/

theorem splitLast_eq_none (notIn : sep ∉ list) : splitLast sep list = none := by
  induction list with
  | nil => rfl
  | cons c list ih =>
    obtain ⟨other, others⟩ := not_or.mp (List.mem_cons.not.mp notIn)
    rw [splitLast, ih others]
    exact if_neg (Ne.symm other)

theorem splitLast_append (front : List α) (notIn : sep ∉ back) :
    splitLast sep (front ++ sep :: back) = some (front, back) := by
  induction front with
  | nil =>
    rw [List.nil_append, splitLast, splitLast_eq_none notIn]
    exact if_pos rfl
  | cons c front ih => rw [List.cons_append, splitLast, ih]

theorem splitLast_eq_some_iff :
    splitLast sep list = some (front, back) ↔ list = front ++ sep :: back ∧ sep ∉ back := by
  refine ⟨fun cut => ?_, fun ⟨whole, notIn⟩ => whole ▸ splitLast_append front notIn⟩
  have mem : sep ∈ list := by
    by_contra notIn
    rw [splitLast_eq_none notIn] at cut
    contradiction
  -- its last place is the first one from behind
  obtain ⟨back', front', whole, notIn⟩ := List.eq_append_cons_of_mem (List.mem_reverse.mpr mem)
  have whole' : list = front'.reverse ++ sep :: back'.reverse := by
    simpa using congrArg List.reverse whole
  have notIn' : sep ∉ back'.reverse := fun member => notIn (List.mem_reverse.mp member)
  rw [whole', splitLast_append _ notIn'] at cut
  obtain ⟨rfl, rfl⟩ := Prod.mk.inj (Option.some.inj cut)
  exact ⟨whole', notIn'⟩

/-! ### At every place -/

theorem splitAll_of_notMem (notIn : sep ∉ list) : splitAll sep list = [list] := by
  induction list with
  | nil => rfl
  | cons c list ih =>
    obtain ⟨other, others⟩ := not_or.mp (List.mem_cons.not.mp notIn)
    rw [splitAll, if_neg (Ne.symm other), ih others]

end ProxyClient.Text
