/-
ProxyClient/Proofs/Bind/Order.lean

What is bound after some calls.  Variables are told apart by their slots: the direction,
and the name up to the case of letters or the position.  Behind calls that bind and clear
there is one variable in each slot in which one was bound since the last clear, in the
order in which the slots were bound first, and it is the one that was bound last:

    (after changes).entries =
      ((bound changes).map slot).eraseDups.filterMap (latest? (bound changes))

In a message a variable has no slot but a name.  A text that is spelled like a position is
read as that position, so no name is spelled like one, and variables of one direction have
names that differ in more than the case of letters.  A server that looks a name up finds
the variable that is meant.
-/
import ProxyClient.Proofs.Message.Statement
import ProxyClient.Proofs.Text.Digits
import Mathlib.Data.List.Nodup

namespace ProxyClient

/-! ### Slots -/

/-- What keys are told apart by: the name up to the case of letters, or the position. -/
def BindKey.folded : BindKey → List Char ⊕ UInt16
  | name text => .inl (Text.fold text)
  | position n => .inr n

theorem BindKey.sameAs_iff {key key' : BindKey} :
    key.sameAs key' = true ↔ key.folded = key'.folded := by
  cases key <;> cases key' <;> simp [sameAs, folded]

/-- What variables are told apart by. -/
structure Slot where
  /-- The way the value travels. -/
  direction : BindDirection
  /-- The key. -/
  key : List Char ⊕ UInt16
  deriving DecidableEq

/-- The slot of a variable. -/
def Bind.slot (entry : Bind) : Slot :=
  ⟨entry.direction, entry.key.folded⟩

namespace BindSet

theorem bind_eq (set : BindSet) (new : Bind) :
    set.bind new = ⟨replaceFirst (·.slot == new.slot) new set.entries⟩ := by
  have same : (fun entry : Bind => decide (entry.direction = new.direction ∧
      entry.key.sameAs new.key = true)) = fun entry => entry.slot == new.slot := by
    funext entry
    rw [Bool.eq_iff_iff, decide_eq_true_iff, beq_iff_eq, BindKey.sameAs_iff, Bind.slot, Bind.slot,
      Slot.mk.injEq]
  rw [bind, ← same]

/-! ### What was bound -/

/-- A call that changes the bind variables. -/
inductive Change where
  /-- A variable is bound. -/
  | bind (call : BindCall)
  /-- All are removed. -/
  | clear

/-- The variables after a call. -/
def Change.apply (set : BindSet) : Change → BindSet
  | bind call => call.apply set
  | clear => set.clear

/-- The variables after some calls. -/
def after (changes : List Change) : BindSet :=
  changes.foldl Change.apply {}

/-- What was bound since the last clear, from what was so before a call. -/
def Change.boundBehind (earlier : List Bind) : Change → List Bind
  | bind call => earlier ++ [call.entry]
  | clear => []

/-- What was bound since the last clear. -/
def bound (changes : List Change) : List Bind :=
  changes.foldl Change.boundBehind []

/-- What was bound last in a slot. -/
def latest? (bound : List Bind) (slot : Slot) : Option Bind :=
  bound.reverse.find? (·.slot == slot)

theorem after_concat (changes : List Change) (change : Change) :
    after (changes ++ [change]) = change.apply (after changes) := by
  rw [after, List.foldl_append]
  rfl

theorem bound_concat (changes : List Change) (change : Change) :
    bound (changes ++ [change]) = change.boundBehind (bound changes) := by
  rw [bound, List.foldl_append]
  rfl

/-- Everything was bound by one of the calls. -/
theorem exists_call_of_mem_bound {changes : List Change} {entry : Bind}
    (member : entry ∈ bound changes) : ∃ call, .bind call ∈ changes ∧ entry = call.entry := by
  induction changes using List.reverseRecOn with
  | nil => exact absurd member List.not_mem_nil
  | append_singleton changes change ih =>
    rw [bound_concat] at member
    cases change with
    | clear => exact absurd member List.not_mem_nil
    | bind call =>
      rcases List.mem_append.mp member with old | new
      · obtain ⟨call', earlier, same⟩ := ih old
        exact ⟨call', List.mem_append_left _ earlier, same⟩
      · exact ⟨call, List.mem_append_right _ List.mem_cons_self, List.mem_singleton.mp new⟩

/-! ### Lists without repetitions -/

theorem eraseDups_concat {κ : Type} [DecidableEq κ] (keys : List κ) (key : κ) :
    (keys ++ [key]).eraseDups =
      if key ∈ keys then keys.eraseDups else keys.eraseDups ++ [key] := by
  rw [List.eraseDups_append]
  by_cases known : key ∈ keys <;> simp [List.removeAll, List.eraseDups_cons, known]

theorem nodup_eraseDups {κ : Type} [DecidableEq κ] (keys : List κ) : keys.eraseDups.Nodup := by
  induction keys using List.reverseRecOn with
  | nil => exact List.nodup_nil
  | append_singleton keys key ih =>
    rw [eraseDups_concat]
    split
    · exact ih
    · next new =>
      refine List.nodup_append.mpr ⟨ih, List.nodup_singleton key, fun known member last found => ?_⟩
      rw [List.mem_singleton.mp found]
      rintro rfl
      exact new (List.mem_eraseDups.mp member)

/-- Where no two are the same, everything is found as itself. -/
theorem find?_of_pairwise {α : Type} {same : α → α → Bool} (refl : ∀ entry, same entry entry = true)
    {entries : List α} (apart : entries.Pairwise fun a b => same a b = false) {entry : α}
    (member : entry ∈ entries) : entries.find? (same · entry) = some entry := by
  induction entries with
  | nil => exact absurd member List.not_mem_nil
  | cons first rest ih =>
    obtain ⟨others, apart'⟩ := List.pairwise_cons.mp apart
    rcases List.mem_cons.mp member with rfl | later
    · exact List.find?_cons_of_pos (refl entry)
    · rw [List.find?_cons_of_neg (by simp [others entry later])]
      exact ih apart' later

/-! ### What is kept -/

/-- One variable is kept in each slot, the one that was bound last. -/
structure Keeps (set : BindSet) (bound : List Bind) : Prop where
  /-- The slots are those that were bound, in the order of their first. -/
  slots : set.entries.map Bind.slot = (bound.map Bind.slot).eraseDups
  /-- In each stands what was bound there last. -/
  find? : ∀ slot, set.entries.find? (·.slot == slot) = latest? bound slot

namespace Keeps

variable {set : BindSet} {bound : List Bind}

theorem bind (h : set.Keeps bound) (new : Bind) : (set.bind new).Keeps (bound ++ [new]) where
  slots := by
    rw [bind_eq, map_replaceFirst, h.slots, List.map_append, List.map_singleton, eraseDups_concat]
    simp only [List.mem_eraseDups]
  find? slot := by
    rw [bind_eq, find?_replaceFirst, h.find?, latest?, latest?, List.reverse_append]
    by_cases same : new.slot = slot <;> simp [same]

theorem clear (set : BindSet) : set.clear.Keeps [] :=
  ⟨rfl, fun _ => rfl⟩

theorem apply (h : set.Keeps bound) (change : Change) :
    (change.apply set).Keeps (change.boundBehind bound) := by
  cases change with
  | bind call =>
    show (call.apply set).Keeps (bound ++ [call.entry])
    rw [call.apply_eq]
    exact h.bind call.entry
  | clear => exact clear set

/-- What the calls have bound is kept. -/
theorem after (changes : List Change) : (after changes).Keeps (BindSet.bound changes) := by
  induction changes using List.reverseRecOn with
  | nil => exact ⟨rfl, fun _ => rfl⟩
  | append_singleton changes change ih =>
    rw [after_concat, bound_concat]
    exact ih.apply change

theorem nodup (h : set.Keeps bound) : (set.entries.map Bind.slot).Nodup := by
  rw [h.slots]
  exact nodup_eraseDups _

/-- A variable is found in its slot. -/
theorem find?_slot (h : set.Keeps bound) {entry : Bind} (member : entry ∈ set.entries) :
    set.entries.find? (·.slot == entry.slot) = some entry := by
  have apart : set.entries.Pairwise fun a b => (a.slot == b.slot) = false :=
    (List.pairwise_map.mp h.nodup).imp fun {_ _} other => beq_eq_false_iff_ne.mpr other
  exact find?_of_pairwise (fun entry => beq_self_eq_true entry.slot) apart member

theorem entries_eq (h : set.Keeps bound) :
    set.entries = (bound.map Bind.slot).eraseDups.filterMap (latest? bound) := by
  rw [← h.slots, List.filterMap_map]
  have found : ∀ entry ∈ set.entries, (latest? bound ∘ Bind.slot) entry = some entry :=
    fun entry member => (h.find? entry.slot).symm.trans (h.find?_slot member)
  rw [List.filterMap_congr found, List.filterMap_some]

theorem mem_bound (h : set.Keeps bound) {entry : Bind} (member : entry ∈ set.entries) :
    entry ∈ bound := by
  have latest := (h.find? entry.slot).symm.trans (h.find?_slot member)
  exact List.mem_reverse.mp (List.mem_of_find?_eq_some latest)

/-- The new variable is there, and so are those of other slots. -/
theorem mem_bind (h : set.Keeps bound) {new entry : Bind}
    (known : entry = new ∨ entry ∈ set.entries ∧ entry.slot ≠ new.slot) :
    entry ∈ (set.bind new).entries := by
  have found : (set.bind new).entries.find? (·.slot == entry.slot) = some entry := by
    rw [bind_eq, find?_replaceFirst]
    rcases known with rfl | ⟨member, other⟩
    · exact if_pos rfl
    · rw [if_neg (Ne.symm other)]
      exact h.find?_slot member
  exact List.mem_of_find?_eq_some found

end Keeps

end BindSet

/-! ### Names in messages -/

namespace BindKey

/-- A key that was read from a text, or a position from 1 on. -/
def IsProper (key : BindKey) : Prop :=
  (∃ text, key = ofText text) ∨ ∃ n : UInt16, 0 < n.toNat ∧ key = position n

/-- A text is a name that is spelled like no position, or it is a position. -/
theorem ofText_cases (text : String) :
    (∃ name, ofText text = .name name ∧
      ∀ n, 0 < n → n < 65536 → name ≠ Text.decimal n) ∨
    ∃ n : UInt16, 0 < n.toNat ∧ ofText text = .position n := by
  by_cases number : ∃ n, 0 < n ∧ Text.natural? 65536 (withoutSigil text) = some n
  · obtain ⟨n, positive, read⟩ := number
    refine .inr ⟨UInt16.ofNat n, ?_, ofText_of_positive positive read⟩
    rwa [UInt16.toNat_ofNat', Nat.mod_eq_of_lt (Text.natural?_lt read)]
  · have unread : ∀ n, 0 < n → Text.natural? 65536 (withoutSigil text) ≠ some n :=
      fun n positive read => number ⟨n, positive, read⟩
    refine .inl ⟨_, ofText_of_not_positive unread, fun n positive small spelt => ?_⟩
    exact unread n positive (spelt ▸ Text.natural?_decimal small)

theorem IsProper.cases {key : BindKey} (proper : key.IsProper) :
    (∃ name, key = .name name ∧ ∀ n, 0 < n → n < 65536 → name ≠ Text.decimal n) ∨
    ∃ n : UInt16, 0 < n.toNat ∧ key = .position n := by
  rcases proper with ⟨text, rfl⟩ | position
  · exact ofText_cases text
  · exact .inr position

/-- A text that differs from a position in the case of letters at most is that position. -/
theorem eq_decimal_of_fold_eq {text : String} {n : Nat}
    (same : Text.fold text = Text.fold (Text.decimal n)) : text = Text.decimal n :=
  Text.eq_of_fold_eq
    (fun _ member => Text.toNat_lt_of_isDigit (Text.isDigit_of_mem_decimal member)) same

/-- **Keys have the same name in a message only if they are the same**, though a name and a
position are written alike. -/
theorem fold_wireName_iff {key key' : BindKey} (proper : key.IsProper) (proper' : key'.IsProper) :
    Text.fold key.wireName = Text.fold key'.wireName ↔ key.folded = key'.folded := by
  rcases proper.cases with ⟨name, rfl, unlike⟩ | ⟨n, positive, rfl⟩ <;>
    rcases proper'.cases with ⟨name', rfl, unlike'⟩ | ⟨n', positive', rfl⟩
  · exact Sum.inl.inj_iff.symm
  · -- a name that is spelled like a position would have been read as the position
    refine iff_of_false (fun same => ?_) (by simp [folded])
    exact unlike n'.toNat positive' n'.toNat_lt (eq_decimal_of_fold_eq same)
  · refine iff_of_false (fun same => ?_) (by simp [folded])
    exact unlike' n.toNat positive n.toNat_lt (eq_decimal_of_fold_eq same.symm)
  · refine Iff.trans ⟨fun same => ?_, fun same => ?_⟩ Sum.inr.inj_iff.symm
    · exact UInt16.toNat_inj.mp (Text.decimal_inj.mp (eq_decimal_of_fold_eq same))
    · rw [same]

end BindKey

namespace BindSet

/-- Variables of one direction have names that differ in more than the case of letters. -/
theorem Keeps.names_differ {set : BindSet} {bound : List Bind} (h : set.Keeps bound)
    (proper : ∀ entry ∈ set.entries, entry.key.IsProper) :
    set.entries.Pairwise fun a b => a.direction = b.direction →
      Text.fold a.key.wireName ≠ Text.fold b.key.wireName := by
  refine (List.pairwise_map.mp h.nodup).imp_of_mem ?_
  intro a b memberA memberB other direction same
  have keys := (BindKey.fold_wireName_iff (proper a memberA) (proper b memberB)).mp same
  exact other (congrArg₂ Slot.mk direction keys)

/-- Two variables look the same to who looks for a name. -/
def lookAlike (a b : Bind) : Bool :=
  decide (a.direction = b.direction) && Text.sameName a.key.wireName b.key.wireName

/-- Who looks for the name of a variable finds the variable. -/
theorem Keeps.find?_lookAlike {set : BindSet} {bound : List Bind} (h : set.Keeps bound)
    (proper : ∀ entry ∈ set.entries, entry.key.IsProper) {entry : Bind}
    (member : entry ∈ set.entries) : set.entries.find? (lookAlike · entry) = some entry := by
  have apart : set.entries.Pairwise fun a b => lookAlike a b = false := by
    refine (h.names_differ proper).imp fun {a b} differ => Bool.eq_false_iff.mpr fun both => ?_
    obtain ⟨direction, same⟩ := Bool.and_eq_true_iff.mp both
    exact differ (of_decide_eq_true direction) (Text.sameName_iff.mp same)
  exact find?_of_pairwise (fun entry => by simp [lookAlike]) apart member

/-! ### The headline -/

/-- **Behind any calls each slot that was bound since the last clear has one variable, the
last of it, in the order of the first ones.**  Variables of the two directions do not
displace each other.  If the keys are proper, a name in a message belongs to one variable
of its direction. -/
theorem entries_after (changes : List Change) :
    (after changes).entries =
        ((bound changes).map Bind.slot).eraseDups.filterMap (latest? (bound changes)) ∧
      (after changes).entries.map Bind.slot = ((bound changes).map Bind.slot).eraseDups ∧
      ((after changes).entries.map Bind.slot).Nodup ∧
      (∀ call : BindCall, call.entry ∈ (after (changes ++ [.bind call])).entries ∧
        ∀ entry ∈ (after changes).entries, entry.direction ≠ call.entry.direction →
          entry ∈ (after (changes ++ [.bind call])).entries) ∧
      ((∀ call, .bind call ∈ changes → call.entry.key.IsProper) →
        ((after changes).entries.Pairwise fun a b => a.direction = b.direction →
          Text.fold a.key.wireName ≠ Text.fold b.key.wireName) ∧
        ∀ entry ∈ (after changes).entries,
          (after changes).entries.find? (lookAlike · entry) = some entry) := by
  have keeps := Keeps.after changes
  refine ⟨keeps.entries_eq, keeps.slots, keeps.nodup, fun call => ?_, fun proper => ?_⟩
  · rw [after_concat, Change.apply, call.apply_eq]
    refine ⟨keeps.mem_bind (.inl rfl), fun entry member apart => keeps.mem_bind (.inr ⟨member, ?_⟩)⟩
    exact fun same => apart (congrArg Slot.direction same)
  · have proper' : ∀ entry ∈ (after changes).entries, entry.key.IsProper := by
      intro entry member
      obtain ⟨call, called, rfl⟩ := exists_call_of_mem_bound (keeps.mem_bound member)
      exact proper call called
    exact ⟨keeps.names_differ proper', fun entry member => keeps.find?_lookAlike proper' member⟩

/-- The name `a` is bound for input, and for output; then a position, and `A` for input in
the place of `a`.  What was bound before the clear is gone. -/
theorem entries_after_rebound :
    let changes : List Change :=
      [.bind (.input (.ofText "x") .null), .clear, .bind (.input (.ofText ":a") (.integer 1)),
        .bind (.output (.ofText "@A") .string 9), .bind (.input (.position 1) .null),
        .bind (.input (.ofText "A") (.integer 2))]
    let entries : List Bind :=
      [⟨.name "A", .integer 2, .input, .integer, 0⟩, ⟨.name "A", .null, .output, .string, 9⟩,
        ⟨.position 1, .null, .input, .null, 0⟩]
    (∀ call, .bind call ∈ changes → call.entry.key.IsProper) ∧
      (after changes).entries = entries ∧
      ∀ entry ∈ entries, entries.find? (lookAlike · entry) = some entry := by
  intro changes entries
  have proper : ∀ call, .bind call ∈ changes → call.entry.key.IsProper := by
    intro call called
    simp only [changes, List.mem_cons, Change.bind.injEq, reduceCtorEq, List.not_mem_nil,
      false_or, or_false] at called
    rcases called with rfl | rfl | rfl | rfl | rfl
    · exact .inl ⟨"x", rfl⟩
    · exact .inl ⟨":a", rfl⟩
    · exact .inl ⟨"@A", rfl⟩
    · exact .inr ⟨1, by decide, rfl⟩
    · exact .inl ⟨"A", rfl⟩
  have built : (after changes).entries = entries := by decide +kernel
  refine ⟨proper, built, ?_⟩
  rw [← built]
  exact ((entries_after changes).2.2.2.2 proper).2

end BindSet

end ProxyClient
