/-
ProxyClient/Proofs/Bind/Keys.lean

Which bind variables pass the check of a statement.  A key is read from a text, and a
placeholder from a statement, and each of the two decides for itself whether it is a
name or a position:

    text of the key       key             placeholder    found
    "id", ":id", "@id"    name id         :id, @id       name id
    "7", ":007"           position 7      :7, @007       position 7
    "70000"               name 70000      :70000         name 70000
    "0", ":00"            name 0, 00      :0, :00        position 0

They agree but for the number zero (`contains_ofText_iff`): it is a name to the one and
a position to the other.  So a variable whose placeholder stands in the statement passes
unless it is called zero (`BindSet.passes_standing`).
-/
import ProxyClient.Bind.Set
import ProxyClient.Proofs.Bind.Scanning

namespace ProxyClient

namespace Statement

open Placeholders (isNameChar scan)

/-! ### What is contained -/

theorem le_foldr_max {n : Nat} {numbers : List Nat} (member : n ∈ numbers) :
    n ≤ numbers.foldr max 0 := by
  induction numbers with
  | nil => exact absurd member List.not_mem_nil
  | cons number numbers ih =>
    rcases List.mem_cons.mp member with rfl | later
    · exact Nat.le_max_left _ _
    · exact (ih later).trans (Nat.le_max_right _ _)

/-- A position that is named is not above the highest. -/
theorem le_highest {pieces : List Piece} {sigil : Char} {ident : List Char} {n : Nat}
    (stands : .placeholder sigil ident ∈ pieces) (numbered : position? ident = some n) :
    n ≤ highest pieces :=
  (le_foldr_max (List.mem_filterMap.mpr ⟨_, stands, numbered⟩)).trans (Nat.le_max_right _ _)

theorem contains_position_iff {sql : String} {pieces : List Piece} (h : Reads sql.toList pieces)
    (n : UInt16) : (scan sql).contains (.position n) = true ↔ n.toNat ≤ highest pieces := by
  rw [scan_of_reads h]
  exact decide_eq_true_iff

/-- The piece is the placeholder of a name. -/
def Piece.Names (text : String) : Piece → Prop
  | placeholder sigil ident =>
    (sigil = ':' ∨ sigil = '@') ∧ Text.sameName (String.ofList ident) text = true
  | _ => False

instance (text : String) : (piece : Piece) → Decidable (piece.Names text)
  | .placeholder sigil ident =>
    inferInstanceAs (Decidable ((sigil = ':' ∨ sigil = '@') ∧
      Text.sameName (String.ofList ident) text = true))
  | .literal .. | .unclosed .. | .cast | .anonymous | .letter .. => instDecidableFalse

theorem Piece.Names.exists_eq {text : String} {piece : Piece} (names : piece.Names text) :
    ∃ sigil ident, piece = .placeholder sigil ident ∧ (sigil = ':' ∨ sigil = '@') ∧
      Text.sameName (String.ofList ident) text = true := by
  cases piece with
  | placeholder sigil ident => exact ⟨sigil, ident, rfl, names⟩
  | _ => exact absurd names id

/-- The placeholder of a key stands in a statement: its name, or its number, or as many
`?` as its number says. -/
def Stands (pieces : List Piece) : BindKey → Prop
  | .name text => ∃ piece ∈ pieces, piece.Names text
  | .position n =>
    (0 < n.toNat ∧ n.toNat ≤ pieces.count .anonymous) ∨
      ∃ piece ∈ pieces, piece.position? = some n.toNat

instance (pieces : List Piece) : (key : BindKey) → Decidable (Stands pieces key)
  | .name text => inferInstanceAs (Decidable (∃ piece ∈ pieces, piece.Names text))
  | .position n =>
    inferInstanceAs (Decidable ((0 < n.toNat ∧ n.toNat ≤ pieces.count .anonymous) ∨
      ∃ piece ∈ pieces, piece.position? = some n.toNat))

/-- A name is contained if it stands there and is not read as a position. -/
theorem contains_name_iff {sql : String} {pieces : List Piece} (h : Reads sql.toList pieces)
    (text : String) :
    (scan sql).contains (.name text) = true ↔
      ∃ piece ∈ pieces, piece.position? = none ∧ piece.Names text := by
  have summed : (scan sql).contains (.name text) =
      (pieces.filterMap Piece.name?).any (Text.sameName · text) := by rw [scan_of_reads h]; rfl
  rw [summed, List.any_eq_true]
  constructor
  · -- only a placeholder puts a name there
    rintro ⟨name, found, same⟩
    obtain ⟨piece, member, named⟩ := List.mem_filterMap.mp found
    refine ⟨piece, member, ?_⟩
    cases piece with
    | placeholder sigil ident =>
      obtain ⟨rest, sigiled, -⟩ := h.exists_fits member
      rw [Piece.name?] at named
      split at named
      · contradiction
      · next plain =>
        obtain ⟨other, unnumbered⟩ := not_or.mp plain
        rw [← Option.some.inj named] at same
        have introduces : (sigil = ':' ∨ sigil = '@') ∨ sigil = '$' := by
          simpa [isSigil] using sigiled
        exact ⟨Option.not_isSome_iff_eq_none.mp unnumbered, introduces.resolve_right other, same⟩
    | _ => exact absurd named (by simp [Piece.name?])
  · -- one that is named, and has no number
    rintro ⟨piece, member, unnumbered, names⟩
    obtain ⟨sigil, ident, rfl, introduces, same⟩ := Piece.Names.exists_eq names
    refine ⟨String.ofList ident, List.mem_filterMap.mpr ⟨_, member, ?_⟩, same⟩
    have other : sigil ≠ '$' := by
      rcases introduces with rfl | rfl <;> decide
    rw [Piece.position?] at unnumbered
    rw [Piece.name?, if_neg (by simp [other, unnumbered])]

/-- What does not stand in a statement is not contained, unless it is a position below the
highest. -/
theorem not_contains_of_not_stands {sql : String} {pieces : List Piece}
    (h : Reads sql.toList pieces) {key : BindKey} (absent : ¬ Stands pieces key)
    (above : ∀ n, key = .position n → highest pieces < n.toNat) :
    (scan sql).contains key = false := by
  refine Bool.eq_false_iff.mpr fun contained => ?_
  cases key with
  | name text =>
    obtain ⟨piece, member, -, names⟩ := (contains_name_iff h text).mp contained
    exact absent ⟨piece, member, names⟩
  | position n =>
    exact absurd ((contains_position_iff h n).mp contained) (Nat.not_le_of_lt (above n rfl))

/-! ### Keys of identifiers -/

theorem withoutSigil_cons {sigil : Char} (introduces : sigil = ':' ∨ sigil = '@')
    (ident : List Char) : withoutSigil (String.ofList (sigil :: ident)) = String.ofList ident := by
  rw [withoutSigil, String.toList_ofList]
  exact if_pos introduces

theorem withoutSigil_of_named {ident : List Char} (named : ∀ c ∈ ident, isNameChar c = true) :
    withoutSigil (String.ofList ident) = String.ofList ident := by
  rw [withoutSigil, String.toList_ofList]
  cases ident with
  | nil => rfl
  | cons c ident =>
    have plain : ¬ (c = ':' ∨ c = '@') := by
      rintro (rfl | rfl) <;> exact absurd (named _ List.mem_cons_self) (by decide)
    exact if_neg plain

/-- The key is the same with a sigil in front. -/
theorem ofText_cons_sigil {sigil : Char} (introduces : sigil = ':' ∨ sigil = '@')
    {ident : List Char} (named : ∀ c ∈ ident, isNameChar c = true) :
    BindKey.ofText (String.ofList (sigil :: ident)) = BindKey.ofText (String.ofList ident) := by
  refine BindKey.ofText_congr ?_
  rw [withoutSigil_cons introduces, withoutSigil_of_named named]

/-- An identifier is the key of its position, if that is positive. -/
theorem ofText_of_position? {ident : List Char} (nonempty : ident ≠ [])
    (named : ∀ c ∈ ident, isNameChar c = true) {n : Nat} (positive : 0 < n)
    (numbered : position? ident = some n) :
    BindKey.ofText (String.ofList ident) = .position (UInt16.ofNat n) := by
  refine BindKey.ofText_of_positive positive ?_
  rw [withoutSigil_of_named named, natural?_eq_position? nonempty named, numbered]

/-- Otherwise it is a name. -/
theorem ofText_of_not_position? {ident : List Char} (nonempty : ident ≠ [])
    (named : ∀ c ∈ ident, isNameChar c = true)
    (unnumbered : ∀ n, 0 < n → position? ident ≠ some n) :
    BindKey.ofText (String.ofList ident) = .name (String.ofList ident) := by
  have bare := withoutSigil_of_named named
  rw [BindKey.ofText_of_not_positive, bare]
  rwa [bare, natural?_eq_position? nonempty named]

theorem position?_eq_zero_iff {ident : List Char} :
    position? ident = some 0 ↔ ∀ c ∈ ident, c = '0' := by
  constructor
  · intro zero
    rw [position?] at zero
    split at zero
    · next small =>
      exact (Text.ofDigitChars_eq_zero_iff (List.all_eq_true.mp small.1)).mp (Option.some.inj zero)
    · contradiction
  · intro zeros
    have allDigits : ∀ c ∈ ident, c.isDigit = true := fun c member => zeros c member ▸ rfl
    have zero := (Text.ofDigitChars_eq_zero_iff allDigits).mpr zeros
    rw [position?, zero, if_pos ⟨List.all_eq_true.mpr allDigits, by decide⟩]

theorem position?_lt {ident : List Char} {n : Nat} (numbered : position? ident = some n) :
    n < 65536 := by
  rw [position?] at numbered
  split at numbered
  · next small => exact Option.some.inj numbered ▸ small.2
  · contradiction

/-- **A key and a placeholder of one identifier go together, unless it is zero.** -/
theorem contains_ofText_iff {sql : String} {pieces : List Piece} (h : Reads sql.toList pieces)
    {sigil : Char} {ident : List Char} (stands : .placeholder sigil ident ∈ pieces)
    (introduces : sigil = ':' ∨ sigil = '@') (nonempty : ident ≠ [])
    (named : ∀ c ∈ ident, isNameChar c = true) :
    (scan sql).contains (.ofText (String.ofList ident)) = true ↔ ∃ c ∈ ident, c ≠ '0' := by
  have some_iff : (∃ c ∈ ident, c ≠ '0') ↔ position? ident ≠ some 0 := by
    rw [Ne, position?_eq_zero_iff]
    simp
  rw [some_iff]
  cases numbered : position? ident with
  | none =>
    rw [ofText_of_not_position? nonempty named (by simp [numbered])]
    exact iff_of_true
      ((contains_name_iff h _).mpr ⟨_, stands, numbered, introduces, by simp⟩) (by simp)
  | some n =>
    rcases Nat.eq_zero_or_pos n with rfl | positive
    · -- the key is a name that is made of zeros, and every placeholder of such a name is a position
      refine iff_of_false (fun contained => ?_) (fun other => other rfl)
      rw [ofText_of_not_position? nonempty named (by simp [numbered, Nat.pos_iff_ne_zero, eq_comm])]
        at contained
      obtain ⟨piece, -, unnumbered, names⟩ := (contains_name_iff h _).mp contained
      obtain ⟨other, letters, rfl, -, same⟩ := Piece.Names.exists_eq names
      have zeros := position?_eq_zero_iff.mp numbered
      have early : ∀ c ∈ (String.ofList ident).toList, c.toNat < 65 := by
        rw [String.toList_ofList]
        exact fun c member => zeros c member ▸ (by decide : '0'.toNat < 65)
      have letters_eq := Text.eq_of_fold_eq early (Text.sameName_iff.mp same)
      rw [Piece.position?, String.ofList_injective letters_eq, numbered] at unnumbered
      contradiction
    · rw [ofText_of_position? nonempty named positive numbered]
      refine iff_of_true ((contains_position_iff h _).mpr ?_) (by simp [positive.ne'])
      rw [UInt16.toNat_ofNat', Nat.mod_eq_of_lt (position?_lt numbered)]
      exact le_highest stands numbered

/-- A placeholder is one piece between what stands in front of it and behind it. -/
theorem Reads.placeholder_between {front back : List Char} {before behind : List Piece}
    (h : Reads front before) (h' : Reads back behind) (closed : openQuote front = none)
    (uncast : front.getLast? ≠ some ':') {sigil : Char} {ident : List Char}
    (sigiled : isSigil sigil = true) (nonempty : ident ≠ [])
    (named : ∀ c ∈ ident, isNameChar c = true) (ends : EndsName back) :
    Reads (front ++ sigil :: (ident ++ back)) (before ++ .placeholder sigil ident :: behind) := by
  have unnamed : EndsName (sigil :: (ident ++ back)) := by
    rintro c head
    obtain rfl := Option.some.inj head
    obtain (rfl | rfl) | rfl : (sigil = ':' ∨ sigil = '@') ∨ sigil = '$' := by
      simpa [isSigil] using sigiled
    all_goals rfl
  have fits : (Piece.placeholder sigil ident).Fits back := ⟨sigiled, nonempty, named, ends⟩
  exact h.between h' closed fits unnamed fun last => absurd last uncast

end Statement

namespace BindSet

open Statement
open Placeholders (isNameChar scan)

/-! ### The check -/

variable {set : BindSet} {entry : Bind} {before after : List Bind} {sql : String}

/-- A variable that is contained makes no difference. -/
theorem validate_between (contained : (scan sql).contains entry.key = true) :
    (⟨before ++ entry :: after⟩ : BindSet).validate sql =
      (⟨before ++ after⟩ : BindSet).validate sql := by
  rw [validate, validate]
  simp only [List.find?_append, List.find?_cons, contained, Bool.not_true]

/-- A variable that is not contained is an error, unless there was one before. -/
theorem validate_of_not_contained (absent : (scan sql).contains entry.key = false)
    (member : entry ∈ set.entries) :
    ∃ first ∈ set.entries, (scan sql).contains first.key = false ∧
      set.validate sql = .error (.unknownPlaceholder first.key.wireName) := by
  rw [validate]
  split
  · next first found =>
    exact ⟨first, List.mem_of_find?_eq_some found, by simpa using List.find?_some found, rfl⟩
  · next found =>
    exact absurd (List.find?_eq_none.mp found entry member) (by simp [absent])

/-- The check is passed if every variable is contained. -/
theorem validate_eq_ok_iff :
    set.validate sql = .ok () ↔ ∀ entry ∈ set.entries, (scan sql).contains entry.key = true := by
  constructor
  · -- one that is not contained would be refused
    intro passes entry member
    refine Bool.of_not_eq_false fun absent => ?_
    obtain ⟨first, -, -, fails⟩ := validate_of_not_contained absent member
    rw [passes] at fails
    contradiction
  · -- none is found that is refused
    intro contained
    rw [validate]
    split
    · next first found =>
      have inside := contained first (List.mem_of_find?_eq_some found)
      exact absurd (List.find?_some found) (by simp [inside])
    · rfl

/-- **A variable whose placeholder stands in the statement passes the check**, and that of
the others does not depend on it, unless its name is made of zeros: then it is rejected. -/
theorem passes_standing {front back ident : List Char} {sigil : Char}
    (spelt : sql.toList = front ++ sigil :: (ident ++ back))
    (closed : openQuote front = none) (uncast : front.getLast? ≠ some ':')
    (introduces : sigil = ':' ∨ sigil = '@') (nonempty : ident ≠ [])
    (named : ∀ c ∈ ident, isNameChar c = true) (ends : EndsName back)
    (key : entry.key = .ofText (String.ofList ident) ∨
      ∃ lead, (lead = ':' ∨ lead = '@') ∧ entry.key = .ofText (String.ofList (lead :: ident))) :
    ((∃ c ∈ ident, c ≠ '0') →
      (⟨[entry]⟩ : BindSet).validate sql = .ok () ∧
      ∀ before after : List Bind, (⟨before ++ entry :: after⟩ : BindSet).validate sql =
        (⟨before ++ after⟩ : BindSet).validate sql) ∧
    ((∀ c ∈ ident, c = '0') → ∀ after : List Bind,
      (⟨entry :: after⟩ : BindSet).validate sql =
        .error (.unknownPlaceholder (String.ofList ident))) := by
  have key' : entry.key = .ofText (String.ofList ident) := by
    rcases key with plain | ⟨lead, leads, led⟩
    · exact plain
    · exact led.trans (ofText_cons_sigil leads named)
  have sigiled : isSigil sigil = true := by
    rcases introduces with rfl | rfl <;> rfl
  obtain ⟨before', readsFront⟩ := exists_reads front
  obtain ⟨behind, readsBack⟩ := exists_reads back
  -- the placeholder is a piece of the text, since what is in front closes its literals
  have reads : Reads sql.toList (before' ++ .placeholder sigil ident :: behind) := by
    rw [spelt]
    exact readsFront.placeholder_between readsBack closed uncast sigiled nonempty named ends
  have contained_iff : (scan sql).contains entry.key = true ↔ ∃ c ∈ ident, c ≠ '0' := by
    rw [key']
    exact contains_ofText_iff reads (List.mem_append_right _ List.mem_cons_self) introduces
      nonempty named
  refine ⟨fun other => ⟨?_, fun before after => ?_⟩, fun zeros after => ?_⟩
  · -- a name alone
    refine validate_eq_ok_iff.mpr fun single member => ?_
    rw [List.mem_singleton.mp member]
    exact contained_iff.mpr other
  · -- a name among others
    exact validate_between (contained_iff.mpr other)
  · -- nothing but zeros: it counts as a position, and the key as a name
    have absent : (scan sql).contains entry.key = false := by
      refine Bool.eq_false_iff.mpr fun contained => ?_
      obtain ⟨c, member, other⟩ := contained_iff.mp contained
      exact other (zeros c member)
    have name : entry.key = .name (String.ofList ident) := by
      rw [key', ofText_of_not_position? nonempty named]
      rw [position?_eq_zero_iff.mpr zeros]
      exact fun n positive zero => positive.ne (Option.some.inj zero)
    rw [validate, List.find?_cons_of_pos (by simp [absent])]
    show Except.error (Error.unknownPlaceholder entry.key.wireName) = _
    rw [name]
    rfl

/-- The input variable of a key that is read from a text. -/
def integerBind (text : String) : Bind :=
  ⟨.ofText text, .integer 1, .input, .integer, 0⟩

/-- A name in another case than its key stands behind a literal and a cast, and the zeros
of another behind it. -/
theorem passes_standing_mixed :
    (⟨[integerBind "@id_1"]⟩ : BindSet).validate "select ':x', y::int, :id_1-1" = .ok () ∧
      (⟨[integerBind ":00", integerBind "id"]⟩ : BindSet).validate "select @00" =
        .error (.unknownPlaceholder "00") := by
  refine ⟨?_, ?_⟩
  · have standing := @passes_standing (integerBind "@id_1") "select ':x', y::int, :id_1-1"
      "select ':x', y::int, ".toList "-1".toList "id_1".toList ':' (by decide) (by decide)
      (by decide) (.inl rfl) (by decide) (List.all_eq_true.mp rfl) (by decide)
      (.inr ⟨'@', .inr rfl, by decide⟩)
    exact (standing.1 ⟨'i', by decide, by decide⟩).1
  · have zero := @passes_standing (integerBind ":00") "select @00" "select ".toList [] ['0', '0']
      '@' (by decide) (by decide) (by decide) (.inr rfl) (by decide) (List.all_eq_true.mp rfl)
      (by decide) (.inr ⟨':', .inl rfl, by decide⟩)
    exact zero.2 (by simp) [integerBind "id"]

/-- The variable `0` is rejected though `:0` stands in the statement. -/
theorem zero_rejected :
    ¬ ∀ (front back ident : List Char) (sigil : Char) (entry : Bind),
      openQuote front = none → front.getLast? ≠ some ':' → sigil = ':' ∨ sigil = '@' →
      ident ≠ [] → (∀ c ∈ ident, isNameChar c = true) → EndsName back →
      entry.key = .ofText (String.ofList ident) →
      (⟨[entry]⟩ : BindSet).validate (String.ofList (front ++ sigil :: (ident ++ back))) =
        .ok () := by
  intro passes
  have passed := passes "select ".toList [] ['0'] ':' (integerBind "0") (by decide) (by decide)
    (.inl rfl) (by decide) (List.all_eq_true.mp rfl) (by decide) (by decide)
  have rejected : (⟨[integerBind "0"]⟩ : BindSet).validate "select :0" =
    .error (.unknownPlaceholder "0") := by decide +kernel
  exact absurd (passed.symm.trans rejected) (by simp)

end BindSet

end ProxyClient
