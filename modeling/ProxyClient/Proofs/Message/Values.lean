/-
ProxyClient/Proofs/Message/Values.lean

What a row announces and what it holds.  A row tells the number of its values in
front, and nothing but this number is read when the row arrives.  The values are
looked for when they are asked for, one behind the other, up to the first that is
not complete, and their number is not compared with the one that was told:

    00 02 | 00 00 00 01 61                      2 are told, 1 is found
    00 01 | 00 00 00 01 61 | ff ff ff ff        1 is told, 2 are found
    00 01 | 00 00 00 01 61 | 00 00              1 is told and found, and 2 bytes are left

The values that are found are the longest list that is spelled in front
(`DataRow.exists_spells`).  A row that holds what it announces is read as it was
written, and so is no other row (`DataRow.accounts_iff_isWhole`).
-/
import ProxyClient.Proofs.Wire.Layout

namespace ProxyClient

open Wire

/-- The length of a value can be told from that of the absent value. -/
def Wire.IsShort (value : Option Bytes) : Prop :=
  ∀ bytes ∈ value, bytes.length < 2 ^ 31

instance (value : Option Bytes) : Decidable (IsShort value) :=
  match value with
  | none => isTrue fun _ none => nomatch none
  | some bytes =>
    decidable_of_iff (bytes.length < 2 ^ 31)
      ⟨fun short _ same => Option.some.inj same ▸ short, fun short => short bytes rfl⟩

namespace DataRow

/-! ### Spellings -/

/-- Bytes that stand for a value: its length in four bytes, and the value behind it.
Any negative length stands for null. -/
inductive SpellsValue : Option Bytes → Bytes → Prop
  /-- Null. -/
  | null {length : Bytes} : length.length = 4 → 2 ^ 31 ≤ Bytes.ofBigEndian length →
      SpellsValue none length
  /-- A value. -/
  | value {length bytes : Bytes} : length.length = 4 → Bytes.ofBigEndian length = bytes.length →
      bytes.length < 2 ^ 31 → SpellsValue (some bytes) (length ++ bytes)

/-- Bytes that stand for values, one behind the other. -/
inductive Spells : List (Option Bytes) → Bytes → Prop
  /-- No value. -/
  | nil : Spells [] []
  /-- A value in front of others. -/
  | cons {value : Option Bytes} {field : Bytes} {values : List (Option Bytes)} {data : Bytes} :
      SpellsValue value field → Spells values data → Spells (value :: values) (field ++ data)

/-- No value is spelled in front of these bytes. -/
def Stops (rest : Bytes) : Prop :=
  ∀ value field more, SpellsValue value field → rest ≠ field ++ more

/-- The row holds the values that it announces, and nothing else. -/
def IsWhole (row : DataRow) : Prop :=
  ∃ values, values.length = row.columnCount.toNat ∧ Spells values row.data

variable {value : Option Bytes} {values : List (Option Bytes)} {field data : Bytes}

/-- A value that is short enough is spelled as it is written. -/
theorem spellsValue_encodeNullable (short : IsShort value) :
    SpellsValue value (encodeNullable value) := by
  cases value with
  | none => exact .null (by decide) (by decide)
  | some bytes =>
    have fits : bytes.length < 2 ^ 31 := short bytes rfl
    exact .value (Bytes.length_bigEndian ..) (told_bigEndian fits) fits

theorem SpellsValue.isShort (h : SpellsValue value field) : IsShort value := by
  cases h with
  | null => exact fun _ none => nomatch none
  | value _ _ fits => exact fun _ same => Option.some.inj same ▸ fits

theorem Spells.isShort (h : Spells values data) : ∀ value ∈ values, IsShort value := by
  induction h with
  | nil => exact List.forall_mem_nil _
  | cons first _ ih => exact List.forall_mem_cons.mpr ⟨first.isShort, ih⟩

theorem SpellsValue.length_eq {other : Bytes} (h : SpellsValue value field)
    (h' : SpellsValue value other) : field.length = other.length := by
  cases h with
  | null four =>
    cases h' with
    | null four' => rw [four, four']
  | value four =>
    cases h' with
    | value four' => rw [List.length_append, List.length_append, four, four']

/-- A list of values is always spelled in as many bytes. -/
theorem Spells.length_eq {other : Bytes} (h : Spells values data) (h' : Spells values other) :
    data.length = other.length := by
  induction h generalizing other with
  | nil => cases h'; rfl
  | cons first _ ih =>
    cases h' with
    | cons first' others' =>
      rw [List.length_append, List.length_append, first.length_eq first', ih others']

/-- Behind values that are spelled, nothing more belongs to the same values. -/
theorem Spells.eq_nil_of_append {rest : Bytes} (h : Spells values data)
    (h' : Spells values (data ++ rest)) : rest = [] := by
  have length := h'.length_eq h
  rw [List.length_append] at length
  exact List.length_eq_zero_iff.mp (Nat.add_eq_left.mp length)

/-- There is no value in fewer than four bytes. -/
theorem stops_of_length_lt {rest : Bytes} (few : rest.length < 4) : Stops rest := by
  rintro value field more spelled rfl
  rw [List.length_append] at few
  cases spelled with
  | null four => omega
  | value four =>
    rw [List.length_append] at few
    omega

/-! ### What is found -/

/-- A length is four bytes. -/
theorem exists_of_length_eq_four {length : Bytes} (four : length.length = 4) :
    ∃ a b c d, length = [a, b, c, d] :=
  match length, four with
  | [a, b, c, d], _ => ⟨a, b, c, d, rfl⟩

/-- A value that is spelled in front is found in front. -/
theorem SpellsValue.valuesIn_append (h : SpellsValue value field) (rest : Bytes) :
    valuesIn (field ++ rest) = value :: valuesIn rest := by
  cases h with
  | @null length four negative =>
    obtain ⟨a, b, c, d, rfl⟩ := exists_of_length_eq_four four
    simp only [List.cons_append, List.nil_append]
    rw [valuesIn]
    simp only [if_pos negative]
  | @value length bytes four told fits =>
    obtain ⟨a, b, c, d, rfl⟩ := exists_of_length_eq_four four
    have whole : bytes.length ≤ (bytes ++ rest).length := by
      rw [List.length_append]
      exact Nat.le_add_right ..
    simp only [List.cons_append, List.nil_append]
    rw [valuesIn]
    simp only [told, if_neg (Nat.not_le.mpr fits), if_pos whole, List.take_left, List.drop_left]

theorem Spells.valuesIn_append (h : Spells values data) (rest : Bytes) :
    valuesIn (data ++ rest) = values ++ valuesIn rest := by
  induction h with
  | nil => rfl
  | cons first _ ih => rw [List.append_assoc, first.valuesIn_append, ih, List.cons_append]

/-- A value that is written is found in front of the others. -/
theorem valuesIn_encodeNullable (short : IsShort value) (rest : Bytes) :
    valuesIn (encodeNullable value ++ rest) = value :: valuesIn rest :=
  (spellsValue_encodeNullable short).valuesIn_append rest

theorem valuesIn_nil : valuesIn [] = [] := by
  rw [valuesIn]
  simp

/-- Bytes do not stand for two lists of values. -/
theorem Spells.valuesIn_eq (h : Spells values data) : valuesIn data = values := by
  have found := h.valuesIn_append []
  rwa [List.append_nil, valuesIn_nil, List.append_nil] at found

/-- The values of a row that is written are found one after another. -/
theorem valuesIn_flatMap (short : ∀ value ∈ values, IsShort value) :
    valuesIn (values.flatMap encodeNullable) = values := by
  induction values with
  | nil => exact valuesIn_nil
  | cons value values ih =>
    have others := ih fun other member => short other (List.mem_cons_of_mem value member)
    rw [List.flatMap_cons, valuesIn_encodeNullable (short value List.mem_cons_self), others]

/-- **The values that are found are spelled in front, and no other stands behind them.** -/
theorem exists_spells (data : Bytes) :
    ∃ spelled rest, data = spelled ++ rest ∧ Spells (valuesIn data) spelled ∧ Stops rest := by
  -- the induction follows the search, from field to field
  fun_induction valuesIn data with
  | case1 a b c d more length negative ih =>
    obtain ⟨spelled, rest, rfl, found, stops⟩ := ih
    exact ⟨[a, b, c, d] ++ spelled, rest, rfl, .cons (.null rfl negative) found, stops⟩
  | case2 a b c d more length nonneg inside ih =>
    obtain ⟨spelled, rest, behind, found, stops⟩ := ih
    have told : length = (more.take length).length := (List.length_take_of_le inside).symm
    have first : SpellsValue (some (more.take length)) ([a, b, c, d] ++ more.take length) :=
      .value rfl told (told ▸ Nat.lt_of_not_le nonneg)
    refine ⟨[a, b, c, d] ++ more.take length ++ spelled, rest, ?_, .cons first found, stops⟩
    rw [List.append_assoc, List.append_assoc, ← behind, List.take_append_drop]
    rfl
  | case3 a b c d more length nonneg outside =>
    -- the length tells more than is there
    refine ⟨[], a :: b :: c :: d :: more, rfl, .nil, ?_⟩
    rintro value field rest spelled same
    have front : [a, b, c, d] ++ more = field ++ rest := same
    cases spelled with
    | null four negative =>
      obtain ⟨rfl, -⟩ := List.append_inj front four.symm
      exact nonneg negative
    | @value digits bytes four told =>
      rw [List.append_assoc] at front
      obtain ⟨rfl, rfl⟩ := List.append_inj front four.symm
      rw [List.length_append, ← told] at outside
      exact outside (Nat.le_add_right ..)
  | case4 data few =>
    refine ⟨[], data, rfl, .nil, stops_of_length_lt ?_⟩
    refine Nat.lt_of_not_le fun many => ?_
    obtain ⟨a, b, c, d, digits⟩ :=
      exists_of_length_eq_four (List.length_take_of_le many)
    have split := List.take_append_drop 4 data
    rw [digits] at split
    exact few a b c d _ split.symm

/-! ### Rows -/

/-- The values of a row are told and spelled, and nothing stands behind them. -/
theorem isWhole_iff {row : DataRow} :
    row.IsWhole ↔ row.values.length = row.columnCount.toNat ∧ Spells row.values row.data := by
  constructor
  · rintro ⟨values, told, spelled⟩
    have found : row.values = values := spelled.valuesIn_eq
    rw [found]
    exact ⟨told, spelled⟩
  · rintro ⟨told, spelled⟩
    exact ⟨row.values, told, spelled⟩

/-- The values of any row are written in such a way that they are found again. -/
theorem values_ofValues_values (row : DataRow) : (ofValues row.values).values = row.values := by
  obtain ⟨spelled, rest, -, found, -⟩ := exists_spells row.data
  exact valuesIn_flatMap found.isShort

/-- **Behind its announcement, a row holds the values that are found in it and
then bytes that no value stands in front of.  As many values are found as were
announced, and no byte is left, exactly when the row is whole; and a whole row
is written again as a row that announces and holds the same.** -/
theorem accounts_iff_isWhole {payload : Bytes} {row : DataRow}
    (parsed : decoded DataRow.decoder payload = .ok row) :
    ∃ spelled rest, payload = encodeU16 row.columnCount ++ (spelled ++ rest) ∧
      Spells row.values spelled ∧ Stops rest ∧
      (row.values.length = row.columnCount.toNat ∧ rest = [] ↔ row.IsWhole) ∧
      (row.IsWhole → ∃ again,
        decoded DataRow.decoder (ofValues row.values).payload = .ok again ∧
        again.columnCount = row.columnCount ∧ again.values = row.values) := by
  obtain ⟨spelled, rest, split, found, stops⟩ := exists_spells row.data
  refine ⟨spelled, rest, ?_, found, stops, ?_, fun whole => ?_⟩
  · rw [← split]
    exact (payload_of_decoded parsed).symm
  · rw [isWhole_iff]
    refine and_congr_right fun _ => ⟨fun nothing => ?_, fun all => ?_⟩
    · rw [split, nothing, List.append_nil]
      exact found
    · -- all bytes spell the same values as those in front
      rw [split] at all
      exact found.eq_nil_of_append all
  · have told := (isWhole_iff.mp whole).1
    refine ⟨ofValues row.values, decoded_payload _, ?_, values_ofValues_values row⟩
    show UInt16.ofNat row.values.length = row.columnCount
    rw [told, UInt16.ofNat_toNat]

/-- A row of two values, the second of which is absent. -/
theorem accounts_iff_isWhole_pair :
    let payload : Bytes := [0, 2, 0, 0, 0, 1, 97, 255, 255, 255, 255]
    let row : DataRow := ⟨2, [0, 0, 0, 1, 97, 255, 255, 255, 255]⟩
    row.IsWhole ∧ ∃ spelled rest, payload = encodeU16 row.columnCount ++ (spelled ++ rest) ∧
      Spells row.values spelled ∧ Stops rest ∧
      (row.values.length = row.columnCount.toNat ∧ rest = [] ↔ row.IsWhole) ∧
      (row.IsWhole → ∃ again,
        decoded DataRow.decoder (ofValues row.values).payload = .ok again ∧
        again.columnCount = row.columnCount ∧ again.values = row.values) := by
  have first : SpellsValue (some [97]) [0, 0, 0, 1, 97] :=
    @SpellsValue.value [0, 0, 0, 1] [97] rfl (by decide) (by decide)
  have second : SpellsValue none [255, 255, 255, 255] := .null rfl (by decide)
  exact ⟨⟨[some [97], none], rfl, .cons first (.cons second .nil)⟩, accounts_iff_isWhole rfl⟩

/-- A row that was cut off behind the first of two values is taken for a row of
one value, which is told to have two columns; and written again it announces
one.  Two values are not read from its bytes where values are read one by one. -/
theorem cut_row_accepted :
    ∃ row, decoded DataRow.decoder [0, 2, 0, 0, 0, 1, 97] = .ok row ∧ row.columnCount = 2 ∧
      row.values = [some [97]] ∧ ¬ row.IsWhole ∧ (ofValues row.values).columnCount = 1 ∧
      repeated nullable row.columnCount.toNat row.data = .error (.shortInteger .i32 0) := by
  have first : SpellsValue (some [97]) [0, 0, 0, 1, 97] :=
    @SpellsValue.value [0, 0, 0, 1] [97] rfl (by decide) (by decide)
  have found : valuesIn [0, 0, 0, 1, 97] = [some [97]] := (Spells.cons first .nil).valuesIn_eq
  refine ⟨⟨2, [0, 0, 0, 1, 97]⟩, rfl, rfl, found, ?_, ?_, rfl⟩
  · rintro ⟨values, two, others⟩
    rw [← others.valuesIn_eq, found] at two
    exact absurd two (by decide)
  · show UInt16.ofNat (valuesIn [0, 0, 0, 1, 97]).length = 1
    rw [found]
    rfl

end DataRow

end ProxyClient
