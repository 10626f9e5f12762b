/-
ProxyClient/Proofs/Message/OneByOne.lean

Two readers of one format.  Where a value stands among other fields it is read
alone, and the reader says what is wrong if there is none (`Wire.nullable`).
The values of a row are looked for together, and the search just stops
(`DataRow.valuesIn`).  Both find the same:

    valuesIn data = values  ↔  one by one, until it fails, `nullable` reads values

The two are not compared with each other but with what a value is spelled as:

    nullable data = .ok (value, rest)  ↔  data = field ++ rest, where field spells value
    nullable data fails                ↔  no value is spelled in front of data

and the search is known to find what is spelled (`DataRow.exists_spells`).
-/
import ProxyClient.Proofs.Message.Values

namespace ProxyClient

open Wire

/-- Values that a decoder reads, each behind the one before, until it fails. -/
inductive Wire.ReadsOneByOne {α : Type} (decoder : Decoder α) : Bytes → List α → Prop
  /-- Nothing can be read. -/
  | failed {data : Bytes} {fault : WireFault} :
      decoder data = .error fault → ReadsOneByOne decoder data []
  /-- A value is read, and then those behind it. -/
  | read {data rest : Bytes} {value : α} {values : List α} :
      decoder data = .ok (value, rest) → ReadsOneByOne decoder rest values →
      ReadsOneByOne decoder data (value :: values)

namespace DataRow

variable {value : Option Bytes} {values : List (Option Bytes)} {field data rest : Bytes}

/-! ### A single value -/

/-- A value that is spelled in front is read. -/
theorem SpellsValue.nullable_append (h : SpellsValue value field) (rest : Bytes) :
    nullable (field ++ rest) = .ok (value, rest) := by
  cases h with
  | null four negative => exact nullable_of_negative four negative rest
  | value four told fits =>
    rw [List.append_assoc]
    exact nullable_of_told four told fits rest

/-- A value that is read was spelled in front. -/
theorem exists_spellsValue_of_nullable (h : nullable data = .ok (value, rest)) :
    ∃ field, SpellsValue value field ∧ data = field ++ rest := by
  -- the length was there, whatever it told
  obtain ⟨length, more, told, -⟩ := exists_of_bind_eq_ok h
  obtain ⟨number, behind, read, made⟩ := exists_of_bind_eq_ok told
  obtain ⟨digits, four, -, rfl⟩ := append_of_unsigned read
  by_cases negative : 2 ^ 31 ≤ Bytes.ofBigEndian digits
  · rw [nullable_of_negative four negative] at h
    obtain ⟨rfl, rfl⟩ := Prod.mk.inj (Except.ok.inj h)
    exact ⟨digits, .null four negative, rfl⟩
  · have fits : Bytes.ofBigEndian digits < 2 ^ 31 := Nat.lt_of_not_le negative
    rw [nullable_of_nonneg four fits] at h
    obtain ⟨bytes, last, taken, found⟩ := exists_of_bind_eq_ok h
    obtain ⟨rfl, rfl⟩ := Prod.mk.inj (Except.ok.inj found)
    obtain ⟨size, rfl⟩ := append_of_take taken
    refine ⟨digits ++ bytes, .value four size.symm (size ▸ fits), ?_⟩
    rw [List.append_assoc]

/-- Where no value is spelled, none is read. -/
theorem Stops.nullable_eq_error (h : Stops data) : ∃ fault, nullable data = .error fault := by
  rcases read : nullable data with fault | ⟨value, rest⟩
  · exact ⟨fault, rfl⟩
  · obtain ⟨field, spelled, split⟩ := exists_spellsValue_of_nullable read
    exact absurd split (h value field rest spelled)

/-! ### All values -/

/-- Values that are spelled are read, up to where none is. -/
theorem Spells.readsOneByOne (h : Spells values data) (stops : Stops rest) :
    ReadsOneByOne nullable (data ++ rest) values := by
  induction h with
  | nil =>
    obtain ⟨fault, failed⟩ := stops.nullable_eq_error
    exact .failed failed
  | cons first _ ih =>
    rw [List.append_assoc]
    exact .read (first.nullable_append _) ih

/-- Where none is read, none is found. -/
theorem valuesIn_of_nullable_error {fault : WireFault} (h : nullable data = .error fault) :
    valuesIn data = [] := by
  obtain ⟨spelled, rest, split, found, -⟩ := exists_spells data
  cases found' : valuesIn data with
  | nil => rfl
  | cons value values =>
    rw [found'] at found
    cases found with
    | cons first others =>
      rw [split, List.append_assoc, first.nullable_append] at h
      contradiction

/-- What is read one by one is found. -/
theorem valuesIn_of_readsOneByOne (h : ReadsOneByOne nullable data values) :
    valuesIn data = values := by
  induction h with
  | failed failed => exact valuesIn_of_nullable_error failed
  | read read _ ih =>
    obtain ⟨field, spelled, rfl⟩ := exists_spellsValue_of_nullable read
    rw [spelled.valuesIn_append, ih]

/-- **The values of a row are those that are read one by one.**  Whatever bytes
stand behind the number of columns, the row is accepted; and of all lists of
values its own is the one that a reader of single values gets, applied again
and again until it fails. -/
theorem values_iff_readsOneByOne (count : UInt16) (data : Bytes) :
    ∃ row, decoded DataRow.decoder (encodeU16 count ++ data) = .ok row ∧
      ∀ values, row.values = values ↔ ReadsOneByOne nullable data values := by
  refine ⟨⟨count, data⟩, decoded_payload ⟨count, data⟩, fun values => ⟨?_, ?_⟩⟩
  · rintro rfl
    obtain ⟨spelled, rest, split, found, stops⟩ := exists_spells data
    have read := found.readsOneByOne stops
    rwa [← split] at read
  · exact valuesIn_of_readsOneByOne

end DataRow

end ProxyClient
