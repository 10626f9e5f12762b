/-
ProxyClient/Proofs/Paging/Agreement.lean

A value of a page can be read in many ways: as a field, by the place or the
name of its column, or out of a whole row, as a text, as a length, or beside the
name of its column.  They go to the value by different ways:

    field, fieldText, fieldLength   over the number of columns, to one value
    rowTexts, rowLengths            to all values of the row
    rowPairs                        over the names of the columns, to all values

A row may have fewer values than there are columns, or more, since nothing
compares the two when it arrives; and names may be missing, or stand twice.
Still all of them agree (`ResultSet.Agrees`).

What is needed for that is that no name has a place where no column is
counted.  It is so in every description that can be read: there are as many
names as columns, or none.  The columns of a result set are those of the last
description, so it is so after any steps (`ResultSet.accessors_agree`).
-/
import Mathlib.Data.List.Induction
import ProxyClient.Proofs.Paging.Steps

namespace ProxyClient

/-! ### Descriptions -/

theorem length_of_repeated {α : Type} {decoder : Decoder α} {count : Nat} {bytes rest : Bytes}
    {items : List α} (read : repeated decoder count bytes = .ok (items, rest)) :
    items.length = count := by
  induction count generalizing bytes rest items with
  | zero =>
    obtain ⟨rfl, -⟩ := Prod.mk.inj (Except.ok.inj read)
    rfl
  | succ count ih =>
    rw [repeated] at read
    obtain ⟨item, behind, -, read⟩ := Wire.exists_of_bind_eq_ok read
    obtain ⟨others, behind', found, read⟩ := Wire.exists_of_bind_eq_ok read
    obtain ⟨rfl, -⟩ := Prod.mk.inj (Except.ok.inj read)
    exact congrArg (· + 1) (ih found)

namespace Describe

/-- The columns that are read are as many as were announced in front, or none. -/
theorem length_of_fields {payload rest : Bytes} {head : DescribeHead}
    {columns : List ColumnDescription} (read : fields payload = .ok ((head, columns), rest)) :
    columns.length = if head.hasColumns = 0 then 0 else head.columnCount.toNat := by
  rw [fields] at read
  obtain ⟨front, behind, -, read⟩ := Wire.exists_of_bind_eq_ok read
  by_cases none : front.hasColumns = 0
  · rw [if_pos none] at read
    obtain ⟨parts, -⟩ := Prod.mk.inj (Except.ok.inj read)
    obtain ⟨rfl, rfl⟩ := Prod.mk.inj parts
    rw [if_pos none, List.length_nil]
  · rw [if_neg none] at read
    obtain ⟨listed, behind', found, read⟩ := Wire.exists_of_bind_eq_ok read
    obtain ⟨parts, -⟩ := Prod.mk.inj (Except.ok.inj read)
    obtain ⟨rfl, rfl⟩ := Prod.mk.inj parts
    rw [if_neg none]
    exact length_of_repeated found

/-- A description that was read has as many columns as it announces, or none. -/
theorem length_columns {payload : Bytes} {describe : Describe}
    (read : decoded Describe.decoder payload = .ok describe) :
    describe.columns.length =
      if describe.head.hasColumns = 0 then 0 else describe.head.columnCount.toNat := by
  rw [decoded, Describe.decoder] at read
  rcases found : fields payload with fault | ⟨⟨head, columns⟩, rest⟩
  · rw [found] at read
    contradiction
  · rw [found] at read
    obtain rfl := Except.ok.inj read
    exact length_of_fields found

end Describe

namespace ResultSet

variable {rs : ResultSet} {row : Nat}

/-- The description that holds after a step. -/
def Step.described (found : Option Describe) : Step → Option Describe
  | resets _ => none
  | takes (.describe describe) => some describe
  | _ => found

/-- The last description since everything was forgotten. -/
def lastDescribed (steps : List Step) : Option Describe :=
  steps.foldl Step.described none

/-- Each description among the steps was read from a payload. -/
def AreRead (steps : List Step) : Prop :=
  ∀ describe, .takes (.describe describe) ∈ steps →
    ∃ payload, decoded Describe.decoder payload = .ok describe

/-- The columns are those of a description, or there are none. -/
structure IsDescribedBy (rs : ResultSet) (found : Option Describe) : Prop where
  /-- The columns are those that are described. -/
  columns_eq : rs.columns = (found.map (·.columns.map Column.ofDescription)).getD []
  /-- They are as many as are announced. -/
  columnCount_eq : rs.columnCount = (found.map (·.head.columnCount.toNat)).getD 0

/-- A step does to the columns what it does to the description. -/
theorem IsDescribedBy.step {found : Option Describe} (described : rs.IsDescribedBy found)
    (step : Step) : (step.after rs).IsDescribedBy (step.described found) := by
  cases step with
  | resets => exact ⟨rfl, rfl⟩
  | begins | suspends => exact ⟨described.columns_eq, described.columnCount_eq⟩
  | takes event =>
    cases event with
    | describe => exact ⟨rfl, rfl⟩
    | outputBinds | row | batchEnd => exact ⟨described.columns_eq, described.columnCount_eq⟩

theorem isDescribedBy_afterSteps (steps : List Step) :
    (afterSteps steps).IsDescribedBy (lastDescribed steps) :=
  List.foldl_rel (r := IsDescribedBy) ⟨rfl, rfl⟩ fun step _ _ _ described => described.step step

/-- The last description stands among the steps. -/
theorem mem_of_lastDescribed {steps : List Step} {describe : Describe}
    (last : lastDescribed steps = some describe) : .takes (.describe describe) ∈ steps := by
  -- the last description is sought from the end
  induction steps using List.reverseRecOn with
  | nil => contradiction
  | append_singleton front step ih =>
    rw [lastDescribed, List.foldl_append] at last
    rw [List.mem_append]
    cases step with
    | resets => contradiction
    | begins | suspends => exact .inl (ih last)
    | takes event =>
      cases event with
      | describe =>
        obtain rfl := Option.some.inj last
        exact .inr List.mem_cons_self
      | outputBinds | row | batchEnd => exact .inl (ih last)

/-! ### Names -/

/-- This is the place of the first column with a name, up to the case of letters. -/
def FirstNamed (rs : ResultSet) (name : String) (c : Nat) : Prop :=
  ∃ column, rs.columns[c]? = some column ∧ Text.sameName column.name name = true ∧
    ∀ other ∈ rs.columns.take c, Text.sameName other.name name = false

/-- No column has this name. -/
def Unnamed (rs : ResultSet) (name : String) : Prop :=
  ∀ column ∈ rs.columns, Text.sameName column.name name = false

/-- No name has a place where no column is counted. -/
def IsAligned (rs : ResultSet) : Prop :=
  rs.columns.length ≤ rs.columnCount

theorem isAligned_afterSteps {steps : List Step} (read : AreRead steps) :
    (afterSteps steps).IsAligned := by
  obtain ⟨columns, count⟩ := isDescribedBy_afterSteps steps
  rw [IsAligned, columns, count]
  rcases last : lastDescribed steps with - | describe
  · exact Nat.le_refl 0
  · obtain ⟨payload, read⟩ := read describe (mem_of_lastDescribed last)
    have length := Describe.length_columns read
    simp only [Option.map_some, Option.getD_some, List.length_map]
    split at length <;> omega

/-- A name is the place of the first column that has it. -/
theorem columnIndex_name (aligned : rs.IsAligned) (name : String) :
    (∃ c, rs.FirstNamed name c ∧ rs.columnIndex (.name name) = rs.columnIndex (.index c)) ∨
      (rs.Unnamed name ∧ rs.columnIndex (.name name) = none) := by
  rcases found : rs.columnIndex (.name name) with - | c
  · exact .inr ⟨List.findIdx?_eq_none_iff.mp found, rfl⟩
  · obtain ⟨inside, same, first⟩ := List.findIdx?_eq_some_iff_getElem.mp found
    refine .inl ⟨c, ⟨rs.columns[c], List.getElem?_eq_getElem inside, same, fun other mem => ?_⟩, ?_⟩
    · obtain ⟨i, before, rfl⟩ := List.mem_take_iff_getElem.mp mem
      exact Bool.eq_false_iff.mpr (first i (Nat.lt_of_lt_of_le before (Nat.min_le_left ..)))
    · rw [columnIndex, if_pos (Nat.lt_of_lt_of_le inside aligned)]

/-! ### Values -/

theorem field_index {c : Nat} (counted : c < rs.columnCount) :
    rs.field row (.index c) = ((rs.bufferedRow row).bind (·[c]?)).bind rs.readValue := by
  rw [field, columnIndex, if_pos counted]
  rcases rs.bufferedRow row with - | values
  · rfl
  · rfl

theorem field_of_columnIndex_eq {key key' : FieldKey}
    (same : rs.columnIndex key = rs.columnIndex key') : rs.field row key = rs.field row key' := by
  rw [field, same]
  rfl

/-- The length of a value as it is read is its length, and null has none. -/
theorem length_readValue (rs : ResultSet) (value : Option Bytes) :
    ((rs.readValue value).map List.length).getD 0 = (value.map List.length).getD 0 := by
  cases value with
  | some bytes => rfl
  | none =>
    rw [readValue]
    split <;> rfl

/-- Nothing is read of null only where it is not read as the empty text. -/
theorem readValue_eq_none {value : Option Bytes} :
    rs.readValue value = none ↔ value = none ∧ rs.nullsAsEmpty = false := by
  cases value with
  | some bytes => simp [readValue]
  | none => simp [readValue]

/-- Two keys read the same, whatever is read. -/
structure ReadsAlike (rs : ResultSet) (row : Nat) (key key' : FieldKey) : Prop where
  /-- The bytes. -/
  field : rs.field row key = rs.field row key'
  /-- The text. -/
  text : rs.fieldText row key = rs.fieldText row key'
  /-- The length. -/
  length : rs.fieldLength row key = rs.fieldLength row key'
  /-- The description of the column. -/
  column : rs.column key = rs.column key'
  /-- The length of the longest value. -/
  longest : rs.longestIn key = rs.longestIn key'

theorem ReadsAlike.of_columnIndex_eq {key key' : FieldKey}
    (same : rs.columnIndex key = rs.columnIndex key') : rs.ReadsAlike row key key' where
  field := field_of_columnIndex_eq same
  text := by rw [fieldText, fieldText, field_of_columnIndex_eq same]
  length := by rw [fieldLength, fieldLength, field_of_columnIndex_eq same]
  column := by rw [ResultSet.column, ResultSet.column, same]
  longest := by rw [longestIn, longestIn, same]

/-! ### Agreement -/

/-- What is read of a row in different ways fits together. -/
structure Agrees (rs : ResultSet) (row : Nat) : Prop where
  /-- A text is the entry of the row in the place of its column. -/
  text : ∀ c < rs.columnCount,
    rs.fieldText row (.index c) = ((rs.rowTexts row).bind (·[c]?)).join
  /-- There is none if the row is absent or too short, or the value is null and
  is not read as the empty text. -/
  absent : ∀ c < rs.columnCount, rs.fieldText row (.index c) = none ↔
    ∀ values, rs.bufferedRow row = some values →
      ∀ value, values[c]? = some value → value = none ∧ rs.nullsAsEmpty = false
  /-- So is a length, and it is zero where there is none. -/
  length : ∀ c < rs.columnCount,
    rs.fieldLength row (.index c) = ((rs.rowLengths row).bind (·[c]?)).getD 0
  /-- Texts and lengths are there of the same rows, and as many. -/
  present : (rs.rowTexts row).map List.length = (rs.rowLengths row).map List.length
  /-- A name reads what the place of the first column with this name reads, and
  nothing if there is no such column. -/
  named : ∀ name,
    (∃ c, rs.FirstNamed name c ∧ rs.ReadsAlike row (.name name) (.index c)) ∨
      (rs.Unnamed name ∧ rs.fieldText row (.name name) = none ∧
        rs.fieldLength row (.name name) = 0)
  /-- The texts of the row stand beside the names of the columns. -/
  pairs : rs.columns ≠ [] →
    rs.rowPairs row = (rs.rowTexts row).map ((rs.columns.map Column.name).zip ·)
  /-- Without names there are no pairs. -/
  unpaired : rs.columns = [] → rs.rowPairs row = none

theorem fieldText_index {c : Nat} (counted : c < rs.columnCount) :
    rs.fieldText row (.index c) = ((rs.rowTexts row).bind (·[c]?)).join := by
  rw [fieldText, field_index counted, rowTexts]
  rcases rs.bufferedRow row with - | values
  · rfl
  · simp only [Option.bind_some, Option.map_some, List.getElem?_map]
    rcases values[c]? with - | value
    · rfl
    · rfl

theorem fieldText_index_eq_none {c : Nat} (counted : c < rs.columnCount) :
    rs.fieldText row (.index c) = none ↔
      ∀ values, rs.bufferedRow row = some values →
        ∀ value, values[c]? = some value → value = none ∧ rs.nullsAsEmpty = false := by
  rw [fieldText, field_index counted, Option.map_eq_none_iff, Option.bind_eq_none_iff]
  simp only [Option.bind_eq_some_iff, readValue_eq_none, forall_exists_index, and_imp]
  exact ⟨fun all values there value stands => all value values there stands,
    fun all value values there stands => all values there value stands⟩

theorem fieldLength_index {c : Nat} (counted : c < rs.columnCount) :
    rs.fieldLength row (.index c) = ((rs.rowLengths row).bind (·[c]?)).getD 0 := by
  rw [fieldLength, field_index counted, rowLengths]
  rcases rs.bufferedRow row with - | values
  · rfl
  · simp only [Option.bind_some, Option.map_some, List.getElem?_map]
    rcases values[c]? with - | value
    · rfl
    · exact length_readValue rs value

theorem length_rowTexts (rs : ResultSet) (row : Nat) :
    (rs.rowTexts row).map List.length = (rs.rowLengths row).map List.length := by
  rw [rowTexts, rowLengths]
  rcases rs.bufferedRow row with - | values
  · rfl
  · simp only [Option.map_some, List.length_map]

/-- Where no name has a place that is not counted, everything that is read of a row
fits together. -/
theorem IsAligned.agrees (aligned : rs.IsAligned) (row : Nat) : rs.Agrees row where
  text _ := fieldText_index
  absent _ := fieldText_index_eq_none
  length _ := fieldLength_index
  present := length_rowTexts rs row
  named name := by
    rcases columnIndex_name aligned name with ⟨c, first, same⟩ | ⟨unnamed, nowhere⟩
    · exact .inl ⟨c, first, .of_columnIndex_eq same⟩
    · have nothing : rs.field row (.name name) = none := by
        rw [field, nowhere]
        rfl
      refine .inr ⟨unnamed, ?_, ?_⟩
      · rw [fieldText, nothing, Option.map_none]
      · rw [fieldLength, nothing, Option.map_none, Option.getD_none]
  pairs some_ := by rw [rowPairs, if_neg (by simpa using some_)]
  unpaired none_ := by rw [rowPairs, if_pos (by simpa using none_)]

/-- **All ways to read a row agree**, in a result set after any steps, in any order and
with any rows, of which each description was read from a payload.  And the columns of
the result set, from which the names come, are those of the last description; so there
are none exactly if this has left them out or has none, or if there is none. -/
theorem accessors_agree {steps : List Step} (read : AreRead steps) (row : Nat) :
    (afterSteps steps).Agrees row ∧
      (afterSteps steps).IsDescribedBy (lastDescribed steps) ∧
      ((afterSteps steps).columns = [] ↔ ∀ describe, lastDescribed steps = some describe →
        describe.head.hasColumns = 0 ∨ describe.head.columnCount = 0) := by
  have described := isDescribedBy_afterSteps steps
  refine ⟨(isAligned_afterSteps read).agrees row, described, ?_⟩
  rw [described.columns_eq]
  rcases last : lastDescribed steps with - | describe
  · simp
  · obtain ⟨payload, read⟩ := read describe (mem_of_lastDescribed last)
    -- as many columns were read as the description announces
    have length := Describe.length_columns read
    have zero : describe.head.columnCount.toNat = 0 ↔ describe.head.columnCount = 0 := by
      rw [← UInt16.toNat_inj, UInt16.toNat_zero]
    simp only [Option.map_some, Option.getD_some, List.map_eq_nil_iff, Option.some.injEq,
      forall_eq']
    rw [← List.length_eq_zero_iff, length]
    split
    · next none_ => simp [none_]
    · next some_ => simp [some_, zero]

/-- Two columns whose names are the same but for the case of their letters. -/
def twins : Describe :=
  .ofParts ⟨7, 0, -1, -1, 1, 2⟩
    [⟨"ID", "NUMBER", 22, 10, 0, 0⟩, ⟨"id", "VARCHAR2", 40, 0, 0, 1⟩]

/-- A page of a short row and a long one in such columns. -/
def ragged : List Step :=
  [.takes (.describe twins), .brings [some [97]], .brings [none, some [98], some [99]],
    .ends 0 true]

/-- The long row. -/
theorem accessors_agree_ragged :
    AreRead ragged ∧ (afterSteps ragged).Agrees 1 ∧
      (afterSteps ragged).IsDescribedBy (lastDescribed ragged) ∧
      ((afterSteps ragged).columns = [] ↔ ∀ describe, lastDescribed ragged = some describe →
        describe.head.hasColumns = 0 ∨ describe.head.columnCount = 0) := by
  have read : AreRead ragged := by
    rintro describe (- | ⟨-, - | ⟨-, - | ⟨-, - | ⟨-, ⟨⟩⟩⟩⟩⟩)
    exact ⟨twins.payload,
      by rw [decoded, twins, Describe.decoder_payload (by decide) (by decide)]⟩
  exact ⟨read, accessors_agree read 1⟩

/-- A result set that is described with names, but without a column: its row has
no values, and there are no pairs, not even none of them. -/
theorem unpaired_without_columns :
    let describe : Describe := .ofParts ⟨7, 0, -1, -1, 1, 0⟩ []
    let rs := afterSteps [.takes (.describe describe), .brings []]
    decoded Describe.decoder describe.payload = .ok describe ∧ describe.head.hasColumns ≠ 0 ∧
      rs.rowTexts 0 = some [] ∧ rs.rowPairs 0 = none := by
  have nothing : (DataRow.ofValues []).values = [] := DataRow.valuesIn_nil
  refine ⟨rfl, by decide, ?_, rfl⟩
  show some ((DataRow.ofValues []).values.map _) = some []
  rw [nothing, List.map_nil]

end ResultSet

end ProxyClient
