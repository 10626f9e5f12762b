/-
ProxyClient/Proofs/Paging/Window.lean

A page as a window on the rows of a result set.  `whole rs rows` is the
result set with all of its rows in one page; what is read of a row there is
what the row holds.  A page that is a window gives a row the value it has in
the whole, up to a shift:

    rs.rows = window rows (rs.firstRow + shift) n
      →  what rs shows at i  =  what the whole shows at i + shift

The shift is zero for every page that a batch end has closed.
-/
import ProxyClient.ResultSet

namespace ProxyClient

/-- The values of `count` rows from `start` on. -/
def window (rows : List DataRow) (start count : Nat) : List Row :=
  ((rows.drop start).take count).map DataRow.values

theorem length_window {rows : List DataRow} {start count : Nat}
    (h : start + count ≤ rows.length) : (window rows start count).length = count := by
  simp only [window, List.length_map, List.length_take, List.length_drop]
  omega

theorem getElem?_window (rows : List DataRow) (start count i : Nat) :
    (window rows start count)[i]? =
      if i < count then (rows[start + i]?).map DataRow.values else none := by
  rw [window, List.getElem?_map, List.getElem?_take]
  split
  · rw [List.getElem?_drop]
  · rfl

theorem window_zero (rows : List DataRow) (start : Nat) : window rows start 0 = [] := by
  simp [window]

namespace ResultSet

variable {rs : ResultSet} {rows : List DataRow}

/-- The result set with all of its rows in one page. -/
def whole (rs : ResultSet) (rows : List DataRow) : ResultSet :=
  { rs with rows := rows.map DataRow.values, firstRow := 0 }

@[simp] theorem bufferedRow_whole (rs : ResultSet) (rows : List DataRow) (i : Nat) :
    (rs.whole rows).bufferedRow i = (rows[i]?).map DataRow.values := by
  show (if i < 0 then none else (rows.map DataRow.values)[i - 0]?) = _
  rw [if_neg (Nat.not_lt_zero i), List.getElem?_map]
  rfl

theorem bufferedRow_of_nil (h : rs.rows = []) (i : Nat) : rs.bufferedRow i = none := by
  rw [bufferedRow]
  split
  · rfl
  · rw [h]
    rfl

/-- What a window shows stands in the whole, at a shifted place. -/
theorem bufferedRow_of_window {start count : Nat} (h : rs.rows = window rows start count)
    {shift : Nat} (aligned : start = rs.firstRow + shift) (i : Nat) :
    rs.bufferedRow i = none ∨
      rs.bufferedRow i = (rs.whole rows).bufferedRow (i + shift) := by
  rw [bufferedRow_whole]
  rw [bufferedRow]
  split
  · exact .inl rfl
  · next inside =>
    rw [h, getElem?_window]
    split
    · refine .inr ?_
      rw [show start + (i - rs.firstRow) = i + shift by omega]
    · exact .inl rfl

/-- A row is fetched only where there may be more rows. -/
theorem more_of_needsFetch {row : Nat} (h : rs.needsFetch row) :
    rs.ended = false ∧ rs.suspended = false ∧ rs.id.isSome = true := by
  simp only [needsFetch, Bool.and_eq_true, Bool.not_eq_eq_eq_not, Bool.not_true] at h
  exact ⟨h.1.1.2, h.1.2, h.2⟩

theorem needsFetch_of_ended {row : Nat} (h : rs.ended = true) : rs.needsFetch row = false := by
  simp [needsFetch, h]

/-! ### What is read of a row -/

/-- What is read at `i` is nothing, or what another result set has at `j`. -/
structure ReadsAs (rs other : ResultSet) (i j : Nat) : Prop where
  /-- The bytes of a field. -/
  field : ∀ key bytes, rs.field i key = some bytes → other.field j key = some bytes
  /-- The text of a field. -/
  fieldText : ∀ key text, rs.fieldText i key = some text → other.fieldText j key = some text
  /-- The length of a field that is not empty. -/
  fieldLength : ∀ key, rs.fieldLength i key ≠ 0 → other.fieldLength j key = rs.fieldLength i key
  /-- The texts of the row. -/
  texts : ∀ texts, rs.rowTexts i = some texts → other.rowTexts j = some texts
  /-- The lengths of its values. -/
  lengths : ∀ lengths, rs.rowLengths i = some lengths → other.rowLengths j = some lengths
  /-- Its texts with the names of their columns. -/
  pairs : ∀ pairs, rs.rowPairs i = some pairs → other.rowPairs j = some pairs

theorem field_of_none {i : Nat} (h : rs.bufferedRow i = none) (key : FieldKey) :
    rs.field i key = none := by
  rw [field]
  rw [h]
  cases rs.columnIndex key <;> rfl

/-- Where a page shows nothing, nothing is read. -/
theorem readsAs_of_none {i : Nat} (h : rs.bufferedRow i = none) (other : ResultSet) (j : Nat) :
    rs.ReadsAs other i j where
  field := by
    intro key bytes found
    rw [field_of_none h] at found
    contradiction
  fieldText := by
    intro key text found
    rw [fieldText, field_of_none h] at found
    contradiction
  fieldLength := by
    intro key found
    rw [fieldLength, field_of_none h] at found
    exact absurd rfl found
  texts := by
    intro texts found
    rw [rowTexts, h] at found
    contradiction
  lengths := by
    intro lengths found
    rw [rowLengths, h] at found
    contradiction
  pairs := by
    intro pairs found
    rw [rowPairs, rowTexts, h] at found
    split at found <;> contradiction

/-- What a page shows as the whole does is read as from the whole. -/
theorem readsAs_whole {i j : Nat} (h : rs.bufferedRow i = (rs.whole rows).bufferedRow j) :
    rs.ReadsAs (rs.whole rows) i j := by
  -- whatever is read of a row is made of its values alone
  have field (key : FieldKey) : (rs.whole rows).field j key = rs.field i key := by
    unfold ResultSet.field
    rw [h]
    rfl
  have texts : (rs.whole rows).rowTexts j = rs.rowTexts i := by
    unfold rowTexts
    rw [h]
    rfl
  refine ⟨?_, ?_, ?_, ?_, ?_, ?_⟩
  · intro key bytes found
    rw [field, found]
  · intro key text found
    rw [fieldText, field]
    exact found
  · intro key _
    rw [fieldLength, field]
    rfl
  · intro found e
    rw [texts, e]
  · intro lengths found
    rw [← found]
    unfold rowLengths
    rw [h]
  · intro pairs found
    rw [← found]
    rw [rowPairs]
    rw [texts]
    rfl

/-! ### Taking rows -/

/-- How null is read does not depend on the answer. -/
theorem nullsAsEmpty_foldl (events : List RowEvent) (rs : ResultSet) :
    (events.foldl apply rs).nullsAsEmpty = rs.nullsAsEmpty := by
  induction events generalizing rs with
  | nil => rfl
  | cons event events ih =>
    rw [List.foldl_cons, ih]
    cases event <;> rfl

/-- Rows that arrive are put behind those of the page; of the rest only the
lengths of the longest values change. -/
theorem foldl_rows (rows : List DataRow) (rs : ResultSet) :
    ∃ longest, (rows.map RowEvent.row).foldl apply rs =
      { rs with rows := rs.rows ++ rows.map DataRow.values, longest } := by
  induction rows generalizing rs with
  | nil => exact ⟨rs.longest, by simp⟩
  | cons row rows ih =>
    obtain ⟨longest, e⟩ := ih (rs.addRow row.values)
    refine ⟨longest, ?_⟩
    rw [List.map_cons, List.foldl_cons, show rs.apply (.row row) = rs.addRow row.values from rfl, e]
    simp [addRow]

/-- The values of output variables change nothing that has to do with rows. -/
theorem foldl_outputs (outputs : List (List OutputBind)) (rs : ResultSet) :
    ∃ values, (outputs.map RowEvent.outputBinds).foldl apply rs = { rs with outputs := values } := by
  induction outputs generalizing rs with
  | nil => exact ⟨rs.outputs, rfl⟩
  | cons binds outputs ih =>
    obtain ⟨values, e⟩ := ih { rs with outputs := binds }
    exact ⟨values, e⟩

end ResultSet

end ProxyClient
