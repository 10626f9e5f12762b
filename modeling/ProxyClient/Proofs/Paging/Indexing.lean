/-
ProxyClient/Proofs/Paging/Indexing.lean

Under which index a row is read.  The page of a fetch that came to its end
shows every row under its own index.  The page of a fetch that was cut off
was begun where the rows were to be skipped, and shows the first row behind
them there:

    begun at p, s rows skipped, rows p + s, p + s + 1, ... arrived, then cut off
      →  the row at p + s + k is read at p + k

This is seen by the very read that asked for the rows: it is given the row
`shift` behind the one that it asked for.  No later read sees it, because the
page is fetched anew.  Where nothing was skipped, and where a recorder wants
to see every row, the shift is zero.
-/
import ProxyClient.Proofs.Cursor.Opening
import ProxyClient.Proofs.Paging.Supply

namespace ProxyClient

variable {ν : Type} [Network ν]

namespace ResultSet

variable {rs : ResultSet} {id : ResultSetId} {rows : List DataRow} {position : Nat} {batch : Batch}

/-- All rows of the page are counted. -/
def IsClosed (rs : ResultSet) : Prop :=
  rs.rowCount = rs.firstRow + rs.rows.length

instance (rs : ResultSet) : Decidable rs.IsClosed :=
  inferInstanceAs (Decidable (rs.rowCount = rs.firstRow + rs.rows.length))

/-- A batch that has come to its end closes the page. -/
theorem HoldsBatch.isClosed (page : rs.HoldsBatch id rows position batch)
    (exist : batch.next position ≤ rows.length) : rs.IsClosed := by
  have length : rs.rows.length = batch.count := by
    rw [page.rows_eq]
    exact length_window exist
  show rs.rowCount = rs.firstRow + rs.rows.length
  rw [page.rowCount, page.firstRow, length]
  rfl

/-- The rows of a batch are shown under their own index. -/
theorem HoldsBatch.shows (page : rs.HoldsBatch id rows position batch) (i : Nat) :
    rs.bufferedRow i = none ∨ rs.bufferedRow i = (rs.whole rows).bufferedRow i := by
  have aligned : position + batch.skipped = rs.firstRow + 0 := page.firstRow.symm
  exact bufferedRow_of_window page.rows_eq aligned i

/-- Where a page is open, nothing is shown that need not be fetched. -/
theorem IsOpenAt.bufferedRow_eq (open_ : rs.IsOpenAt id position) {i : Nat}
    (enough : rs.needsFetch i = false) : rs.bufferedRow i = none := by
  have counted : i < rs.firstRow := by
    rw [open_.firstRow, ← open_.rowCount]
    simpa [needsFetch, open_.ended, open_.suspended, open_.id_eq] using enough
  rw [bufferedRow]
  rw [if_pos counted]

end ResultSet

namespace Cursor

/-- The number of rows between the index of a read and the row that it is
given.  The rows of a page that was cut off are taken for those at which it
was begun. -/
def shift (row : Nat) (cursor : Cursor ν) : Nat :=
  if cursor.result.IsClosed ∨ cursor.recorder.isSome then 0 else row - cursor.result.firstRow

/-- What the cursor shows for a row is nothing, or the row behind the shift. -/
def Shows (rows : List DataRow) (row : Nat) (cursor : Cursor ν) : Prop :=
  cursor.result.bufferedRow row = none ∨
    cursor.result.bufferedRow row = (cursor.result.whole rows).bufferedRow (row + cursor.shift row)

/-- The cursor is given rows in order, and what it holds of them it holds in
its place. -/
structure IsFed (rows : List DataRow) (cursor : Cursor ν) : Prop where
  /-- The rows of a fetch come from the supply. -/
  supplied : cursor.result.id.isSome → cursor.result.suspended = false →
    cursor.IsSupplied rows cursor.result.rowCount
  /-- A row that need not be fetched is not there, or it is in its place. -/
  settled : ∀ i, cursor.result.needsFetch i = false → cursor.result.bufferedRow i = none ∨
    cursor.result.IsClosed ∧ cursor.result.bufferedRow i = (cursor.result.whole rows).bufferedRow i

section

variable {cursor : Cursor ν} {rows : List DataRow} {id : ResultSetId} {position : Nat}

/-! ### Steps -/

/-- A cursor without a result set is given nothing. -/
theorem isFed_of_unknown (unknown : cursor.result.id = none) (empty : cursor.result.rows = []) :
    cursor.IsFed rows where
  supplied := by
    intro known
    rw [unknown] at known
    contradiction
  settled := fun i _ => .inl (ResultSet.bufferedRow_of_nil empty i)

/-- A page that is open shows nothing before a fetch. -/
theorem isFed_of_open (open_ : cursor.result.IsOpenAt id position)
    (supplied : cursor.IsSupplied rows position) : cursor.IsFed rows where
  supplied := by
    intro _ _
    rw [open_.rowCount]
    exact supplied
  settled := fun _ enough => .inl (open_.bufferedRow_eq enough)

/-- A row that need not be fetched is shown in its place. -/
theorem IsFed.shows (fed : cursor.IsFed rows) {row : Nat}
    (enough : cursor.result.needsFetch row = false) : cursor.Shows rows row := by
  rcases fed.settled row enough with none_ | ⟨closed, same⟩
  · exact .inl none_
  · refine .inr ?_
    rw [shift, if_pos (.inl closed), Nat.add_zero]
    exact same

theorem IsSupplied.note (supplied : cursor.IsSupplied rows position) (e : Error) :
    (cursor.note e).IsSupplied rows position := by
  cases supplied with
  | server server rows_eq live known ready at_ =>
    exact .server server rows_eq live known ready at_
  | silent live refuses => exact .silent live refuses
  | file fit source at_ spares => exact .file fit source at_ spares

theorem IsFed.note (fed : cursor.IsFed rows) (e : Error) : (cursor.note e).IsFed rows where
  supplied := fun known present => (fed.supplied known present).note e
  settled := fed.settled

/-- A fetch leaves the cursor fed. -/
theorem HasFetched.isFed {skip : Nat} {recording : Bool} {outcome : Outcome Nat (Cursor ν)}
    (fetched : HasFetched rows id position skip recording outcome) :
    outcome.state.IsFed rows where
  supplied := fun _ _ => fetched.supplied
  settled := by
    intro i enough
    rcases fetched.page with ⟨_, batch, -, page, exist⟩ | ⟨_, _, -, open_, -⟩
    · exact (page.shows i).imp_right fun same => ⟨page.isClosed exist, same⟩
    · exact .inl (open_.bufferedRow_eq enough)

/-- **A fetch for a row** shows it, or one behind it if it was cut off. -/
theorem HasFetched.shows {row : Nat} {outcome : Outcome Nat (Cursor ν)}
    (fetched : HasFetched rows id cursor.result.rowCount (cursor.skipFor row)
      cursor.recorder.isSome outcome) : outcome.state.Shows rows row := by
  rcases fetched.page with ⟨_, batch, -, page, exist⟩ | ⟨_, count, -, open_, shown⟩
  · refine (page.shows row).imp_right fun same => ?_
    rw [shift, if_pos (.inl (page.isClosed exist)), Nat.add_zero]
    exact same
  · rw [Shows, shift]
    by_cases closed : outcome.state.result.IsClosed
    · -- a page without counted rows is closed only if it is empty
      have empty : outcome.state.result.rows.length = 0 := by
        have counted : outcome.state.result.rowCount = _ := closed
        rw [open_.rowCount, open_.firstRow] at counted
        omega
      exact .inl (ResultSet.bufferedRow_of_nil (List.length_eq_zero_iff.mp empty) row)
    · have asked : cursor.skipFor row =
          if outcome.state.result.IsClosed ∨ outcome.state.recorder.isSome then 0
          else row - outcome.state.result.firstRow := by
        rw [skipFor, fetched.recording_eq, open_.firstRow]
        simp [closed]
      rw [← asked]
      refine ResultSet.bufferedRow_of_window shown ?_ row
      rw [open_.firstRow]

/-- Fetching goes on until the row is shown, or there is nothing to show. -/
theorem IsFed.fetchTo (fed : cursor.IsFed rows) (row : UInt64) :
    (cursor.fetchTo row.toNat).IsFed rows ∧ (cursor.fetchTo row.toNat).Shows rows row.toNat := by
  -- one fetch, whatever it comes to
  have fetch (cursor : Cursor ν) (fed : cursor.IsFed rows)
      (needs : cursor.result.needsFetch row.toNat) :
      ∃ id, HasFetched rows id cursor.result.rowCount (cursor.skipFor row.toNat)
        cursor.recorder.isSome (cursor.fetchPage (cursor.skipFor row.toNat)) := by
    obtain ⟨more, present, isSome⟩ := ResultSet.more_of_needsFetch needs
    obtain ⟨id, known⟩ := Option.isSome_iff_exists.mp isSome
    have small : cursor.skipFor row.toNat < 2 ^ 64 := by
      have bound := row.toNat_lt
      rw [skipFor]
      split <;> omega
    exact ⟨id, (fed.supplied isSome present).fetchPage known more present small⟩
  fun_induction Cursor.fetchTo row.toNat cursor with
  | case1 cursor needs e after failed =>
    -- the fetch was cut off, and the page is looked into nevertheless
    obtain ⟨id, fetched⟩ := fetch cursor fed needs
    rw [failed] at fetched
    exact ⟨fetched.isFed.note e, fetched.shows⟩
  | case2 cursor needs count after brought stuck =>
    obtain ⟨id, fetched⟩ := fetch cursor fed needs
    rw [brought] at fetched
    exact ⟨fetched.isFed, fetched.shows⟩
  | case3 cursor needs count after brought _ _ _ ih =>
    obtain ⟨id, fetched⟩ := fetch cursor fed needs
    rw [brought] at fetched
    exact ih fetched.isFed
  | case4 cursor needs count after brought _ still =>
    obtain ⟨id, fetched⟩ := fetch cursor fed needs
    rw [brought] at fetched
    exact ⟨fetched.isFed, fetched.shows⟩
  | case5 cursor enough => exact ⟨fed, fed.shows (by simpa using enough)⟩

/-- A page that is given up shows nothing. -/
theorem IsFed.checkEpoch (fed : cursor.IsFed rows) : cursor.checkEpoch.IsFed rows := by
  rw [Cursor.checkEpoch]
  split
  · -- a page that was given up has no rows
    have page : ({ cursor with result := cursor.result.suspend } : Cursor ν).detachRecorder.result =
        cursor.result.suspend := by
      rw [detachRecorder]
      split <;> rfl
    refine ⟨?_, ?_⟩
    · intro _ present
      rw [page] at present
      contradiction
    · intro i _
      rw [page]
      exact .inl (ResultSet.bufferedRow_of_nil rfl i)
  · exact fed

/-- A read shows its row, or the one behind the shift. -/
theorem IsFed.ensureRow (fed : cursor.IsFed rows) (row : UInt64) :
    (cursor.ensureRow row.toNat).IsFed rows ∧ (cursor.ensureRow row.toNat).Shows rows row.toNat :=
  fed.checkEpoch.fetchTo row

end

end Cursor

end ProxyClient
