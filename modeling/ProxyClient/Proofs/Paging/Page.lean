/-
ProxyClient/Proofs/Paging/Page.lean

What an answer makes of a page.  A page is open at a row once it was begun
there, by a description or by a fetch (`IsOpenAt`); rows that arrive leave it
open, and the end of the batch closes it (`HoldsBatch`).  In between its
rows stand under the index at which the page was begun, although some may
have been skipped in front of them.
-/
import ProxyClient.Cursor.Basic
import ProxyClient.Proofs.Paging.Batch

namespace ProxyClient

namespace ResultSet

variable {rs : ResultSet} {id : ResultSetId} {rows : List DataRow} {position : Nat}
  {store : RowStore} {batch : Batch}

/-- The page was begun at a row and is not yet closed. -/
structure IsOpenAt (rs : ResultSet) (id : ResultSetId) (position : Nat) : Prop where
  /-- The identifier is known. -/
  id_eq : rs.id = some id
  /-- The first row is taken for that at which the page was begun. -/
  firstRow : rs.firstRow = position
  /-- No row is counted. -/
  rowCount : rs.rowCount = position
  /-- The page was begun there. -/
  pageStart : rs.pageStart = position
  /-- There may be more rows. -/
  ended : rs.ended = false
  /-- The page was not given up. -/
  suspended : rs.suspended = false

/-- The page holds a batch of the rows, sent from a given position on. -/
structure HoldsBatch (rs : ResultSet) (id : ResultSetId) (rows : List DataRow) (position : Nat)
    (batch : Batch) : Prop where
  /-- The identifier is known. -/
  id_eq : rs.id = some id
  /-- The rows are those of the batch. -/
  rows_eq : rs.rows = window rows (position + batch.skipped) batch.count
  /-- They stand behind the rows that were skipped. -/
  firstRow : rs.firstRow = position + batch.skipped
  /-- All of them are counted. -/
  rowCount : rs.rowCount = batch.next position
  /-- The server may have said that no rows are left. -/
  ended : rs.ended = batch.ended
  /-- The page was not given up. -/
  suspended : rs.suspended = false

theorem isOpenAt_beginPage (known : rs.id = some id) (counted : rs.rowCount = position)
    (more : rs.ended = false) (present : rs.suspended = false) :
    rs.beginPage.IsOpenAt id position :=
  ⟨known, counted, counted, counted, more, present⟩

theorem isOpenAt_openWith (rs : ResultSet) (describe : Describe) :
    (rs.openWith describe).IsOpenAt describe.head.id describe.head.firstRow.toNat :=
  ⟨rfl, rfl, rfl, rfl, rfl, rfl⟩

/-- A row leaves the page open. -/
theorem IsOpenAt.foldl_rows (open_ : rs.IsOpenAt id position) (rows : List DataRow) :
    ((rows.map RowEvent.row).foldl apply rs).IsOpenAt id position ∧
      ((rows.map RowEvent.row).foldl apply rs).rows = rs.rows ++ rows.map DataRow.values := by
  obtain ⟨longest, e⟩ := ResultSet.foldl_rows rows rs
  rw [e]
  exact ⟨⟨open_.id_eq, open_.firstRow, open_.rowCount, open_.pageStart, open_.ended,
    open_.suspended⟩, rfl⟩

theorem IsOpenAt.foldl_outputs (open_ : rs.IsOpenAt id position)
    (outputs : List (List OutputBind)) :
    ((outputs.map RowEvent.outputBinds).foldl apply rs).IsOpenAt id position ∧
      ((outputs.map RowEvent.outputBinds).foldl apply rs).rows = rs.rows := by
  obtain ⟨values, e⟩ := ResultSet.foldl_outputs outputs rs
  rw [e]
  exact ⟨⟨open_.id_eq, open_.firstRow, open_.rowCount, open_.pageStart, open_.ended,
    open_.suspended⟩, rfl⟩

/-- Events without the end of a batch leave the page open. -/
theorem IsOpenAt.foldl (open_ : rs.IsOpenAt id position) {events : List RowEvent}
    (inside : ∀ event ∈ events, (∃ row, event = .row row) ∨ ∃ binds, event = .outputBinds binds) :
    (events.foldl apply rs).IsOpenAt id position := by
  induction events generalizing rs with
  | nil => exact open_
  | cons event events ih =>
    refine ih ?_ fun e mem => inside e (List.mem_cons_of_mem _ mem)
    rcases inside event (by simp) with ⟨row, rfl⟩ | ⟨binds, rfl⟩
    · exact ((open_.foldl_rows [row]).1)
    · exact ((open_.foldl_outputs [binds]).1)

/-- A batch fills the page and closes it. -/
theorem IsOpenAt.holdsBatch (open_ : rs.IsOpenAt id position) (empty : rs.rows = [])
    (told : batch.ending.rowsSkipped.toNat = batch.skipped)
    (exist : batch.next position ≤ rows.length) :
    ((batch.events rows position).foldl apply rs).HoldsBatch id rows position batch := by
  obtain ⟨open₁, rows₁⟩ :=
    open_.foldl_rows ((rows.drop (position + batch.skipped)).take batch.count)
  rw [empty, List.nil_append] at rows₁
  rw [Batch.events, List.foldl_append]
  generalize (List.map RowEvent.row _).foldl apply rs = page at open₁ rows₁
  have first : page.pageStart + batch.ending.rowsSkipped.toNat = position + batch.skipped := by
    rw [open₁.pageStart, told]
  show (page.endPage batch.ending).HoldsBatch id rows position batch
  refine ⟨open₁.id_eq, rows₁, first, ?_, ?_, open₁.suspended⟩
  · show page.pageStart + batch.ending.rowsSkipped.toNat + page.rows.length = _
    rw [first, rows₁]
    exact congrArg _ (length_window exist)
  · show (page.ended || batch.ended) = batch.ended
    rw [open₁.ended, Bool.false_or]

/-- The answer to an attachment begins the page anew, fills it and closes it. -/
theorem holdsBatch_of_attached (rs : ResultSet) {options : ExecuteOptions}
    (first : (store.describe options position).head.firstRow.toNat = position)
    (told : batch.ending.rowsSkipped.toNat = batch.skipped)
    (exist : batch.next position ≤ store.rows.length) :
    ((store.attached options position batch).foldl apply rs).HoldsBatch store.id store.rows position
      batch := by
  have open_ := isOpenAt_openWith rs (store.describe options position)
  rw [store.describe_id, first] at open_
  exact open_.holdsBatch rfl told exist

/-- So does the answer to a statement. -/
theorem holdsBatch_of_opened (rs : ResultSet) (options : ExecuteOptions)
    (told : batch.ending.rowsSkipped.toNat = batch.skipped)
    (exist : batch.next 0 ≤ store.rows.length) :
    ((store.opened options batch).foldl apply rs).HoldsBatch store.id store.rows 0 batch := by
  have open_ := isOpenAt_openWith rs (store.describe options 0)
  rw [store.describe_id, store.describe_zero] at open_
  obtain ⟨open₁, rows₁⟩ := open_.foldl_outputs store.outputs
  rw [RowStore.opened, List.foldl_cons, List.foldl_append]
  exact open₁.holdsBatch rows₁ told exist

/-- A page that holds a batch shows its rows where they stand in the whole. -/
theorem HoldsBatch.bufferedRow_eq (h : rs.HoldsBatch id rows position batch) (i : Nat) :
    rs.bufferedRow i =
      if i < rs.firstRow ∨ rs.rowCount ≤ i then none
      else (rows[i]?).map DataRow.values := by
  rw [bufferedRow]
  rw [h.firstRow, h.rowCount, h.rows_eq, getElem?_window]
  rw [Batch.next]
  by_cases below : i < position + batch.skipped
  · rw [if_pos below, if_pos (.inl below)]
  · rw [if_neg below]
    by_cases inside : i - (position + batch.skipped) < batch.count
    · rw [if_pos inside, if_neg (by omega)]
      rw [show position + batch.skipped + (i - (position + batch.skipped)) = i by omega]
    · rw [if_neg inside, if_pos (by omega)]

end ResultSet

/-! ### Recorders and receptions -/

namespace CacheWriter

/-- What becomes of a recorder, if there is one, and of its disk. -/
def record (recorder : Option CacheWriter × Disk) (event : RowEvent) : Option CacheWriter × Disk :=
  match recorder with
  | (none, disk) => (none, disk)
  | (some writer, disk) => (some (writer.apply event disk).1, (writer.apply event disk).2)

theorem takes_handler : handler.Takes fun state event => state.1.apply event state.2 :=
  fun _ _ => rfl

/-- No recorder is started or closed by an answer. -/
theorem isSome_foldl_record (events : List RowEvent) (recorder : Option CacheWriter × Disk) :
    (events.foldl record recorder).1.isSome = recorder.1.isSome := by
  induction events generalizing recorder with
  | nil => rfl
  | cons event events ih =>
    rw [List.foldl_cons, ih]
    rcases recorder with ⟨- | writer, disk⟩ <;> rfl

theorem foldl_record_some (events : List RowEvent) (writer : CacheWriter) (disk : Disk) :
    events.foldl record (some writer, disk) =
      let state := events.foldl (fun state event => state.1.apply event state.2) (writer, disk)
      (some state.1, state.2) := by
  induction events generalizing writer disk with
  | nil => rfl
  | cons event events ih => exact ih _ _

/-- At the end of a batch a recorder hands over all that it has written. -/
theorem pending_foldl_record (events : List RowEvent) (batch : BatchEnd)
    (recorder : Option CacheWriter × Disk) {writer : CacheWriter}
    (there : ((events ++ [RowEvent.batchEnd batch]).foldl record recorder).1 = some writer) :
    writer.file.pending = [] := by
  rw [List.foldl_append] at there
  rcases before : events.foldl record recorder with ⟨- | former, disk⟩
  · rw [before] at there
    contradiction
  · rw [before] at there
    obtain rfl := Option.some.inj there
    rfl

/-- A recorder that has taken a description and rows is not finished by them. -/
theorem finished_foldl_record {events : List RowEvent}
    (inside : ∀ event ∈ events, ∀ batch, event ≠ .batchEnd batch)
    (recorder : Option CacheWriter × Disk) {writer : CacheWriter}
    (there : (events.foldl record recorder).1 = some writer) :
    ∃ former, recorder.1 = some former ∧ writer.finished = former.finished := by
  induction events generalizing recorder with
  | nil => exact ⟨writer, there, rfl⟩
  | cons event events ih =>
    obtain ⟨former, before, same⟩ :=
      ih (fun e mem => inside e (List.mem_cons_of_mem _ mem)) (record recorder event) there
    rcases recorder with ⟨- | first, disk⟩
    · contradiction
    · refine ⟨first, rfl, ?_⟩
      obtain rfl := Option.some.inj before
      rw [same]
      -- only a batch end marks a file as finished
      have written (frame : Frame) : (first.writeFrame frame disk).1.finished = first.finished := by
        rw [writeFrame]
        by_cases started : first.started
        · rw [if_pos started]
        · rw [if_neg started]
          rfl
      cases event with
      | describe d =>
        by_cases described : first.described
        · simp [apply, described]
        · simpa [apply, described] using written d.frame
      | outputBinds binds => rfl
      | row r => exact written r.frame
      | batchEnd batch => exact absurd rfl (inside _ (by simp) batch)

end CacheWriter

namespace Cursor

/-- What an event makes of the parts that take an answer. -/
def Reception.take (parts : Reception) (event : RowEvent) : Reception :=
  (parts.1.apply event, CacheWriter.record parts.2 event)

theorem takes_reception : reception.Takes Reception.take := by
  rintro event ⟨rs, - | writer, disk⟩ <;> rfl

/-- The page and the recorder take the same events. -/
theorem Reception.foldl_take (events : List RowEvent) (parts : Reception) :
    events.foldl Reception.take parts =
      (events.foldl ResultSet.apply parts.1, events.foldl CacheWriter.record parts.2) := by
  induction events generalizing parts with
  | nil => rfl
  | cons event events ih => exact ih _

end Cursor

end ProxyClient
