/-
ProxyClient/Proofs/Paging/Sources.lean

What is read from the rows of a source, whatever fails.  A source is a server
over a link that may be lost at any byte, or a cache file that may be torn at
any byte (`OpensRows`).  Every value that is read of a row is that of the row
of this index, or of the one behind the shift (`Cursor.reads_shifted`), and
there is a shift only in the read whose own fetch was cut off behind rows
that it skipped.
-/
import ProxyClient.Proofs.Paging.Exact
import ProxyClient.Proofs.Paging.Indexing
import ProxyClient.Proofs.Paging.TableServer

namespace ProxyClient

variable {ν : Type} [Network ν]

namespace Cursor

variable {cursor : Cursor ν}

/-! ### Statements -/

/-- A statement that cannot be written is not sent. -/
theorem query_of_unwritten {request : QueryRequest} {link : LinkId} {e : Error}
    (ready : cursor.session.Ready link) (unwritten : request.request.encode = .error e) :
    cursor.query request = .error e cursor := by
  obtain ⟨usable, inbox, there, -⟩ := ready
  have start : (Query.exchange request reception).start { handler := cursor.parts } =
      .error e { handler := cursor.parts } := by
    simp only [Query.exchange, unwritten]
  rw [Cursor.query, Session.run_of_unwritten usable there start
    (Request.usable_of_encode_error unwritten)]
  rfl

/-- The beginning of the answer to a statement opens a page, if anything of it
arrived. -/
theorem isOpenAt_of_prefix_opened {store : RowStore} {options : ExecuteOptions} {batch : Batch}
    {front : List RowEvent} (rs : ResultSet)
    (before : front <+: .describe (store.describe options 0) ::
      (store.outputs.map RowEvent.outputBinds ++
        ((store.rows.drop (0 + batch.skipped)).take batch.count).map RowEvent.row)) :
    front = [] ∨ (front.foldl ResultSet.apply rs).IsOpenAt store.id 0 := by
  rcases front with - | ⟨event, front⟩
  · exact .inl rfl
  · obtain ⟨rfl, inside⟩ := List.cons_prefix_cons.mp before
    have open_ := ResultSet.isOpenAt_openWith rs (store.describe options 0)
    rw [store.describe_id, store.describe_zero] at open_
    refine .inr (open_.foldl ?_)
    intro event mem
    rcases List.mem_append.mp (inside.subset mem) with mem | mem
    · obtain ⟨binds, -, rfl⟩ := List.mem_map.mp mem
      exact .inr ⟨binds, rfl⟩
    · obtain ⟨row, -, rfl⟩ := List.mem_map.mp mem
      exact .inl ⟨row, rfl⟩

/-- The answer to a statement over a link that may be lost: all of it arrives,
or a page is left open, or no page was opened. -/
theorem query_execute_of_lossy (cursor : Cursor ν) {store : RowStore} {sql : String}
    {binds : BindSet} {link : LinkId} {stands : Option Nat → ν → Prop}
    (server : LossyServer store sql binds.entries link stands)
    (ready : cursor.session.Ready link) (fresh : stands none cursor.session.traffic.network)
    (options : ExecuteOptions) :
    (∃ session answer batch, session.Ready link ∧
        stands (some (batch.next 0)) session.traffic.network ∧ batch.next 0 ≤ store.rows.length ∧
        cursor.query (.execute sql binds options) = .ok () (cursor.taking session answer) ∧
        (cursor.taking session answer).result.HoldsBatch store.id store.rows 0 batch) ∨
      ∃ e session front,
        cursor.query (.execute sql binds options) = .error e (cursor.taking session front) ∧
        (front = [] ∨ session.Refuses ∧
          (cursor.taking session front).result.IsOpenAt store.id 0) := by
  rcases written : (Request.execute sql binds.entries options).encode with e | bytes
  · -- too many variables to be counted
    exact .inr ⟨e, cursor.session, [], query_of_unwritten ready written, .inl rfl⟩
  · obtain ⟨batch, within, delivers | loses⟩ := server.executes fresh options
    · obtain ⟨session, ready', -, at_, query⟩ :=
        query_of_delivered cursor (.execute sql binds options) ready written
          (store.opened_eq options batch) (store.orderly_opened options batch) delivers
      refine .inl ⟨session, _, batch, ready', at_, within.next_le, query, ?_⟩
      rw [taking_result]
      exact ResultSet.holdsBatch_of_opened _ options within.toNat_skipped within.next_le
    · obtain ⟨e, session, front, broken, -, before, query⟩ :=
        query_of_lost cursor (.execute sql binds options) ready written
          (store.opened_eq options batch) (store.orderly_opened options batch) loses
      refine .inr ⟨e, session, front, query, ?_⟩
      rw [taking_result]
      exact (isOpenAt_of_prefix_opened cursor.result before).imp_right fun open_ =>
        ⟨.inl broken, open_⟩

/-- **A statement over a link that may be lost** leaves the cursor fed, whether or
not it succeeds. -/
theorem isFed_execute {store : RowStore} {link : LinkId} {stands : Option Nat → ν → Prop}
    (idle : cursor.IsIdle)
    (server : LossyServer store (cursor.substitutions.expand cursor.sql) cursor.binds.entries
      link stands)
    (ready : cursor.session.Ready link) (fresh : stands none cursor.session.traffic.network) :
    cursor.execute.state.IsFed store.rows := by
  rcases idle.execute_cases with ⟨e, failed⟩ | ⟨armed, isArmed, ran⟩
  · rw [failed]
    exact isFed_of_unknown rfl rfl
  · -- of the recorder it matters only that it does not touch the page
    obtain ⟨recorder, disk, rfl⟩ := isArmed.same
    rw [ran, executed]
    rcases query_execute_of_lossy { cursor.cleared with recorder, disk } server ready fresh
      cursor.executeOptions with
      ⟨session, answer, batch, ready', at_, exist, query, page⟩ | ⟨e, session, front, query, cut⟩
    · rw [query]
      refine ⟨fun _ _ => ?_, fun i _ => ?_⟩
      · refine .server server rfl rfl page.id_eq ready'.statementExecuted ?_
        rw [← page.rowCount] at at_
        exact at_
      · exact (page.shows i).imp_right fun same => ⟨page.isClosed exist, same⟩
    · rw [query]
      obtain ⟨recorder', disk', given_up⟩ := abandonRecorder_eq
        (Cursor.taking { cursor.cleared with recorder, disk } session front)
      show Cursor.IsFed store.rows (Cursor.note (Cursor.abandonRecorder _) e)
      rw [given_up]
      rcases cut with rfl | ⟨refuses, open_⟩
      · exact isFed_of_unknown rfl rfl
      · exact isFed_of_open open_ (.silent rfl refuses)

/-! ### Cache files -/

omit [Network ν] in
/-- A target that is another file spares this one. -/
theorem spares_of_createTarget {armed : Cursor ν} {id : FileId} (idle : cursor.IsIdle)
    (apart : ∀ target, cursor.cacheTarget = some target →
      ∀ other disk, cursor.disk.createFile target = .ok (other, disk) → other ≠ id)
    (created : cursor.cleared.createTarget = .ok () armed) :
    armed.parts.Spares id (cursor.disk.bytesOf id) := by
  rcases createTarget_cases created with ⟨-, rfl⟩ | ⟨target, writer, disk, target_eq, new, rfl⟩
  · refine ⟨?_, rfl⟩
    intro writer there
    rw [show cursor.cleared.parts.2.1 = none from idle.recorder_eq] at there
    contradiction
  · obtain ⟨file, -⟩ := CacheWriter.create_ok new
    refine ⟨?_, Disk.bytesOf_createFile file id⟩
    intro writer' there
    obtain rfl := Option.some.inj there
    exact apart target target_eq _ _ file

/-- What a file brings when it is opened: its first page, or a part of it. -/
theorem readFirstPage_of_standsAt {reader : CacheReader} {bytes : Bytes} {rows : List DataRow}
    (fit : ∀ row ∈ rows, row.frame.Fits) (at_ : reader.StandsAt bytes rows 0)
    (first : reader.describe.head.firstRow = 0)
    (spares : cursor.parts.Spares reader.file.id bytes) :
    (∃ opened, cursor.readFirstPage reader = .ok () opened ∧ opened.IsFed rows) ∨
      ∃ e after, cursor.readFirstPage reader = .error e after ∧
        (cursor.source = none → cursor.session.Refuses → after.IsFed rows) := by
  have fed : reader.feedDescribe reception cursor.parts =
      .ok () (Reception.take cursor.parts (.describe reader.describe)) :=
    takes_reception (.describe reader.describe) cursor.parts
  have spares₁ := (Reception.leaves_spares _ _).keeps spares (.describe reader.describe)
  have open_ := ResultSet.isOpenAt_openWith cursor.result reader.describe
  rw [first] at open_
  rw [readFirstPage]
  simp only [fed]
  obtain ⟨after, id_eq, ⟨batch, few, stands, fetched⟩ | ⟨empty, e, count, fetched⟩⟩ :=
    at_.fetch takes_reception fit 0 cursor.bufferSize.toNat (Reception.leaves_spares _ _) spares₁
  · have page : (cursor.rereading after
        (.describe reader.describe :: batch.events rows 0)).result.HoldsBatch
          reader.describe.head.id rows 0 batch := by
      rw [rereading_result]
      exact open_.holdsBatch rfl
        (Batch.toNat_rowsSkipped_ending (Nat.lt_of_le_of_lt few (by decide))) stands.position_le
    have spares' := spares_rereading after spares
      (.describe reader.describe :: batch.events rows 0)
    refine .inl ⟨cursor.rereading after (.describe reader.describe :: batch.events rows 0), ?_,
      fun _ _ => ?_, fun i _ => ?_⟩
    · simp only [fetched]
      rfl
    · have stands' := stands
      rw [← page.rowCount] at stands'
      rw [← id_eq] at spares'
      exact .file fit rfl stands' spares'
    · exact (page.shows i).imp_right fun same => ⟨page.isClosed stands.position_le, same⟩
  · -- the page is open at the first row, and the reader is not kept
    have cut := (open_.foldl_rows ((rows.drop (0 + 0)).take count)).1
    have same : (cursor.taking cursor.session (.describe reader.describe ::
          ((rows.drop (0 + 0)).take count).map RowEvent.row)).result =
        (((rows.drop (0 + 0)).take count).map RowEvent.row).foldl ResultSet.apply
          (cursor.result.openWith reader.describe) := taking_result ..
    rw [← same] at cut
    refine .inr ⟨e, cursor.taking cursor.session
      (.describe reader.describe :: ((rows.drop (0 + 0)).take count).map RowEvent.row), ?_,
      fun live refuses => isFed_of_open cut (.silent live refuses)⟩
    simp only [fetched]
    rfl

/-- **Opening a file that may be torn** leaves the cursor fed, unless it fails
and the session would be asked in its place. -/
theorem isFed_openCached {path : String} {id : FileId} {header : CacheHeader} {describe : Describe}
    {rows : List DataRow} (idle : cursor.IsIdle) (fit : ∀ row ∈ rows, row.frame.Fits)
    (legible : (RowEvent.describe describe).Legible) (first : describe.head.firstRow = 0)
    (found : cursor.disk.openFile path = .ok id)
    (front : cursor.disk.bytesOf id <+:
      CacheWriter.recorded header describe rows ++ CacheWriter.endFrame.encode)
    (apart : ∀ target, cursor.cacheTarget = some target →
      ∀ other disk, cursor.disk.createFile target = .ok (other, disk) → other ≠ id)
    (opens : (∃ opened, cursor.openCached path = .ok () opened) ∨ cursor.session.Refuses) :
    (cursor.openCached path).state.IsFed rows := by
  rcases idle.openCached_cases path with ⟨e, after, failed, unknown, empty⟩ |
    ⟨reader, armed, opened, isArmed, ran⟩
  · rw [failed]
    exact isFed_of_unknown unknown empty
  · obtain ⟨id_eq, describe_eq, at_⟩ := CacheReader.standsAt_of_openAt legible found front opened
    have spares : armed.parts.Spares reader.file.id (cursor.disk.bytesOf id) := by
      rw [id_eq]
      exact spares_of_createTarget idle apart isArmed.created
    obtain ⟨recorder, disk, rfl⟩ := isArmed.same
    rw [← describe_eq] at first
    rw [ran]
    rcases readFirstPage_of_standsAt fit at_ first spares with
      ⟨after, read, fed⟩ | ⟨e, after, read, fed⟩
    · rw [read]
      exact fed
    · -- the result set of the file is known, but the session would be asked for its rows
      rw [read] at ran ⊢
      refine IsFed.note (fed rfl ?_) e
      rcases opens with ⟨opened', succeeds⟩ | refuses
      · rw [ran] at succeeds
        contradiction
      · exact refuses

/-! ### Reads -/

/-- What a cursor is after it has asked a source of the rows, whether or not
it was given an answer.  What it had open before is closed then. -/
inductive OpensRows (rows : List DataRow) : Cursor ν → Prop
  /-- It ran a statement on a server that may be lost. -/
  | server {store : RowStore} {link : LinkId} {stands : Option Nat → ν → Prop}
      {former start : Cursor ν} (clears : former.Clears start)
      (server : LossyServer store (start.substitutions.expand start.sql) start.binds.entries
        link stands)
      (rows_eq : store.rows = rows) (ready : start.session.Ready link)
      (fresh : stands none start.session.traffic.network) : OpensRows rows former.execute.state
  /-- It opened a file that may be torn.  Where that fails, the session sends no
  requests in place of the file. -/
  | file {path : String} {id : FileId} {header : CacheHeader} {describe : Describe}
      {former start : Cursor ν} (clears : former.Clears start)
      (other : former.cacheTarget.any (Disk.samePath path) = false) (fit : ∀ row ∈ rows, row.frame.Fits)
      (legible : (RowEvent.describe describe).Legible) (first : describe.head.firstRow = 0)
      (found : start.disk.openFile path = .ok id)
      (front : start.disk.bytesOf id <+:
        CacheWriter.recorded header describe rows ++ CacheWriter.endFrame.encode)
      (apart : ∀ target, start.cacheTarget = some target →
        ∀ other disk, start.disk.createFile target = .ok (other, disk) → other ≠ id)
      (opens : (∃ opened, start.openCached path = .ok () opened) ∨ start.session.Refuses) :
      OpensRows rows (former.openCached path).state

theorem OpensRows.isFed {rows : List DataRow} (opens : cursor.OpensRows rows) :
    cursor.IsFed rows := by
  cases opens with
  | server clears server rows_eq ready fresh =>
    rw [← rows_eq, clears.execute_eq]
    exact isFed_execute clears.isIdle server ready fresh
  | file clears other fit legible first found front apart opens =>
    rw [clears.openCached_eq other]
    exact isFed_openCached clears.isIdle fit legible first found front apart opens

theorem IsFed.afterReading {rows : List DataRow} (fed : cursor.IsFed rows) (reads : List UInt64) :
    (cursor.afterReading (reads.map UInt64.toNat)).IsFed rows := by
  induction reads generalizing cursor with
  | nil => exact fed
  | cons row reads ih => exact ih (fed.ensureRow row).1

/-- **Whatever fails, a read is given its row or the one behind the shift.**  Any
reads may have been made before; the page that is looked into is that of the
last read. -/
theorem reads_shifted {rows : List DataRow} {opened : Cursor ν} (opens : opened.OpensRows rows)
    (reads : List UInt64) (i : UInt64) :
    let read := (opened.afterReading (reads.map UInt64.toNat)).ensureRow i.toNat
    read.result.ReadsAs (read.result.whole rows) i.toNat (i.toNat + read.shift i.toNat) := by
  intro read
  have fed := opens.isFed.afterReading reads
  rcases (fed.ensureRow i).2 with nothing | shown
  · exact ResultSet.readsAs_of_none nothing _ _
  · exact ResultSet.readsAs_whole shown

end Cursor

/-! ### A read that is given another row -/

namespace TableServer

/-- A server that can send the answer to a statement for two rows, and two
rows more. -/
def failing : TableServer :=
  { store := fiveRowStore, budget := some 100 }

/-- A cursor that has run the statement. -/
def failingCursor : Cursor TableServer :=
  ({ failing.cursor {} with bufferSize := 2 } : Cursor TableServer).execute.state

theorem opensRows_failingCursor : failingCursor.OpensRows fiveRows := by
  have server : LossyServer failing.store (Substitutions.expand {} "") [] 0 (IsAt failing.store) :=
    lossyServer failing.store _ [] 0
  have idle : ({ failing.cursor {} with bufferSize := 2 } : Cursor TableServer).IsIdle :=
    ⟨rfl, rfl, rfl, rfl⟩
  refine .server idle.clears server rfl (ready_cursor failing {}) ⟨rfl, rfl, ?_⟩
  intro p none_
  contradiction

/-- **The read of `r3` is given `r4`**: one row was to be skipped, and the answer was
cut off behind the rows.  The next read of it is given nothing. -/
theorem reads_misindexed : failingCursor.OpensRows fiveRows ∧
    (failingCursor.row 3).1 = some [some "r4"] ∧
    ((failingCursor.row 3).2.row 3).1 = none ∧
    (failingCursor.result.whole fiveRows).rowTexts 3 = some [some "r3"] :=
  ⟨opensRows_failingCursor, by decide +kernel, by decide +kernel, by decide +kernel⟩

/-- What is known of this read, and of one that skips nothing. -/
theorem reads_shifted_failingCursor :
    failingCursor.OpensRows fiveRows ∧
      (let read := (failingCursor.afterReading [0]).ensureRow 3
      read.shift 3 = 1 ∧
        read.result.ReadsAs (read.result.whole fiveRows) 3 (3 + read.shift 3)) ∧
      (let read := (failingCursor.afterReading [1]).ensureRow 2
      read.shift 2 = 0 ∧
        read.result.ReadsAs (read.result.whole fiveRows) 2 (2 + read.shift 2)) :=
  ⟨opensRows_failingCursor,
    ⟨by decide +kernel, Cursor.reads_shifted opensRows_failingCursor [0] 3⟩,
    ⟨by decide +kernel, Cursor.reads_shifted opensRows_failingCursor [1] 2⟩⟩

end TableServer

end ProxyClient
