/-
ProxyClient/Proofs/Cache/Collecting.lean

A cursor that collects a result set in a file.  It is in step with the server,
and its recorder holds the rows in front of the place where the server stands
(`Recording.IsTaken`):

    file  =  header, first description, rows in front of the server's place

A recorder sees every row that the server passes, because nothing is skipped
while there is one.  So reads keep the file and the server together, closing
brings the rest, and a cursor that attaches goes on where the file ends
(`IsTaken.attach`).
-/
import ProxyClient.Proofs.Cache.Recording
import ProxyClient.Proofs.Cursor.Beside
import ProxyClient.Proofs.Paging.Exact

namespace ProxyClient

/-- A batch is appended: its rows, and the end frame if no rows are left. -/
theorem CacheWriter.Holds.batch {id : FileId} {since : Disk} {header : CacheHeader}
    {describe : Describe} {front : List DataRow} {described : Bool} {state : CacheWriter × Disk}
    (h : Holds id since (recorded header describe front) described false state) (batch : Batch)
    (rows : List DataRow) (position : Nat) :
    Holds id since
      (recorded header describe
          (front ++ (rows.drop (position + batch.skipped)).take batch.count) ++
        if batch.ended then endFrame.encode else [])
      described batch.ended
      ((batch.events rows position).foldl (fun state event => state.1.apply event state.2)
        state) := by
  have ended :=
    (h.rows ((rows.drop (position + batch.skipped)).take batch.count)).batchEnd batch.ending
  rw [recorded_append, Batch.events, List.foldl_append]
  simpa [Batch.ending] using ended

/-! ### Recordings -/

/-- What is recorded, and where. -/
structure Recording where
  /-- The result set. -/
  store : RowStore
  /-- How the statement asked for it. -/
  options : ExecuteOptions
  /-- The path of the file. -/
  path : String
  /-- The header of the file. -/
  header : CacheHeader

namespace Recording

open CacheWriter

variable {r : Recording} {position : Nat} {ended : Bool} {batch : Batch} {disk : Disk}
  {writer : CacheWriter} {state : Option CacheWriter × Disk}

/-- The file with the rows in front of a position, and with an end frame if the
rows are complete. -/
def image (r : Recording) (position : Nat) (ended : Bool) : Bytes :=
  recorded r.header (r.store.describe r.options 0) (r.store.rows.take position) ++
    if ended then endFrame.encode else []

/-- The file is on the disk. -/
def RestsOn (r : Recording) (position : Nat) (ended : Bool) (disk : Disk) : Prop :=
  ∃ id, disk.openFile r.path = .ok id ∧ disk.bytesOf id = r.image position ended

/-- A recorder has the file, and has yet to write what is in its buffer. -/
def HeldBy (r : Recording) (position : Nat) (ended : Bool) (state : Option CacheWriter × Disk) :
    Prop :=
  ∃ id since writer, since.openFile r.path = .ok id ∧ state.1 = some writer ∧
    Holds id since (r.image position ended) true ended (writer, state.2)

theorem image_false (r : Recording) (position : Nat) :
    r.image position false =
      recorded r.header (r.store.describe r.options 0) (r.store.rows.take position) :=
  List.append_nil _

/-! ### What a recorder makes of answers -/

/-- A recorder takes a batch from which nothing was skipped. -/
theorem HeldBy.takeBatch (held : r.HeldBy position false state) (whole : batch.skipped = 0) :
    r.HeldBy (batch.next position) batch.ended
      ((batch.events r.store.rows position).foldl record state) := by
  obtain ⟨id, since, writer, found, there, holds⟩ := held
  obtain ⟨recorder, disk⟩ := state
  obtain rfl : recorder = some writer := there
  rw [image_false] at holds
  have taken := holds.batch batch r.store.rows position
  -- the rows of the batch are those behind the position
  rw [whole, Nat.add_zero, ← List.take_add] at taken
  rw [foldl_record_some]
  refine ⟨id, since, _, found, rfl, ?_⟩
  rw [image, Batch.next, whole, Nat.add_zero]
  exact taken

/-- A second description is not recorded. -/
theorem HeldBy.takeAttached (held : r.HeldBy position false state) (whole : batch.skipped = 0)
    (options : ExecuteOptions) :
    r.HeldBy (batch.next position) batch.ended
      ((r.store.attached options position batch).foldl record state) := by
  obtain ⟨id, since, writer, found, there, holds⟩ := held
  obtain ⟨recorder, disk⟩ := state
  obtain rfl : recorder = some writer := there
  have described : r.HeldBy position false
      (record (some writer, disk) (.describe (r.store.describe options position))) :=
    ⟨id, since, _, found, rfl, holds.describe (r.store.describe options position)⟩
  exact described.takeBatch whole

/-- The first one is, behind the header. -/
theorem heldBy_of_isFresh (fresh : writer.IsFresh disk) (found : disk.openFile r.path = .ok writer.file.id)
    (header : r.header = ⟨writer.expiresAt⟩) :
    r.HeldBy 0 false
      (record (some writer, disk) (.describe (r.store.describe r.options 0))) := by
  refine ⟨writer.file.id, disk, _, found, rfl, ?_⟩
  have described := fresh.holds_describe (r.store.describe r.options 0)
  rw [← header] at described
  rw [image_false, List.take_zero, recorded, encodeRows_nil, List.append_nil]
  exact described

theorem foldl_record_outputs (outputs : List (List OutputBind)) (state : Option CacheWriter × Disk) :
    (outputs.map RowEvent.outputBinds).foldl record state = state := by
  induction outputs generalizing state with
  | nil => rfl
  | cons binds outputs ih =>
    rcases state with ⟨- | writer, disk⟩ <;> exact ih _

/-- A new recorder takes the answer to the statement. -/
theorem heldBy_of_opened (fresh : writer.IsFresh disk)
    (found : disk.openFile r.path = .ok writer.file.id) (header : r.header = ⟨writer.expiresAt⟩)
    (whole : batch.skipped = 0) :
    r.HeldBy (batch.next 0) batch.ended
      ((r.store.opened r.options batch).foldl record (some writer, disk)) := by
  rw [RowStore.opened, List.foldl_cons, List.foldl_append, foldl_record_outputs]
  exact (heldBy_of_isFresh fresh found header).takeBatch whole

/-! ### Files that are closed and continued -/

/-- A recorder that is closed leaves the file on the disk. -/
theorem HeldBy.detach (held : r.HeldBy position ended (some writer, disk)) :
    r.RestsOn position ended (writer.detach disk) := by
  obtain ⟨id, since, _, found, there, holds⟩ := held
  obtain rfl := Option.some.inj there
  obtain ⟨bytes, only⟩ := holds.detach
  exact ⟨id, (Disk.openFile_congr only.entries_eq r.path).trans found, bytes⟩

/-- With an end frame if it is finished. -/
theorem HeldBy.finish (held : r.HeldBy position ended (some writer, disk)) :
    r.RestsOn position true (writer.finish disk) := by
  obtain ⟨id, since, _, found, there, holds⟩ := held
  obtain rfl := Option.some.inj there
  obtain ⟨bytes, only⟩ := holds.finish
  refine ⟨id, (Disk.openFile_congr only.entries_eq r.path).trans found, bytes.trans ?_⟩
  cases ended
  · rw [image_false]
    rfl
  · exact List.append_nil _

/-- A file on the disk is continued, and an end frame cut off. -/
theorem RestsOn.append (rests : r.RestsOn position ended disk) :
    ∃ writer disk', CacheWriter.append r.path disk = .ok writer disk' ∧
      r.HeldBy position false (some writer, disk') := by
  obtain ⟨id, found, bytes⟩ := rests
  have stops : Stops (if ended then endFrame.encode else []) := by
    cases ended
    · exact stops_nil
    · have stops := stops_endFrame []
      rw [List.append_nil] at stops
      exact stops
  obtain ⟨writer, disk', appended, holds⟩ := append_recorded found bytes
    (r.store.describe_legible r.options 0).fits
    (fun row mem => r.store.row_fits row (List.mem_of_mem_take mem)) stops
  rw [← image_false] at holds
  exact ⟨writer, disk', appended, id, disk, writer, found, rfl, holds⟩

end Recording

/-! ### Cursors that record -/

variable {ν : Type} [Network ν]

/-- The recording of the statement that a cursor is to run. -/
def Cursor.recording (cursor : Cursor ν) (store : RowStore) (path : String) : Recording where
  store := store
  options := cursor.executeOptions
  path := path
  header := ⟨CacheHeader.expiryAfter (CacheHeader.timeOn cursor.now) cursor.cacheTtl⟩

/-- A cursor is in step with the server and records every row that the server
passes. -/
structure Recording.IsTaken (r : Recording) (link : LinkId) (stands : Option Nat → ν → Prop)
    (cursor : Cursor ν) : Prop where
  /-- Cursor and server are in step. -/
  inStep : InStep r.store link stands cursor.result.nullsAsEmpty cursor
  /-- The rows that were counted are recorded. -/
  held : r.HeldBy cursor.result.rowCount cursor.result.ended (cursor.recorder, cursor.disk)
  /-- They are in the file to the last byte. -/
  flushed : cursor.IsFlushed

/-- What every successful fetch for a row keeps is kept up to the row, if none fails. -/
theorem Cursor.fetchTo_induction {P : Cursor ν → Prop} {row : Nat}
    (step : ∀ cursor, P cursor → cursor.result.needsFetch row = true →
      ∃ count after, cursor.fetchPage (cursor.skipFor row) = .ok count after ∧ P after)
    (cursor : Cursor ν) (h : P cursor) : P (cursor.fetchTo row) := by
  -- a page that fails, an empty one, one of several, one that does not go on, and none at all
  fun_induction Cursor.fetchTo row cursor with
  | case1 cursor needs e after failed =>
    obtain ⟨_, _, fetched, -⟩ := step cursor h needs
    rw [fetched] at failed
    contradiction
  | case2 cursor needs count after fetched =>
    obtain ⟨_, _, fetched', kept⟩ := step cursor h needs
    obtain ⟨rfl, rfl⟩ := EStateM.Result.ok.inj (fetched'.symm.trans fetched)
    exact kept
  | case3 cursor needs count after fetched _ _ _ ih =>
    obtain ⟨_, _, fetched', kept⟩ := step cursor h needs
    obtain ⟨rfl, rfl⟩ := EStateM.Result.ok.inj (fetched'.symm.trans fetched)
    exact ih kept
  | case4 cursor needs count after fetched =>
    obtain ⟨_, _, fetched', kept⟩ := step cursor h needs
    obtain ⟨rfl, rfl⟩ := EStateM.Result.ok.inj (fetched'.symm.trans fetched)
    exact kept
  | case5 cursor enough => exact h

namespace Recording.IsTaken

variable {r : Recording} {sql : String} {binds : List Bind} {link : LinkId}
  {stands : Option Nat → ν → Prop} {cursor : Cursor ν}

omit [Network ν] in
/-- It is enough that the page holds a batch from which nothing was skipped. -/
theorem of_holdsBatch {nulls : Bool} {position : Nat} {batch : Batch}
    (inStep : InStep r.store link stands nulls cursor)
    (page : cursor.result.HoldsBatch r.store.id r.store.rows position batch)
    (held : r.HeldBy (batch.next position) batch.ended (cursor.recorder, cursor.disk))
    (flushed : cursor.IsFlushed) : r.IsTaken link stands cursor where
  inStep := by
    rw [inStep.nulls_eq]
    exact inStep
  held := by
    rw [page.rowCount, page.ended]
    exact held
  flushed := flushed

/-- A fetch for a row takes all the rows in front of it, and they are recorded. -/
theorem fetchPage (server : PagingServer r.store sql binds link stands)
    (taken : r.IsTaken link stands cursor) {row : Nat} (needs : cursor.result.needsFetch row = true) :
    ∃ count after, cursor.fetchPage (cursor.skipFor row) = .ok count after ∧
      r.IsTaken link stands after := by
  have inStep := taken.inStep
  have more := (ResultSet.more_of_needsFetch needs).1
  -- nothing is skipped while there is a recorder
  have recorded : cursor.skipFor row = 0 := by
    obtain ⟨id, since, writer, -, there, -⟩ := taken.held
    rw [Cursor.skipFor]
    rw [show cursor.recorder = some writer from there]
    rfl
  have held := taken.held
  rw [more] at held
  rw [recorded]
  have within := Batch.documented_within (server.bounded inStep.stands) (UInt64.ofNat 0)
    cursor.bufferSize
  obtain ⟨after, fetched, inStep', page⟩ := inStep.fetchPage server more 0
  obtain ⟨session, -, -, -, fetched'⟩ :=
    Cursor.fetchPage_of_delivered inStep.live inStep.id_eq inStep.ready
      (server.fetches inStep.stands (UInt64.ofNat 0) cursor.bufferSize)
  obtain ⟨-, rfl⟩ := EStateM.Result.ok.inj (fetched.symm.trans fetched')
  -- the recorder took the same events as the page
  refine ⟨_, _, fetched, of_holdsBatch inStep' page ?_ (Cursor.isFlushed_taking _ _ rfl)⟩
  rw [Cursor.taking_recorder]
  exact held.takeBatch (Batch.skipped_documented_zero ..)

/-- Reads are recorded. -/
theorem ensureRow (server : PagingServer r.store sql binds link stands)
    (taken : r.IsTaken link stands cursor) (row : Nat) :
    r.IsTaken link stands (cursor.ensureRow row) := by
  rw [taken.inStep.ensureRow_eq]
  exact Cursor.fetchTo_induction (fun _ taken needs => taken.fetchPage server needs) cursor taken

/-- The statement of a prepared cursor with a target begins to be recorded. -/
theorem execute {start : Cursor ν} {store : RowStore} {path : String}
    (server : PagingServer store (start.substitutions.expand start.sql) start.binds.entries link
      stands)
    (prepared : start.IsPrepared) (target : start.cacheTarget = some path)
    (sound : start.disk.IsSound) (ready : start.session.Ready link)
    (fresh : stands none start.session.traffic.network) :
    ∃ opened : Cursor ν, start.execute = .ok () opened ∧
      (start.recording store path).IsTaken link stands opened := by
  have within := Batch.documented_within (Nat.zero_le store.rows.length) 0 start.bufferSize
  obtain ⟨opened, ran, inStep⟩ := InStep.execute server prepared ready fresh
  obtain ⟨armed, session, isArmed, -, -, ran'⟩ :=
    prepared.execute_of_delivers ready (server.executes fresh start.executeOptions)
  obtain ⟨-, rfl⟩ := EStateM.Result.ok.inj (ran.symm.trans ran')
  have page : (armed.taking session (store.opened start.executeOptions
      (Batch.documented store.rows.length 0 0 start.bufferSize))).result.HoldsBatch
        store.id store.rows 0 (Batch.documented store.rows.length 0 0 start.bufferSize) := by
    rw [Cursor.taking_result]
    exact ResultSet.holdsBatch_of_opened _ _ within.toNat_skipped within.next_le
  -- the recorder is the one that was created for the target
  obtain ⟨writer, disk, created, rfl⟩ := isArmed.exists_writer target
  obtain ⟨isFresh, found, expiry⟩ := CacheWriter.create_spec sound created
  refine ⟨_, ran, of_holdsBatch inStep page ?_
    (Cursor.isFlushed_taking _ session (store.opened_eq _ _))⟩
  show Recording.HeldBy _ _ _
    ((Cursor.taking _ session _).recorder, (Cursor.taking _ session _).disk)
  rw [Cursor.taking_recorder]
  refine Recording.heldBy_of_opened isFresh found ?_ (Batch.skipped_documented_zero ..)
  rw [expiry]
  rfl

/-- **A cursor that attaches continues to record** where the former one stopped. -/
theorem attach {stands : LinkId → Option Nat → ν → Prop} {parked : Nat → ν → Prop}
    (server : ResumableServer r.store sql binds stands parked) {position : Nat} {ended : Bool}
    (left : cursor.IsLeft) (flushed : cursor.IsFlushed) (ready : cursor.session.Ready link)
    (at_ : stands link (some position) cursor.session.traffic.network)
    (rests : r.RestsOn position ended cursor.disk) :
    ∃ after : Cursor ν, cursor.resumeCached r.store.id r.path = .ok () after ∧
      r.IsTaken link (stands link) after := by
  rw [← flushed.disk_detachRecorder] at rests
  have exist := (server.pages link).bounded at_
  obtain ⟨writer, disk, appended, held⟩ := rests.append
  -- the cursor that asks the server
  let armed : Cursor ν := { cursor.detachRecorder.cleared with recorder := some writer, disk }
  have continued : cursor.detachRecorder.cleared.continueRecorder r.path = .ok () armed := by
    have appended' : CacheWriter.append r.path cursor.detachRecorder.cleared.disk =
        .ok writer disk := appended
    rw [Cursor.continueRecorder]
    rw [appended']
  have session_eq : armed.session = cursor.session := by
    show cursor.detachRecorder.session = _
    rw [Cursor.detachRecorder_eq]
  have within := Batch.documented_within exist 0 armed.bufferSize
  -- what the server answers, and what page and recorder make of it
  have delivers := server.attaches at_ armed.executeOptions
  rw [← session_eq] at ready delivers
  obtain ⟨session, ready', -, at', query⟩ :=
    Cursor.query_of_delivered armed (.resume r.store.id armed.executeOptions) ready rfl
      (r.store.attached_eq _ position _) (r.store.orderly_attached _ position _) delivers
  have ran : cursor.resumeCached r.store.id r.path = .ok () (Cursor.opened (armed.taking session
      (r.store.attached armed.executeOptions position
        (Batch.documented r.store.rows.length position 0 armed.bufferSize)))) := by
    rw [left.resumeCached_eq, continued]
    simp only [query]
    rfl
  have page : (armed.taking session (r.store.attached armed.executeOptions position
      (Batch.documented r.store.rows.length position 0 armed.bufferSize))).result.HoldsBatch
        r.store.id r.store.rows position
        (Batch.documented r.store.rows.length position 0 armed.bufferSize) := by
    rw [Cursor.taking_result]
    exact ResultSet.holdsBatch_of_attached _ (server.describes _ _ exist) within.toNat_skipped
      within.next_le
  refine ⟨_, ran, of_holdsBatch (InStep.of_holdsBatch rfl ready' rfl rfl page
    (Batch.next_documented_of_ended exist) at') page ?_
    (Cursor.isFlushed_taking armed session (r.store.attached_eq _ position _))⟩
  show r.HeldBy _ _ ((Cursor.taking armed session _).recorder, (Cursor.taking armed session _).disk)
  rw [Cursor.taking_recorder]
  exact held.takeAttached (Batch.skipped_documented_zero ..) armed.executeOptions

omit [Network ν] in
/-- Whenever no answer is under way the file rests on the disk. -/
theorem rests (taken : r.IsTaken link stands cursor) :
    r.RestsOn cursor.result.rowCount cursor.result.ended cursor.disk := by
  obtain ⟨id, since, writer, -, there, -⟩ := taken.held
  have there' : cursor.recorder = some writer := there
  have closed : writer.detach cursor.disk = cursor.disk :=
    CacheWriter.detach_of_nil (taken.flushed writer there')
  have held := taken.held
  rw [there'] at held
  have rests := held.detach
  rw [closed] at rests
  exact rests

/-- What is left at the server is asked for, and taken by the writer alone. -/
theorem drain_eq (inStep : InStep r.store link stands cursor.result.nullsAsEmpty cursor)
    (more : cursor.result.ended = false) {writer : CacheWriter} (open_ : writer.finished = false) :
    ({ cursor with recorder := none } : Cursor ν).drain writer =
      (cursor.session.run (Query.exchange (.fetch r.store.id 0 0) CacheWriter.handler)
          { handler := (writer, cursor.disk) }).mapState fun (session, query) =>
        (query.handler.1,
          { cursor with session, disk := query.handler.2, recorder := none }) := by
  have asks : ({ cursor with recorder := none } : Cursor ν).openAtServer? = some r.store.id := by
    unfold Cursor.openAtServer?
    simp only [inStep.live, more, inStep.present, inStep.id_eq]
    rfl
  exact Cursor.drain_eq_run open_ asks

/-- The rows that nobody has read are drained into the file. -/
theorem drain (server : PagingServer r.store sql binds link stands)
    (taken : r.IsTaken link stands cursor) {writer : CacheWriter}
    (there : cursor.recorder = some writer) :
    ∃ (writer' : CacheWriter) (after : Cursor ν),
      ({ cursor with recorder := none } : Cursor ν).drain writer = .ok () (writer', after) ∧
      r.HeldBy r.store.rows.length true (some writer', after.disk) := by
  have inStep := taken.inStep
  have held := taken.held
  rw [there] at held
  obtain ⟨id, since, _, -, same, holds⟩ := taken.held
  obtain rfl := Option.some.inj (there.symm.trans same)
  have finished : writer.finished = cursor.result.ended := holds.finished_eq
  cases ended : cursor.result.ended with
  | true =>
    -- the end frame is there, and nothing is asked for
    rw [ended, inStep.complete ended] at held
    refine ⟨writer, { cursor with recorder := none }, ?_, held⟩
    rw [Cursor.drain, if_pos (finished.trans ended)]
  | false =>
    -- a fetch without a limit brings all of them
    rw [ended] at held
    have within := Batch.documented_within (server.bounded inStep.stands) 0 0
    obtain ⟨session, query, ran, -, -, -, drained⟩ :=
      Session.run_of_delivered CacheWriter.takes_handler inStep.ready
        (show (QueryRequest.fetch r.store.id 0 0).request.encode = .ok _ from rfl)
        (r.store.orderly_fetched cursor.result.rowCount _) (server.fetches inStep.stands 0 0)
        { handler := (writer, cursor.disk) }
    have recorded := held.takeBatch
      (Batch.skipped_documented_zero r.store.rows.length cursor.result.rowCount 0)
    rw [CacheWriter.foldl_record_some, within.next_eq rfl] at recorded
    refine ⟨query.handler.1, { cursor with session, disk := query.handler.2, recorder := none },
      ?_, ?_⟩
    · rw [drain_eq inStep ended (finished.trans ended), ran]
      rfl
    · show r.HeldBy _ true (some query.handler.1, query.handler.2)
      rw [drained]
      exact recorded

/-- **Closing completes the file**, and the end frame stands behind the rows. -/
theorem close (server : PagingServer r.store sql binds link stands)
    (taken : r.IsTaken link stands cursor) :
    ∃ closed : Cursor ν, cursor.close = .ok () closed ∧
      r.RestsOn r.store.rows.length true closed.disk := by
  obtain ⟨id, since, writer, -, there, -⟩ := taken.held
  have there' : cursor.recorder = some writer := there
  obtain ⟨writer', after, drained, held⟩ := taken.drain server there'
  rw [Cursor.close, taken.inStep.checkEpoch_eq, Cursor.settle, there']
  simp only [drained]
  exact ⟨_, rfl, held.finish⟩

end Recording.IsTaken

end ProxyClient
