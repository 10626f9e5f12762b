/-
ProxyClient/Proofs/Cursor/Closing.lean

Closing comes to an end in every case, and there is nothing left to close
behind it.  The disk of the model takes whatever is written; a real one may
be full, or gone.  So a cursor is closed here on any `Storage`, which may
fail wherever the disk is used, and then leaves behind what it likes:

    the recorder takes a row        storage.record
    a cached page is read on        storage.read
    the recorder is completed       storage.finish
    the recorder is let go          storage.detach

Closing is an action of four parts: a page of another epoch is given up,
the recorder is filled with what nobody has read, or else the server is told
to discard it, and the cursor forgets the result set.  Each part is the one
of `Cursor.close` with the storage in place of the disk, so that on
`Storage.reliable` nothing is different (`Cursor.closeOn_reliable`).

Forgetting is the last part and cannot fail.  That is why the errors in front
of it do not matter, and why a second closing has nothing to do, on whatever
storage (`Cursor.closes_once`).
-/
import ProxyClient.Cursor.Statement
import ProxyClient.Proofs.Session.Requests

namespace ProxyClient

/-- What serves a cursor that closes its result set: each service may fail. -/
structure Storage where
  /-- The recorder takes an event. -/
  record : Handler (CacheWriter × Disk)
  /-- The recorder takes the rows of a file that nobody has read. -/
  read : CacheReader → CacheWriter × Disk → Outcome Unit (CacheReader × CacheWriter × Disk)
  /-- The end frame is written, and the file of the recorder closed. -/
  finish : CacheWriter → Disk → Outcome Unit Disk
  /-- The file of the recorder is closed without an end frame. -/
  detach : CacheWriter → Disk → Outcome Unit Disk

/-- A disk that takes whatever is written. -/
def Storage.reliable : Storage where
  record := CacheWriter.handler
  read reader := reader.fetch CacheWriter.handler Prod.snd 0 0
  finish writer disk := .ok () (writer.finish disk)
  detach writer disk := .ok () (writer.detach disk)

namespace Cursor

variable {ν : Type}

/-! ### Closing on a storage -/

/-- Closes the recorder without an end frame.  Whether that could be done does not
matter. -/
def detachRecorderOn (storage : Storage) (cursor : Cursor ν) : Cursor ν :=
  match cursor.recorder with
  | none => cursor
  | some writer =>
    { cursor with recorder := none, disk := (storage.detach writer cursor.disk).state }

/-- Gives up a page of another epoch. -/
def checkEpochOn (storage : Storage) (cursor : Cursor ν) : Cursor ν :=
  if cursor.source.isNone ∧ cursor.result.id.isSome ∧ !cursor.result.suspended ∧
      cursor.session.connection.epoch ≠ cursor.epoch then
    { cursor with result := cursor.result.suspend }.detachRecorderOn storage
  else cursor

variable [Network ν]

/-- Lets a recorder take the rows that nobody has read. -/
def drainOn (storage : Storage) (writer : CacheWriter) (cursor : Cursor ν) :
    Outcome Unit (CacheWriter × Cursor ν) :=
  if writer.finished then .ok () (writer, cursor)
  else
    match cursor.source with
    | some reader =>
      (storage.read reader (writer, cursor.disk)).mapState
        fun (reader, writer, disk) => (writer, { cursor with source := some reader, disk })
    | none =>
      match cursor.openAtServer? with
      | none => .ok () (writer, cursor)
      | some id =>
        (cursor.session.run (Query.exchange (.fetch id 0 0) storage.record)
            { handler := (writer, cursor.disk) }).mapState
          fun (session, query) =>
            (query.handler.1, { cursor with session, disk := query.handler.2 })

/-- Completes what is recorded, or tells the server to discard its rows.  If the
rows could not be recorded, whether the recorder could be closed does not
matter. -/
def settleOn (storage : Storage) (cursor : Cursor ν) : Outcome Unit (Cursor ν) :=
  match cursor.recorder with
  | some writer =>
    match { cursor with recorder := none }.drainOn storage writer with
    | .ok () (writer, cursor) =>
      (storage.finish writer cursor.disk).mapState fun disk => { cursor with disk }
    | .error e (writer, cursor) =>
      .error e { cursor with disk := (storage.detach writer cursor.disk).state }
  | none =>
    match cursor.openAtServer? with
    | none => .ok () cursor
    | some id =>
      (cursor.session.run (Command.abortResultSet id).exchange none).mapState
        fun (session, _) => { cursor with session }

/-- Closes the result set on a storage. -/
def closeOn (storage : Storage) (cursor : Cursor ν) : Outcome Unit (Cursor ν) :=
  ((cursor.checkEpochOn storage).settleOn storage).mapState forget

/-! ### The disk that takes everything -/

omit [Network ν] in
theorem checkEpochOn_reliable (cursor : Cursor ν) :
    cursor.checkEpochOn .reliable = cursor.checkEpoch := by
  rw [checkEpochOn, checkEpoch]
  rfl

theorem drainOn_reliable (writer : CacheWriter) (cursor : Cursor ν) :
    cursor.drainOn .reliable writer = cursor.drain writer := by
  rw [drainOn, drain]
  rfl

theorem settleOn_reliable (cursor : Cursor ν) : cursor.settleOn .reliable = cursor.settle := by
  rw [settleOn, settle]
  rcases cursor.recorder with - | writer
  · rfl
  · simp only [drainOn_reliable]
    rcases ({ cursor with recorder := none } : Cursor ν).drain writer with
      ⟨⟨⟩, writer', after⟩ | ⟨e, writer', after⟩
    · rfl
    · rfl

/-- **On a disk that takes whatever is written, closing is the closing of the
client.** -/
theorem closeOn_reliable (cursor : Cursor ν) : cursor.closeOn .reliable = cursor.close := by
  rw [closeOn, close, checkEpochOn_reliable, settleOn_reliable]

/-! ### What is sent -/

/-- The requests that close a result set: for the rest of its rows, or to discard it. -/
def Closes (cursor : Cursor ν) (request : Request) : Prop :=
  ∃ id, cursor.result.id = some id ∧
    (request = .fetch id 0 0 ∨ request = .command (.abortResultSet id))

/-- Since a given cursor, one request was sent at most, and this closes its result set. -/
def ClosesWithin (cursor : Cursor ν) (traffic : Traffic ν) : Prop :=
  ∃ requests, cursor.session.traffic.Asks requests traffic ∧ requests.length ≤ 1 ∧
    ∀ request ∈ requests, cursor.Closes request

variable {cursor : Cursor ν} {storage : Storage}

omit [Network ν] in
theorem ClosesWithin.refl (cursor : Cursor ν) : cursor.ClosesWithin cursor.session.traffic :=
  ⟨[], .refl _, Nat.zero_le 1, List.forall_mem_nil _⟩

omit [Network ν] in
theorem eq_id_of_openAtServer? {id : ResultSetId} (h : cursor.openAtServer? = some id) :
    cursor.result.id = some id := by
  rw [openAtServer?] at h
  split at h
  · exact h
  · contradiction

omit [Network ν] in
/-- Without an identifier there is nothing to ask for. -/
theorem openAtServer?_of_unknown (unknown : cursor.result.id = none) :
    cursor.openAtServer? = none := by
  rw [openAtServer?, unknown, ite_self]

/-- An exchange for a request that closes the result set. -/
theorem closesWithin_run {σ : Type} {exchange : Exchange σ} {request : Request}
    (sends : exchange.Sends request) (closes : cursor.Closes request) (state : σ) :
    cursor.ClosesWithin (cursor.session.run exchange state).state.1.traffic :=
  ⟨_, Session.asks_run sends cursor.session state, Session.length_requests_le ..,
    fun _ mem => Session.eq_of_mem_requests mem ▸ closes⟩

theorem closesWithin_drainOn (storage : Storage) (writer : CacheWriter) (cursor : Cursor ν) :
    cursor.ClosesWithin (cursor.drainOn storage writer).state.2.session.traffic := by
  rw [drainOn]
  split
  · -- the end frame is written already
    exact .refl cursor
  · split
    · -- the rows that are left come from a file
      rw [Outcome.state_mapState]
      exact .refl cursor
    · split
      · -- nothing is open at the server
        exact .refl cursor
      · -- one request for all that are left
        next id opened =>
        rw [Outcome.state_mapState]
        exact closesWithin_run (Query.sends_exchange (.fetch id 0 0) storage.record)
          ⟨id, eq_id_of_openAtServer? opened, .inl rfl⟩ _

theorem closesWithin_settleOn (storage : Storage) (cursor : Cursor ν) :
    cursor.ClosesWithin (cursor.settleOn storage).state.session.traffic := by
  rw [settleOn]
  split
  · -- the recorder fetches what is left
    next writer _ =>
    have within := closesWithin_drainOn storage writer ({ cursor with recorder := none } : Cursor ν)
    split
    · next ran =>
      rw [ran] at within
      rw [Outcome.state_mapState]
      exact within
    · next ran =>
      rw [ran] at within
      exact within
  · split
    · exact .refl cursor
    · -- without one the result set is aborted
      next id opened =>
      rw [Outcome.state_mapState]
      exact closesWithin_run (Command.abortResultSet id).sends_exchange
        ⟨id, eq_id_of_openAtServer? opened, .inr rfl⟩ none

/-! ### What is left -/

omit [Network ν] in
/-- Giving up a page changes no more than the result set, the recorder and the disk,
and the result set is still the same. -/
theorem checkEpochOn_with (storage : Storage) (cursor : Cursor ν) :
    ∃ result recorder disk,
      cursor.checkEpochOn storage = { cursor with result, recorder, disk } ∧
        result.id = cursor.result.id := by
  rw [checkEpochOn, detachRecorderOn]
  split
  · split <;> exact ⟨_, _, _, rfl, rfl⟩
  · exact ⟨_, _, _, rfl, rfl⟩

/-- Draining changes no more than the session, the disk and the source. -/
theorem state_drainOn (storage : Storage) (writer : CacheWriter) (cursor : Cursor ν) :
    ∃ writer' session disk source,
      (cursor.drainOn storage writer).state = (writer', { cursor with session, disk, source }) := by
  rw [drainOn]
  split
  · exact ⟨writer, cursor.session, cursor.disk, cursor.source, rfl⟩
  · split
    · rw [Outcome.state_mapState]
      exact ⟨_, cursor.session, _, _, rfl⟩
    · split
      · exact ⟨writer, cursor.session, cursor.disk, cursor.source, rfl⟩
      · rw [Outcome.state_mapState]
        exact ⟨_, _, _, cursor.source, rfl⟩

/-- Nor does settling, but that there is no recorder behind it. -/
theorem state_settleOn (storage : Storage) (cursor : Cursor ν) :
    ∃ session disk source, (cursor.settleOn storage).state =
      { cursor with session, disk, source, recorder := none } := by
  rw [settleOn]
  split
  · -- with a recorder
    next writer _ =>
    obtain ⟨writer', session, disk, source, drained⟩ :=
      state_drainOn storage writer ({ cursor with recorder := none } : Cursor ν)
    split
    · next ran =>
      rw [ran] at drained
      obtain ⟨rfl, rfl⟩ := Prod.mk.inj drained
      rw [Outcome.state_mapState]
      exact ⟨session, _, source, rfl⟩
    · next ran =>
      rw [ran] at drained
      obtain ⟨rfl, rfl⟩ := Prod.mk.inj drained
      exact ⟨session, _, source, rfl⟩
  · -- without one
    next none_ =>
    split
    · refine ⟨cursor.session, cursor.disk, cursor.source, ?_⟩
      rw [← none_]
      rfl
    · rw [Outcome.state_mapState, ← none_]
      exact ⟨_, cursor.disk, cursor.source, rfl⟩

/-- **Nothing is left of a result set that is closed**, on whatever storage. -/
theorem state_closeOn (storage : Storage) (cursor : Cursor ν) :
    ∃ session disk, (cursor.closeOn storage).state =
      { cursor with
        session, disk, recorder := none, source := none
        result := ResultSet.reset cursor.nullsAsEmpty } := by
  obtain ⟨result, recorder, disk, checked, -⟩ := checkEpochOn_with storage cursor
  obtain ⟨session, disk', source, settled⟩ := state_settleOn storage (cursor.checkEpochOn storage)
  refine ⟨session, disk', ?_⟩
  rw [closeOn, Outcome.state_mapState, settled, checked]
  rfl

/-- Closing sends one request at most. -/
theorem closesWithin_closeOn (storage : Storage) (cursor : Cursor ν) :
    cursor.ClosesWithin (cursor.closeOn storage).state.session.traffic := by
  obtain ⟨result, recorder, disk, checked, same⟩ := checkEpochOn_with storage cursor
  obtain ⟨requests, asks, few, closes⟩ :=
    closesWithin_settleOn storage (cursor.checkEpochOn storage)
  rw [checked] at asks closes
  refine ⟨requests, ?_, few, fun request mem => ?_⟩
  · rw [closeOn, Outcome.state_mapState, checked]
    exact asks
  · -- giving up the page leaves the result set that is to be closed
    obtain ⟨id, known, request⟩ := closes request mem
    exact ⟨id, same ▸ known, request⟩

omit [Network ν] in
/-- Where there is no result set, there is no page to give up. -/
theorem checkEpochOn_of_unknown (unknown : cursor.result.id = none) (storage : Storage) :
    cursor.checkEpochOn storage = cursor := by
  rw [checkEpochOn, if_neg]
  rw [unknown]
  rintro ⟨-, known, -⟩
  contradiction

/-- A cursor without a result set and without a recorder is only told to forget. -/
theorem closeOn_of_unknown (unknown : cursor.result.id = none)
    (unrecorded : cursor.recorder = none) (storage : Storage) :
    cursor.closeOn storage = .ok () cursor.forget := by
  rw [closeOn, checkEpochOn_of_unknown unknown storage, settleOn, unrecorded]
  simp only [openAtServer?_of_unknown unknown]
  rfl

/-- **Closing always comes to an end, and a second time it does nothing.**  The
client closes on a disk that takes everything.  Whatever the state of the
cursor, and whatever becomes of the storage and the server, one request is sent
at most, and it is about the result set of the cursor.  Whether or not there was
an error, the cursor has no result set, no row, counters of zero, no recorder
and no source afterwards; and to close it once more, whatever has become of the
storage, succeeds and leaves everything as it is: the session, so that nothing
is sent, and the disk. -/
theorem closes_once (cursor : Cursor ν) :
    cursor.closeOn .reliable = cursor.close ∧
      ∀ storage : Storage, ∃ after : Cursor ν, (cursor.closeOn storage).state = after ∧
        cursor.ClosesWithin after.session.traffic ∧
        after.result = ResultSet.reset cursor.nullsAsEmpty ∧
        after.result.id = none ∧ after.result.rows = [] ∧ after.result.rowCount = 0 ∧
        after.result.firstRow = 0 ∧ after.recorder = none ∧ after.source = none ∧
        ∀ storage' : Storage, after.closeOn storage' = .ok () after := by
  refine ⟨closeOn_reliable cursor, fun storage => ⟨_, rfl, closesWithin_closeOn storage cursor, ?_⟩⟩
  obtain ⟨session, disk, closed⟩ := state_closeOn storage cursor
  rw [closed]
  exact ⟨rfl, rfl, rfl, rfl, rfl, rfl, rfl, fun storage' => closeOn_of_unknown rfl rfl storage'⟩

end Cursor

end ProxyClient
