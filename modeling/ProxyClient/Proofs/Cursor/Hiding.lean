/-
ProxyClient/Proofs/Cursor/Hiding.lean

A change of the session hides the rows that came from the server, and no others.
The cursor is not told when its session is parked or replaced.  It finds out by the
epoch of the connection, which has grown then, as soon as it looks at its page
(`Cursor.Hides`):

    unseen    the page is as it was, and of an earlier epoch
      │ read, suspend
    given up  no row is shown, all counters are as they were, and the recorder
              is closed without an end frame

So every read behind a change brings nothing, whatever was done before and between,
and a file that was recorded has what was handed to the recorder, and no more
(`Cursor.session_change_hides_live_rows`).
-/
import ProxyClient.Proofs.Cursor.Absence
import ProxyClient.Proofs.Cursor.Apart
import ProxyClient.Proofs.Cursor.Epochs
import ProxyClient.Proofs.Cursor.Recorders

namespace ProxyClient

/-! ### Pages -/

namespace ResultSet

/-- A page that was given up is given up. -/
theorem suspend_eq_self {rs : ResultSet} (rows_eq : rs.rows = [])
    (suspended : rs.suspended = true) : rs.suspend = rs := by
  rw [suspend, ← rows_eq, ← suspended]

/-- It has no row. -/
theorem bufferedRow_suspend (rs : ResultSet) (row : Nat) : rs.suspend.bufferedRow row = none := by
  rw [bufferedRow, suspend, List.getElem?_nil, ite_self]

theorem field_suspend (rs : ResultSet) (row : Nat) (key : FieldKey) :
    rs.suspend.field row key = none := by
  rw [field]
  simp only [bufferedRow_suspend]
  rcases rs.suspend.columnIndex key with - | i
  · rfl
  · rfl

theorem rowTexts_suspend (rs : ResultSet) (row : Nat) : rs.suspend.rowTexts row = none := by
  rw [rowTexts, bufferedRow_suspend]
  rfl

end ResultSet

namespace Cursor

variable {ν : Type} {cursor former : Cursor ν}

/-! ### Hidden pages -/

/-- The cursor was there when the session was changed, with the page of another cursor: it
will give the page up before it looks at it, or has done so. -/
inductive Hides (former cursor : Cursor ν) : Prop
  /-- The page is as it was. -/
  | unseen :
      cursor.source = none → cursor.result = former.result →
      former.result.id.isSome = true → former.result.suspended = false →
      cursor.epoch < cursor.session.connection.epoch →
      cursor.recorder = former.recorder → cursor.disk = former.disk → Hides former cursor
  /-- The page is given up. -/
  | givenUp :
      cursor.source = none → cursor.result = former.result.suspend →
      cursor.recorder = none → cursor.disk = former.detachRecorder.disk → Hides former cursor

/-- What a recorder leaves depends on nothing but the recorder and the disk. -/
theorem disk_detachRecorder_congr (recorder_eq : cursor.recorder = former.recorder)
    (disk_eq : cursor.disk = former.disk) :
    cursor.detachRecorder.disk = former.detachRecorder.disk := by
  rw [detachRecorder, detachRecorder, recorder_eq, disk_eq]
  rcases former.recorder with - | writer
  · exact disk_eq
  · rfl

namespace Hides

/-- Nothing is asked of the result set any more. -/
theorem isLeft (hides : former.Hides cursor) : cursor.IsLeft := by
  cases hides with
  | unseen source_eq result_eq known present older recorder_eq disk_eq =>
    rw [← result_eq] at known present
    exact ⟨source_eq, .inr ⟨known, present, older⟩⟩
  | givenUp source_eq result_eq recorder_eq disk_eq =>
    refine ⟨source_eq, .inl ⟨recorder_eq, ?_⟩⟩
    rw [openAtServer?, result_eq, if_neg]
    rintro ⟨-, -, present⟩
    contradiction

/-- Whoever looks at the page finds it given up. -/
theorem checkEpoch (hides : former.Hides cursor) :
    former.Hides cursor.checkEpoch ∧ cursor.checkEpoch.result = former.result.suspend := by
  cases hides with
  | unseen source_eq result_eq known present older recorder_eq disk_eq =>
    -- the epoch of the connection has passed that of the page
    have far : cursor.source.isNone ∧ cursor.result.id.isSome ∧ !cursor.result.suspended ∧
        cursor.session.connection.epoch ≠ cursor.epoch := by
      rw [source_eq, result_eq, present]
      exact ⟨rfl, known, rfl, Nat.ne_of_gt older⟩
    have given_up : cursor.checkEpoch = { cursor with
        result := former.result.suspend, recorder := none
        disk := cursor.detachRecorder.disk } := by
      rw [Cursor.checkEpoch, if_pos far, result_eq]
      exact detachRecorder_with cursor former.result.suspend cursor.source cursor.error
    rw [given_up]
    exact ⟨.givenUp source_eq rfl rfl (disk_detachRecorder_congr recorder_eq disk_eq), rfl⟩
  | givenUp source_eq result_eq recorder_eq disk_eq =>
    have near : cursor.checkEpoch = cursor := by
      rw [Cursor.checkEpoch, if_neg]
      rw [result_eq]
      rintro ⟨-, -, present, -⟩
      contradiction
    rw [near]
    exact ⟨.givenUp source_eq result_eq recorder_eq disk_eq, result_eq⟩

/-- A later session does not bring it back. -/
theorem withSession (hides : former.Hides cursor) {session : Session ν}
    (later : cursor.session.connection.epoch ≤ session.connection.epoch) :
    former.Hides { cursor with session } := by
  cases hides with
  | unseen source_eq result_eq known present older recorder_eq disk_eq =>
    exact .unseen source_eq result_eq known present (Nat.lt_of_lt_of_le older later) recorder_eq
      disk_eq
  | givenUp source_eq result_eq recorder_eq disk_eq =>
    exact .givenUp source_eq result_eq recorder_eq disk_eq

/-- All that was counted of the page is as it was. -/
theorem result_eq (hides : former.Hides cursor) :
    ∃ rows suspended, cursor.result = { former.result with rows, suspended } := by
  cases hides with
  | unseen source_eq result_eq => exact ⟨former.result.rows, former.result.suspended, result_eq⟩
  | givenUp source_eq result_eq => exact ⟨[], true, result_eq⟩

/-- The recorder is as it was, or was closed without an end frame. -/
theorem recorder_cases (hides : former.Hides cursor) :
    (cursor.recorder = former.recorder ∧ cursor.disk = former.disk) ∨
      (cursor.recorder = none ∧ cursor.disk = former.detachRecorder.disk) := by
  cases hides with
  | unseen _ _ _ _ _ recorder_eq disk_eq => exact .inl ⟨recorder_eq, disk_eq⟩
  | givenUp _ _ recorder_eq disk_eq => exact .inr ⟨recorder_eq, disk_eq⟩

variable [Network ν]

/-- **A read brings nothing, and asks nothing.** -/
theorem reading_eq (hides : former.Hides cursor) {α : Type} (row : Nat) (look : ResultSet → α) :
    (reading row look cursor).1 = look former.result.suspend ∧
      (reading row look cursor).2.session = cursor.session := by
  rw [reading, hides.isLeft.ensureRow_eq]
  exact ⟨congrArg look hides.checkEpoch.2, session_checkEpoch cursor⟩

/-- No row is found. -/
theorem unread (hides : former.Hides cursor) (row : Nat) (key : FieldKey) :
    (cursor.row row).1 = none ∧ (cursor.field row key).1 = none ∧
      (cursor.fieldText row key).1 = none ∧ (cursor.fieldLength row key).1 = 0 ∧
      (cursor.rowLengths row).1 = none ∧ (cursor.rowPairs row).1 = none := by
  have texts := former.result.rowTexts_suspend row
  have field := former.result.field_suspend row key
  refine ⟨?_, ?_, ?_, ?_, ?_, ?_⟩
  · exact (hides.reading_eq row _).1.trans texts
  · exact (hides.reading_eq row _).1.trans field
  · refine (hides.reading_eq row _).1.trans ?_
    rw [ResultSet.fieldText, field]
    rfl
  · refine (hides.reading_eq row _).1.trans ?_
    rw [ResultSet.fieldLength, field]
    rfl
  · refine (hides.reading_eq row _).1.trans ?_
    rw [ResultSet.rowLengths, ResultSet.bufferedRow_suspend]
    rfl
  · refine (hides.reading_eq row _).1.trans ?_
    rw [ResultSet.rowPairs, texts, Option.map_none, ite_self]

/-- **Letting go of the cursor asks nothing**, and closes the recorder at the latest. -/
theorem release_eq (hides : former.Hides cursor) :
    cursor.release = (cursor.session, former.detachRecorder.disk) := by
  rw [hides.isLeft.release_eq]
  rcases hides.recorder_cases with ⟨recorder_eq, disk_eq⟩ | ⟨recorder_eq, disk_eq⟩
  · rw [disk_detachRecorder_congr recorder_eq disk_eq]
  · rw [detachRecorder_of_none recorder_eq, disk_eq]

end Hides

variable [Network ν]

/-! ### Deeds -/

/-- The session is parked or reclaimed. -/
def Deed.changesSession : Deed ν → Bool
  | acts .parks | acts (.reclaims _) => true
  | acts _ | calls _ | opensCached _ | renews => false

/-- A session that was parked or reclaimed is of a later epoch. -/
theorem Deed.exists_session_of_changes {change : Deed ν} (changes : change.changesSession = true)
    (succeeded : change.succeeds cursor = true) :
    ∃ session, change.after cursor = { cursor with session } ∧
      cursor.session.connection.epoch < session.connection.epoch := by
  -- a suspension and a reclaim that succeed each begin a new epoch
  cases change with
  | acts act =>
    cases act with
    | parks =>
      have epoch_eq := cursor.session.epoch_suspend
      have parked : cursor.session.suspend.toExcept.toBool = true := succeeded
      rw [parked, if_pos rfl] at epoch_eq
      refine ⟨cursor.session.suspend.state, ?_, by rw [epoch_eq]; exact Nat.lt_succ_self _⟩
      show (cursor.withSession Session.suspend).state = _
      rw [Cursor.withSession, Outcome.state_mapState]
    | reclaims token =>
      have epoch_eq := cursor.session.epoch_resume token
      have reclaimed : (cursor.session.resume token).toExcept.toBool = true := succeeded
      rw [reclaimed, if_pos rfl] at epoch_eq
      refine ⟨(cursor.session.resume token).state, ?_, by rw [epoch_eq]; exact Nat.lt_succ_self _⟩
      show (cursor.withSession (Session.resume token)).state = _
      rw [Cursor.withSession, Outcome.state_mapState]
    | sends | executes | reads | closes | suspends | resumes | resumesCached | sets | finds =>
      contradiction
  | calls | opensCached | renews => contradiction

/-- **A change of the session hides the page.** -/
theorem IsTidy.hides (tidy : cursor.IsTidy) (live : cursor.source = none)
    (known : cursor.result.id.isSome = true) {change : Deed ν}
    (changes : change.changesSession = true) (succeeded : change.succeeds cursor = true) :
    cursor.Hides (change.after cursor) := by
  obtain ⟨session, changed, later⟩ := Deed.exists_session_of_changes changes succeeded
  rw [changed]
  rcases suspended : cursor.result.suspended with - | -
  · exact .unseen live rfl known suspended (Nat.lt_of_le_of_lt tidy.epoch_le later) rfl rfl
  · -- the page was given up before
    obtain ⟨rows_eq, recorder_eq⟩ := tidy.clear suspended
    refine .givenUp live (ResultSet.suspend_eq_self rows_eq suspended).symm recorder_eq ?_
    rw [detachRecorder_of_none recorder_eq]

/-- It stays hidden. -/
theorem Hides.deed (hides : former.Hides cursor) {deed : Deed ν}
    (leaves : deed.leavesResult = true) : former.Hides (deed.after cursor) := by
  rcases Deed.leavesResult_cases leaves with
    ofSession | ⟨_, row, look, rfl⟩ | rfl | ⟨settings, rfl⟩
  · -- a deed of the session: the epoch does not go back
    obtain ⟨session, moved⟩ := Deed.after_of_ofSession ofSession cursor
    have later := (deed.moves cursor).epoch_le
    rw [moved] at later ⊢
    exact hides.withSession later
  · -- a read gives the page up, and asks nothing
    show former.Hides (cursor.ensureRow row)
    rw [hides.isLeft.ensureRow_eq]
    exact hides.checkEpoch.1
  · -- the cursor leaves the result set
    show former.Hides cursor.suspendResultSet
    rw [suspendResultSet_eq]
    cases hides with
    | unseen source_eq result_eq known present older recorder_eq disk_eq =>
      refine .givenUp rfl ?_ rfl (disk_detachRecorder_congr recorder_eq disk_eq)
      rw [result_eq]
    | givenUp source_eq result_eq recorder_eq disk_eq =>
      refine .givenUp rfl ?_ rfl ?_
      · rw [result_eq]
        rfl
      · rw [detachRecorder_of_none recorder_eq]
        exact disk_eq
  · -- its settings are changed
    cases hides with
    | unseen source_eq result_eq known present older recorder_eq disk_eq =>
      exact .unseen source_eq result_eq known present older recorder_eq disk_eq
    | givenUp source_eq result_eq recorder_eq disk_eq =>
      exact .givenUp source_eq result_eq recorder_eq disk_eq

theorem Hides.afterDeeds (hides : former.Hides cursor) {deeds : List (Deed ν)}
    (leave : ∀ deed ∈ deeds, deed.leavesResult = true) :
    former.Hides (cursor.afterDeeds deeds) :=
  afterDeeds_keeps (fun _ _ leaves hides => hides.deed leaves) leave hides

/-! ### Changes of the session -/

/-- **A change of the session hides the rows of the server, and no others.**

A cursor has a result set of the server open, whatever was done before, and its session is
parked or reclaimed with success.  Whatever is done then that leaves the result set alone,
every read looks at a page that was given up, and asks nothing; no row is found, and all
that was counted is as it was.  The recorder is as it was or closed, and when the cursor
is let go of the file has what the recorder held, and no frame more: a header and whole
frames, with those of the rows of every page of the result set among them, in their order.

A cursor that reads from a cache file does not notice what is done with the session: it
is as if that had not been done, in between and when it is closed.

While the session is parked, until a server greets, whatever asks the server fails, and
nothing is sent but, over the links of new calls, the requests to reclaim the session; nor
is anything when the cursor and the connection are let go of. -/
theorem session_change_hides_live_rows :
    (∀ (session : Session ν) (disk : Disk) (now : Int64) (before : List (Deed ν))
        (change : Deed ν) (deeds : List (Deed ν)),
      let cursor := (onSession session disk now).afterDeeds before
      let later := (change.after cursor).afterDeeds deeds
      cursor.source = none → cursor.result.id.isSome = true →
      change.changesSession = true → change.succeeds cursor = true →
      (∀ deed ∈ deeds, deed.leavesResult = true) →
        (∀ {α : Type} (row : Nat) (look : ResultSet → α),
          (reading row look later).1 = look cursor.result.suspend ∧
            (reading row look later).2.session = later.session) ∧
        (∀ row key, (later.row row).1 = none ∧ (later.field row key).1 = none ∧
          (later.fieldText row key).1 = none ∧ (later.fieldLength row key).1 = 0 ∧
          (later.rowLengths row).1 = none ∧ (later.rowPairs row).1 = none) ∧
        (∃ rows suspended, later.result = { cursor.result with rows, suspended }) ∧
        (later.recorder = cursor.recorder ∧ later.disk = cursor.disk ∨
          later.recorder = none ∧ later.disk = cursor.detachRecorder.disk) ∧
        later.release = (later.session, cursor.detachRecorder.disk) ∧
        (disk.IsSound → (∀ deed ∈ before, deed.ofOthers = false) →
          ∀ writer, cursor.recorder = some writer →
            cursor.detachRecorder.disk.bytesOf writer.file.id = writer.file.image cursor.disk ∧
            Disk.OnlyChanges writer.file.id cursor.disk cursor.detachRecorder.disk ∧
            ∀ front back, before = front ++ back → (∀ deed ∈ back, deed.leavesResult = true) →
              CacheWriter.RowsIn ((onSession session disk now).afterDeeds front).result.rows
                (writer.file.image cursor.disk))) ∧
    (∀ (cursor : Cursor ν) (deeds : List (Deed ν)),
      let apart := cursor.afterDeeds (deeds.filter Deed.ofFile)
      let later := cursor.afterDeeds deeds
      cursor.source.isSome = true →
      (∀ deed ∈ deeds, deed.ofSession = true ∨ deed.ofFile = true) →
        later = { apart with session := later.session } ∧
        (∀ {α : Type} (row : Nat) (look : ResultSet → α),
          (reading row look later).1 = (reading row look apart).1) ∧
        later.close = apart.close.mapState ({ · with session := later.session })) ∧
    (∀ (cursor : Cursor ν) (deeds : List (Deed ν)),
      let parked := (Deed.acts .parks).after cursor
      let later := parked.afterDeeds deeds
      (Deed.acts .parks).succeeds cursor = true →
      (∀ endpoint ready, .greeted endpoint ready ∉ parked.milestones deeds) →
        (∀ deed : Deed ν, deed.asks = true → deed.succeeds later = false) ∧
        parked.session.traffic.Knocks later.session.traffic ∧
        (∃ requests, parked.session.traffic.Asks requests later.session.traffic ∧
          ∀ request ∈ requests, ∃ id, request = .resumeSession id) ∧
        later.release.1 = later.session ∧
        (Client.working later).close.traffic = later.session.traffic ∧
        (Client.working later).closeCursor.endSession.state.traffic = later.session.traffic) := by
  refine ⟨?_, ?_, ?_⟩
  · -- a result set of the server
    intro session disk now before change deeds cursor later live known changes succeeded leave
    have tidy : cursor.IsTidy := (isTidy_onSession session disk now).afterDeeds before
    have hides : cursor.Hides later := (tidy.hides live known changes succeeded).afterDeeds leave
    refine ⟨fun row look => hides.reading_eq row look, fun row key => ?_, hides.result_eq,
      hides.recorder_cases, hides.release_eq, ?_⟩
    · exact hides.unread row key
    · intro sound own writer recorder
      have files : (onSession session disk now).parts.Files [] := .of_unrecorded sound
      have kept := (files_afterDeeds files own).page writer recorder
      have detached : cursor.detachRecorder.disk = writer.detach cursor.disk := by
        rw [detachRecorder, recorder]
      rw [detached]
      refine ⟨kept.bytesOf_detach, writer.onlyChanges_detach cursor.disk, ?_⟩
      rintro front back rfl leave
      have own' : ∀ deed ∈ front, deed.ofOthers = false :=
        fun deed mem => own deed (List.mem_append_left _ mem)
      exact rowsIn_image files own' leave recorder
  · -- one from a file
    intro cursor deeds apart later sourced aside
    obtain ⟨session, same, sourced'⟩ : ∃ session, later = { apart with session } ∧
        apart.source.isSome = true := afterDeeds_apart sourced aside cursor.session
    have session_eq : later.session = session := congrArg Cursor.session same
    rw [session_eq]
    refine ⟨same, fun row look => ?_, ?_⟩
    · rw [reading, reading, same, ensureRow_withSession sourced' session]
    · rw [same]
      exact close_withSession sourced' session
  · -- none, while the session is parked
    intro cursor deeds parked later succeeded ungreeted
    have isParked : parked.session.IsParked := isParked_of_parks succeeded
    obtain ⟨same, knocks⟩ := knocks_afterDeeds isParked ungreeted
    have isParked' : later.session.IsParked :=
      ⟨by rw [same, isParked.usable], by rw [same, isParked.gone]⟩
    obtain ⟨released, closed, ended⟩ := traffic_close_of_isParked isParked'
    exact ⟨fun deed asks => deed.fails_of_isParked isParked' asks, knocks, knocks.asks, released,
      closed, ended⟩

/-- What is known of a session that is parked, and reclaimed, while its result set is
recorded, and of one that is parked while a file is read. -/
theorem session_change_hides_live_rows_parked :
    let parked : ServerMessage := .suspended ⟨"h", 1, "t"⟩
    let answer : List ServerMessage :=
      [.describe (Describe.ofParts ⟨7, 0, -1, -1, 0, 1⟩ []),
        .dataRow (DataRow.ofValues [some (Bytes.ofText "r1")]), .batchEnd ⟨false, 0⟩]
    let session := Session.scripted [answer, [parked]] [[.sessionReady ⟨"srv", "1", 1⟩]]
    let start := onSession session {} 0
    let before : List (Deed ScriptedNetwork) :=
      [.acts (.sets { start with cacheTarget := some "c" }), .acts (.sends "q")]
    let cursor := start.afterDeeds before
    let park : Deed ScriptedNetwork := .acts .parks
    let reclaimed := (park.after cursor).afterDeeds
      [.acts (.reads 0 ResultSet.rowCount), .acts (.reclaims ⟨"h", 1, "t"⟩)]
    let silent := (park.after cursor).afterDeeds [.calls .pings]
    let reader := ((onSession (Session.scripted [[parked]] []) TableServer.shelfDisk 0).openCached
      "whole").state
    cursor.result.rowCount = 1 ∧ park.succeeds cursor = true ∧
      reclaimed.session.connection.standing.attached = true ∧
      (reclaimed.row 0).1 = none ∧ reclaimed.result.rowCount = 1 ∧
      (∃ writer, cursor.recorder = some writer ∧
        reclaimed.release.2.bytesOf writer.file.id = writer.file.image cursor.disk ∧
        CacheWriter.RowsIn cursor.result.rows (writer.file.image cursor.disk)) ∧
      (Deed.acts (.sends "q")).succeeds silent = false ∧ silent.release.1 = silent.session ∧
      reader.source.isSome = true ∧
      ((reader.afterDeeds [park, .calls .pings]).row 3).1 = (reader.row 3).1 := by
  intro parked answer session start before cursor park reclaimed silent reader
  obtain ⟨hides, stays, absent⟩ := @session_change_hides_live_rows ScriptedNetwork _
  have live : cursor.source = none := by decide +kernel
  have known : cursor.result.id.isSome = true := by decide +kernel
  have one : cursor.result.rowCount = 1 := by decide +kernel
  have succeeded : park.succeeds cursor = true := by decide +kernel
  have sourced : reader.source.isSome = true := by decide +kernel
  have leave : ∀ deed ∈ ([.acts (.reads 0 ResultSet.rowCount), .acts (.reclaims ⟨"h", 1, "t"⟩)] :
      List (Deed ScriptedNetwork)), deed.leavesResult = true := by
    simp [Deed.leavesResult]
  have own : ∀ deed ∈ before, deed.ofOthers = false := by
    simp [before, Deed.ofOthers]
  -- parked, and reclaimed later
  obtain ⟨-, unread, ⟨rows, suspended, counted⟩, -, released, filed⟩ :=
    hides session {} 0 before park _ live known rfl succeeded leave
  obtain ⟨writer, recorder⟩ : ∃ writer, cursor.recorder = some writer :=
    Option.isSome_iff_exists.mp (by decide +kernel)
  obtain ⟨bytes, -, inside⟩ := filed Disk.isSound_empty own writer recorder
  -- parked, and pinged
  have ungreeted : (park.after cursor).milestones [.calls .pings] = [] := by decide +kernel
  obtain ⟨fails, -, -, quiet, -⟩ := absent cursor [.calls .pings] succeeded
    fun endpoint ready mem => by
      rw [ungreeted] at mem
      exact absurd mem List.not_mem_nil
  -- parked while a file is read
  have aside : ∀ deed ∈ [park, .calls .pings], deed.ofSession = true ∨ deed.ofFile = true := by
    simp [park, Deed.ofSession]
  have apart : [park, .calls .pings].filter Deed.ofFile = [] := rfl
  obtain ⟨-, same, -⟩ := stays reader [park, .calls .pings] sourced aside
  have third := same 3 fun page => page.rowTexts 3
  rw [apart] at third
  refine ⟨one, succeeded, by decide +kernel, (unread 0 (.index 0)).1, ?_,
    ⟨writer, recorder, ?_, ?_⟩, fails _ rfl, quiet, sourced, third⟩
  · show reclaimed.result.rowCount = 1
    rw [counted]
    exact one
  · rw [released]
    exact bytes
  · exact inside before [] (List.append_nil _).symm fun deed mem => absurd mem List.not_mem_nil

end Cursor

end ProxyClient
