/-
ProxyClient/Proofs/Cursor/Opening.lean

A statement on an idle cursor.  An idle cursor has no result set open, so
nothing has to be closed before the statement, and what the statement does
can be said without the former life of the cursor: its bind variables are
checked, its target is created, and the server is asked.  Any other cursor
closes its result set first, and is idle then (`Cursor.isIdle_close`).
-/
import ProxyClient.Proofs.Cache.Recording
import ProxyClient.Proofs.Cursor.Closing

namespace ProxyClient

variable {ν : Type}

/-- A statement whose bind variables can be counted can be sent. -/
theorem Request.encode_execute_of_lt (sql : String) {binds : List Bind}
    (few : binds.length < 65536) (options : ExecuteOptions) :
    ∃ bytes, (Request.execute sql binds options).encode = .ok bytes := by
  rw [Request.encode, Request.frame, if_pos few]
  exact ⟨_, rfl⟩

namespace Cursor

variable {cursor after : Cursor ν}

/-- No result set is open on the cursor. -/
structure IsIdle (cursor : Cursor ν) : Prop where
  /-- The server gave no identifier. -/
  id_eq : cursor.result.id = none
  /-- No row is shown. -/
  rows_eq : cursor.result.rows = []
  /-- Rows come from no file. -/
  source_eq : cursor.source = none
  /-- Nothing is recorded. -/
  recorder_eq : cursor.recorder = none

theorem isIdle_onSession (session : Session ν) (disk : Disk) (now : Int64) :
    (onSession session disk now).IsIdle :=
  ⟨rfl, rfl, rfl, rfl⟩

/-- The cursor can run its statement: the bind variables are in order, and the
file to record into can be created. -/
structure IsPrepared (cursor : Cursor ν) : Prop extends cursor.IsIdle where
  /-- Where bind variables are checked, each has its placeholder. -/
  valid : cursor.checkBinds (cursor.substitutions.expand cursor.sql) cursor.binds = .ok ()
  /-- A request can tell the number of bind variables. -/
  few : cursor.binds.entries.length < 65536
  /-- The file can be created. -/
  creates : ∀ path, cursor.cacheTarget = some path →
    ∃ id disk, cursor.disk.createFile path = .ok (id, disk)

/-! ### Targets -/

/-- The header of the file that the statement of the cursor begins. -/
def header (cursor : Cursor ν) : CacheHeader :=
  ⟨CacheHeader.expiryAfter (CacheHeader.timeOn cursor.now) cursor.cacheTtl⟩

/-- A file that cannot be created leaves the cursor as it was. -/
theorem createRecorder_error {path : String} {e : Error}
    (h : cursor.createRecorder path = .error e after) : after = cursor := by
  unfold createRecorder CacheWriter.create CacheWriter.createWithExpiry at h
  split at h
  · contradiction
  · next e' disk created =>
    split at created
    · simp only [EStateM.Result.error.injEq] at created h
      rw [← h.2, ← created.2]
    · contradiction

/-- A recorder has a file that was created. -/
theorem createRecorder_ok {path : String} (h : cursor.createRecorder path = .ok () after) :
    ∃ writer disk,
      CacheWriter.create path cursor.cacheTtl cursor.now cursor.disk = .ok writer disk ∧
      after = { cursor with recorder := some writer, disk } := by
  unfold createRecorder at h
  split at h
  · next writer disk created =>
    simp only [EStateM.Result.ok.injEq, true_and] at h
    exact ⟨writer, disk, created, h.symm⟩
  · contradiction

/-- A target that is refused leaves the cursor as it was. -/
theorem createTarget_error {e : Error} (h : cursor.createTarget = .error e after) :
    after = cursor := by
  unfold createTarget at h
  split at h
  · exact createRecorder_error h
  · contradiction

/-- A target is a recorder in a file that was created. -/
theorem createTarget_cases (h : cursor.createTarget = .ok () after) :
    cursor.cacheTarget = none ∧ after = cursor ∨
      ∃ path writer disk, cursor.cacheTarget = some path ∧
        CacheWriter.create path cursor.cacheTtl cursor.now cursor.disk = .ok writer disk ∧
        after = { cursor with recorder := some writer, disk } := by
  unfold createTarget at h
  split at h
  · next path target =>
    obtain ⟨writer, disk, created, eq⟩ := createRecorder_ok h
    exact .inr ⟨path, writer, disk, target, created, eq⟩
  · next none_ =>
    simp only [EStateM.Result.ok.injEq, true_and] at h
    exact .inl ⟨none_, h.symm⟩

/-- Only the recorder and the disk change when a target is created. -/
theorem createTarget_ok (h : cursor.createTarget = .ok () after) :
    ∃ recorder disk, after = { cursor with recorder, disk } ∧
      recorder.isSome = (cursor.recorder.isSome || cursor.cacheTarget.isSome) := by
  rcases createTarget_cases h with ⟨none_, rfl⟩ | ⟨path, writer, disk, target, -, rfl⟩
  · exact ⟨after.recorder, after.disk, rfl, by simp [none_]⟩
  · exact ⟨some writer, disk, rfl, by simp [target]⟩

theorem createTarget_of_creates (cursor : Cursor ν) (h : ∀ path, cursor.cacheTarget = some path →
    ∃ id disk, cursor.disk.createFile path = .ok (id, disk)) :
    ∃ after, cursor.createTarget = .ok () after := by
  rw [createTarget]
  split
  · next path target =>
    obtain ⟨id, disk, created⟩ := h path target
    simp only [createRecorder, CacheWriter.create, CacheWriter.createWithExpiry, created]
    exact ⟨_, rfl⟩
  · exact ⟨_, rfl⟩

/-! ### Recorders that continue a file -/

/-- A file that can be neither continued nor created leaves the cursor as it was. -/
theorem continueRecorder_error {path : String} {e : Error}
    (h : cursor.continueRecorder path = .error e after) : after = cursor := by
  unfold continueRecorder at h
  split at h
  · contradiction
  · next disk appended =>
    obtain ⟨rfl, -⟩ := CacheWriter.append_error appended
    exact createRecorder_error h
  · next e' disk _ appended =>
    obtain ⟨rfl, -⟩ := CacheWriter.append_error appended
    exact (EStateM.Result.error.inj h).2.symm

/-- A recorder continues a file, or has one that was created where there was none. -/
theorem continueRecorder_ok {path : String} (h : cursor.continueRecorder path = .ok () after) :
    ∃ writer disk, after = { cursor with recorder := some writer, disk } ∧
      (CacheWriter.append path cursor.disk = .ok writer disk ∨
        cursor.disk.openFile path = .error .notFound ∧
        CacheWriter.create path cursor.cacheTtl cursor.now cursor.disk = .ok writer disk) := by
  unfold continueRecorder at h
  split at h
  · next writer disk appended =>
    exact ⟨writer, disk, (EStateM.Result.ok.inj h).2.symm, .inl appended⟩
  · next disk appended =>
    obtain ⟨rfl, missing⟩ := CacheWriter.append_error appended
    obtain ⟨writer, disk, created, eq⟩ := createRecorder_ok h
    exact ⟨writer, disk, eq, .inr ⟨missing rfl, created⟩⟩
  · contradiction

/-- A recorder that is given up is all that changes. -/
theorem abandonRecorder_eq (cursor : Cursor ν) :
    ∃ recorder disk, cursor.abandonRecorder = { cursor with recorder, disk } := by
  rw [abandonRecorder]
  split
  · exact ⟨_, _, rfl⟩
  · exact ⟨_, _, rfl⟩

/-! ### Statements -/

/-- Where there is no result set, there is no page to give up. -/
theorem checkEpoch_of_unknown (unknown : cursor.result.id = none) : cursor.checkEpoch = cursor := by
  rw [← checkEpochOn_reliable]
  exact checkEpochOn_of_unknown unknown .reliable

/-- No page is given up in its own epoch. -/
theorem checkEpoch_of_epoch_eq (same : cursor.session.connection.epoch = cursor.epoch) :
    cursor.checkEpoch = cursor := by
  rw [checkEpoch, if_neg fun far => far.2.2.2 same]

/-- Nor is one of a file, whatever has become of the session. -/
theorem checkEpoch_of_isSome_source (source : cursor.source.isSome = true) :
    cursor.checkEpoch = cursor := by
  rw [checkEpoch, if_neg]
  rintro ⟨live, -⟩
  rw [Option.isNone_iff_eq_none] at live
  rw [live] at source
  contradiction

theorem IsIdle.openAtServer?_eq (idle : cursor.IsIdle) : cursor.openAtServer? = none :=
  openAtServer?_of_unknown idle.id_eq

variable [Network ν]

/-- There is nothing to close. -/
theorem IsIdle.close_eq (idle : cursor.IsIdle) : cursor.close = .ok () cursor.forget := by
  rw [← closeOn_reliable]
  exact closeOn_of_unknown idle.id_eq idle.recorder_eq .reliable

/-- The statement of an idle cursor. -/
theorem IsIdle.runStatement_eq (idle : cursor.IsIdle) (binds : BindSet) :
    cursor.runStatement binds =
      match cursor.checkBinds (cursor.substitutions.expand cursor.sql) binds with
      | .error e => .error e cursor.forget
      | .ok () =>
        match cursor.forget.createTarget with
        | .error e after => .error e after
        | .ok () armed =>
          match armed.query (.execute (cursor.substitutions.expand cursor.sql) binds
              armed.executeOptions) with
          | .error e after => .error e after.abandonRecorder
          | .ok () after =>
            .ok () { after with session := after.session.statementExecuted }.opened := by
  rw [runStatement, idle.close_eq]
  rfl

omit [Network ν] in
/-- The cursor without its last error and without a result set. -/
def cleared (cursor : Cursor ν) : Cursor ν :=
  ({ cursor with error := none } : Cursor ν).forget

omit [Network ν] in
/-- The cursor that asks the server: it is cleared, and its target is created. -/
structure IsArmed (cursor armed : Cursor ν) : Prop where
  /-- The target was created. -/
  created : cursor.cleared.createTarget = .ok () armed
  /-- Only the recorder and the disk are others. -/
  same : ∃ recorder disk, armed = { cursor.cleared with recorder, disk }
  /-- There is a recorder if there is a target. -/
  recorder_isSome : armed.recorder.isSome = cursor.cacheTarget.isSome

omit [Network ν] in
theorem IsArmed.result_eq {armed : Cursor ν} (isArmed : cursor.IsArmed armed) :
    armed.result = ResultSet.reset cursor.nullsAsEmpty := by
  obtain ⟨recorder, disk, rfl⟩ := isArmed.same
  rfl

omit [Network ν] in
theorem IsArmed.source_eq {armed : Cursor ν} (isArmed : cursor.IsArmed armed) :
    armed.source = none := by
  obtain ⟨recorder, disk, rfl⟩ := isArmed.same
  rfl

omit [Network ν] in
theorem IsArmed.session_eq {armed : Cursor ν} (isArmed : cursor.IsArmed armed) :
    armed.session = cursor.session := by
  obtain ⟨recorder, disk, rfl⟩ := isArmed.same
  rfl

omit [Network ν] in
theorem IsArmed.bufferSize_eq {armed : Cursor ν} (isArmed : cursor.IsArmed armed) :
    armed.bufferSize = cursor.bufferSize := by
  obtain ⟨recorder, disk, rfl⟩ := isArmed.same
  rfl

omit [Network ν] in
/-- It has a recorder in its target. -/
theorem IsArmed.exists_writer {armed : Cursor ν} {path : String} (isArmed : cursor.IsArmed armed)
    (target : cursor.cacheTarget = some path) :
    ∃ writer disk,
      CacheWriter.create path cursor.cacheTtl cursor.now cursor.disk = .ok writer disk ∧
      armed = { cursor.cleared with recorder := some writer, disk } := by
  rcases createTarget_cases isArmed.created with
    ⟨none_, -⟩ | ⟨path', writer, disk, target', created, rfl⟩
  · rw [show cursor.cleared.cacheTarget = some path from target] at none_
    contradiction
  · obtain rfl : path = path' := Option.some.inj (target.symm.trans target')
    exact ⟨writer, disk, created, rfl⟩

omit [Network ν] in
theorem IsIdle.isArmed (idle : cursor.IsIdle) {armed : Cursor ν}
    (created : cursor.cleared.createTarget = .ok () armed) : cursor.IsArmed armed := by
  obtain ⟨recorder, disk, same, isSome⟩ := createTarget_ok created
  refine ⟨created, ⟨recorder, disk, same⟩, ?_⟩
  rw [same, isSome, show cursor.cleared.recorder = none from idle.recorder_eq]
  rfl

/-- What becomes of a statement once its target is created. -/
def executed (cursor armed : Cursor ν) : Outcome Unit (Cursor ν) :=
  match armed.query (.execute (cursor.substitutions.expand cursor.sql) cursor.binds
      cursor.executeOptions) with
  | .error e after => .error e (after.abandonRecorder.note e)
  | .ok () after => .ok () { after with session := after.session.statementExecuted }.opened

/-- The statement of an idle cursor, with its last error. -/
theorem IsIdle.execute_eq (idle : cursor.IsIdle) :
    cursor.execute =
      match cursor.checkBinds (cursor.substitutions.expand cursor.sql) cursor.binds with
      | .error e => .error e (cursor.cleared.note e)
      | .ok () =>
        match cursor.cleared.createTarget with
        | .error e after => .error e (after.note e)
        | .ok () armed => cursor.executed armed := by
  have idle' : ({ cursor with error := none } : Cursor ν).IsIdle :=
    ⟨idle.id_eq, idle.rows_eq, idle.source_eq, idle.recorder_eq⟩
  have valid : ({ cursor with error := none } : Cursor ν).checkBinds
    (cursor.substitutions.expand cursor.sql) cursor.binds =
      cursor.checkBinds (cursor.substitutions.expand cursor.sql) cursor.binds := rfl
  -- there is nothing to close, and the former error is forgotten
  rw [execute, noting, idle'.runStatement_eq]
  rw [show ({ cursor with error := none } : Cursor ν).forget = cursor.cleared from rfl]
  rcases e : cursor.checkBinds (cursor.substitutions.expand cursor.sql) cursor.binds with e' | ⟨⟩
  · simp only [valid.trans e]
  · simp only [valid.trans e]
    rcases created : cursor.cleared.createTarget with ⟨⟨⟩, armed⟩ | ⟨e', after⟩
    · obtain ⟨recorder, disk, same⟩ := (idle.isArmed created).same
      have options : armed.executeOptions = cursor.executeOptions := by
        rw [same]
        rfl
      simp only [executed, options]
      rcases armed.query (.execute (cursor.substitutions.expand cursor.sql) cursor.binds
        cursor.executeOptions) with ⟨-, after⟩ | ⟨e', after⟩ <;> rfl
    · rfl

/-- The statement of an idle cursor fails before the server is asked, or the
server is asked. -/
theorem IsIdle.execute_cases (idle : cursor.IsIdle) :
    (∃ e, cursor.execute = .error e (cursor.cleared.note e)) ∨
      ∃ armed, cursor.IsArmed armed ∧ cursor.execute = cursor.executed armed := by
  rw [idle.execute_eq]
  rcases cursor.checkBinds (cursor.substitutions.expand cursor.sql) cursor.binds with e | ⟨⟩
  · exact .inl ⟨e, rfl⟩
  · rcases created : cursor.cleared.createTarget with ⟨⟨⟩, armed⟩ | ⟨e, after⟩
    · exact .inr ⟨armed, idle.isArmed created, rfl⟩
    · obtain rfl := createTarget_error created
      exact .inl ⟨e, rfl⟩

/-- A prepared cursor asks the server. -/
theorem IsPrepared.execute_eq (prepared : cursor.IsPrepared) :
    ∃ armed : Cursor ν, cursor.IsArmed armed ∧ cursor.execute = cursor.executed armed := by
  obtain ⟨armed, created⟩ := createTarget_of_creates cursor.cleared prepared.creates
  refine ⟨armed, prepared.toIsIdle.isArmed created, ?_⟩
  rw [prepared.toIsIdle.execute_eq, prepared.valid]
  simp only [created]

/-! ### Cursors that are not idle -/

omit [Network ν] in
/-- The rows of a result set at the server come from no file. -/
theorem openAtServer?_of_isSome_source (source : cursor.source.isSome = true) :
    cursor.openAtServer? = none := by
  rw [openAtServer?, if_neg]
  rintro ⟨live, -, -⟩
  rw [Option.isNone_iff_eq_none] at live
  rw [live] at source
  contradiction

/-- What is left at the server is asked for, and taken by the writer alone. -/
theorem drain_eq_run {writer : CacheWriter} {id : ResultSetId} (unfinished : writer.finished = false)
    (there : cursor.openAtServer? = some id) :
    cursor.drain writer =
      (cursor.session.run (Query.exchange (.fetch id 0 0) CacheWriter.handler)
          { handler := (writer, cursor.disk) }).mapState fun (session, query) =>
        (query.handler.1, { cursor with session, disk := query.handler.2 }) := by
  rw [drain, if_neg (by simp [unfinished])]
  split
  · -- a cursor that reads from a file has nothing open at the server
    next reader file =>
    rw [openAtServer?_of_isSome_source (by rw [file]; rfl)] at there
    contradiction
  · split
    · next nothing =>
      rw [there] at nothing
      contradiction
    · next id' known =>
      obtain rfl := Option.some.inj (there.symm.trans known)
      rfl

/-- Where nothing is left anywhere, the writer takes nothing more. -/
theorem drain_of_nothing (writer : CacheWriter) (live : cursor.source = none)
    (nothing : cursor.openAtServer? = none) : cursor.drain writer = .ok () (writer, cursor) := by
  rw [drain]
  split
  · rfl
  · rw [live]
    simp only [nothing]

omit [Network ν] in
/-- Where a page is given up, the recorder is closed. -/
theorem checkEpoch_with (cursor : Cursor ν) :
    ∃ result recorder disk, cursor.checkEpoch = { cursor with result, recorder, disk } := by
  obtain ⟨result, recorder, disk, checked, -⟩ := checkEpochOn_with .reliable cursor
  rw [checkEpochOn_reliable] at checked
  exact ⟨result, recorder, disk, checked⟩

omit [Network ν] in
/-- If there is none, the page is all that changes. -/
theorem checkEpoch_of_unrecorded (unrecorded : cursor.recorder = none) :
    ∃ result, cursor.checkEpoch = { cursor with result } := by
  rw [checkEpoch, detachRecorder]
  split
  · rw [unrecorded]
    exact ⟨_, rfl⟩
  · exact ⟨cursor.result, rfl⟩

/-- Closing leaves the settings and the last error as they were. -/
theorem state_close (cursor : Cursor ν) :
    ∃ session disk,
      cursor.close.state =
        { cursor with
          session, disk, recorder := none, source := none
          result := ResultSet.reset cursor.nullsAsEmpty } := by
  rw [← closeOn_reliable]
  exact state_closeOn .reliable cursor

/-- Where nothing is recorded, settling leaves the disk as it is. -/
theorem disk_settle_of_unrecorded (unrecorded : cursor.recorder = none) :
    cursor.settle.state.disk = cursor.disk := by
  rw [settle, unrecorded]
  simp only
  split
  · rfl
  · rw [Outcome.state_mapState]

/-- Without a recorder nothing is written. -/
theorem disk_close_of_unrecorded (unrecorded : cursor.recorder = none) :
    cursor.close.state.disk = cursor.disk := by
  obtain ⟨result, checked⟩ := checkEpoch_of_unrecorded unrecorded
  rw [close, Outcome.state_mapState, checked]
  exact disk_settle_of_unrecorded unrecorded

/-- What is left of a cursor is what is left once it has settled. -/
theorem release_eq (cursor : Cursor ν) :
    cursor.release =
      (cursor.checkEpoch.settle.state.session, cursor.checkEpoch.settle.state.disk) := by
  rw [release, close, Outcome.state_mapState]
  rfl

/-- **Closing leaves a cursor idle**, whether or not it succeeds. -/
theorem isIdle_close (cursor : Cursor ν) : cursor.close.state.IsIdle := by
  obtain ⟨session, disk, eq⟩ := state_close cursor
  rw [eq]
  exact ⟨rfl, rfl, rfl, rfl⟩

/-- What a cursor comes to when it closes what it has open, as it does in front of
a statement and of a cache file. -/
def Clears (cursor start : Cursor ν) : Prop :=
  ({ cursor with error := none } : Cursor ν).close = .ok () start

theorem IsIdle.clears (idle : cursor.IsIdle) : cursor.Clears cursor.cleared := by
  have idle' : ({ cursor with error := none } : Cursor ν).IsIdle :=
    ⟨idle.id_eq, idle.rows_eq, idle.source_eq, idle.recorder_eq⟩
  exact idle'.close_eq

namespace Clears

variable {start : Cursor ν}

theorem isIdle (clears : cursor.Clears start) : start.IsIdle := by
  have idle := isIdle_close ({ cursor with error := none } : Cursor ν)
  rw [show Cursor.close _ = _ from clears] at idle
  exact idle

/-- Closing again changes nothing. -/
theorem again (clears : cursor.Clears start) :
    start.close = .ok () start ∧ ({ start with error := none } : Cursor ν) = start ∧
      start.binds = cursor.binds ∧ start.cacheTarget = cursor.cacheTarget := by
  obtain ⟨session, disk, eq⟩ := state_close ({ cursor with error := none } : Cursor ν)
  rw [show Cursor.close _ = _ from clears] at eq
  replace eq : start = _ := eq
  refine ⟨?_, ?_, ?_, ?_⟩
  · rw [clears.isIdle.close_eq, eq]
    rfl
  · rw [eq]
  · rw [eq]
  · rw [eq]

/-- Nor does clearing. -/
theorem cleared_eq (clears : cursor.Clears start) : start.cleared = start := by
  obtain ⟨closes, noError, -, -⟩ := clears.again
  rw [cleared, noError]
  exact (EStateM.Result.ok.inj (clears.isIdle.close_eq.symm.trans closes)).2

/-- The epoch of the former result set is kept. -/
theorem epoch_eq (clears : cursor.Clears start) : start.epoch = cursor.epoch := by
  obtain ⟨session, disk, eq⟩ := state_close ({ cursor with error := none } : Cursor ν)
  rw [show Cursor.close _ = _ from clears] at eq
  rw [show start = _ from eq]

/-- **A cursor that has a result set runs its statement** as the idle one does that
it comes to. -/
theorem execute_eq (clears : cursor.Clears start) : cursor.execute = start.execute := by
  obtain ⟨closes, noError, sameBinds, -⟩ := clears.again
  have runs : runStatement cursor.binds ({ cursor with error := none } : Cursor ν) =
      runStatement cursor.binds start := by
    unfold runStatement
    simp only [show Cursor.close _ = _ from clears, closes]
  rw [execute, execute, noting, noting, runs, noError, sameBinds]

/-- So it does with a cache file, unless it is to record into that. -/
theorem openCached_eq (clears : cursor.Clears start) {path : String}
    (apart : cursor.cacheTarget.any (Disk.samePath path) = false) :
    cursor.openCached path = start.openCached path := by
  obtain ⟨closes, noError, -, sameTarget⟩ := clears.again
  have opens : openFile path ({ cursor with error := none } : Cursor ν) = openFile path start := by
    unfold openFile
    simp only [show Cursor.close _ = _ from clears, closes, sameTarget, apart]
    rw [if_neg Bool.false_ne_true, if_neg Bool.false_ne_true]
  rw [openCached, openCached, noting, noting, opens, noError]

end Clears

/-! ### Cache files -/

/-- A file on an idle cursor. -/
theorem IsIdle.openFile_eq (idle : cursor.IsIdle) (path : String) :
    cursor.openFile path =
      if cursor.cacheTarget.any (Disk.samePath path) then
        .error (.usage .cacheIntoSource) cursor
      else
        match CacheReader.openNow path cursor.now cursor.disk with
        | .error e => .error e cursor.forget
        | .ok reader =>
          match cursor.forget.createTarget with
          | .error e after => .error e after
          | .ok () armed => armed.readFirstPage reader := by
  rw [openFile, idle.close_eq]
  rfl

/-- A file on an idle cursor, with its last error. -/
theorem IsIdle.openCached_eq (idle : cursor.IsIdle) (path : String) :
    cursor.openCached path =
      if cursor.cacheTarget.any (Disk.samePath path) then
        .error (.usage .cacheIntoSource) (cursor.note (.usage .cacheIntoSource))
      else
        match CacheReader.openNow path cursor.now cursor.disk with
        | .error e => .error e (cursor.cleared.note e)
        | .ok reader =>
          match cursor.cleared.createTarget with
          | .error e after => .error e (after.note e)
          | .ok () armed =>
            match armed.readFirstPage reader with
            | .ok () after => .ok () after
            | .error e after => .error e (after.note e) := by
  have idle' : ({ cursor with error := none } : Cursor ν).IsIdle :=
    ⟨idle.id_eq, idle.rows_eq, idle.source_eq, idle.recorder_eq⟩
  rw [openCached, noting, idle'.openFile_eq]
  by_cases into : cursor.cacheTarget.any (Disk.samePath path)
  · rw [if_pos into, if_pos into]
    rfl
  · rw [if_neg into, if_neg into]
    rw [show ({ cursor with error := none } : Cursor ν).forget = cursor.cleared from rfl]
    rcases CacheReader.openNow path cursor.now cursor.disk with e | reader
    · rfl
    · rcases cursor.cleared.createTarget with ⟨⟨⟩, armed⟩ | ⟨e, after⟩
      · rcases read : armed.readFirstPage reader with ⟨⟨⟩, after⟩ | ⟨e, after⟩
        · simp only [read]
        · simp only [read]
      · rfl

/-- An idle cursor does not come to a file, or it reads its first page. -/
theorem IsIdle.openCached_cases (idle : cursor.IsIdle) (path : String) :
    (∃ e after, cursor.openCached path = .error e after ∧ after.result.id = none ∧
        after.result.rows = []) ∨
      ∃ reader armed, CacheReader.openNow path cursor.now cursor.disk = .ok reader ∧
        cursor.IsArmed armed ∧
        cursor.openCached path =
          match armed.readFirstPage reader with
          | .ok () after => .ok () after
          | .error e after => .error e (after.note e) := by
  rw [idle.openCached_eq]
  by_cases into : cursor.cacheTarget.any (Disk.samePath path)
  · rw [if_pos into]
    exact .inl ⟨_, _, rfl, idle.id_eq, idle.rows_eq⟩
  · rw [if_neg into]
    rcases opened : CacheReader.openNow path cursor.now cursor.disk with e | reader
    · exact .inl ⟨e, _, rfl, rfl, rfl⟩
    · rcases created : cursor.cleared.createTarget with ⟨⟨⟩, armed⟩ | ⟨e, after⟩
      · exact .inr ⟨reader, armed, rfl, idle.isArmed created, rfl⟩
      · obtain rfl := createTarget_error created
        exact .inl ⟨e, _, rfl, rfl, rfl⟩

end Cursor

end ProxyClient
