/-
ProxyClient/Proofs/Cursor/Offline.lean

Cursors without a result set at the server.  Such a cursor opens cache files,
reads from them, is closed and is let go of without a request to the server
(`Cursor.browses_silently`), whatever the files hold, with one exception.  A
file whose description can be read, but not its first page, leaves the
identifier of its result set behind, and the cursor takes it for one at the
server (`Cursor.Misleads`):

    the description is read, the first page is not
      →  the next read asks the server for rows, or the close for an end

That it does is proved as well (`Cursor.Misleads.asks`), so that the exception
is the only one.
-/
import ProxyClient.Proofs.Cursor.Beside
import ProxyClient.Proofs.Paging.Supply
import ProxyClient.Proofs.Paging.TableServer

namespace ProxyClient

namespace Cursor

variable {ν : Type} {cursor after start : Cursor ν}

/-! ### Cursors that ask nothing -/

/-- No result set is open at the server, or it was opened in another epoch. -/
def IsOffline (cursor : Cursor ν) : Prop :=
  cursor.openAtServer? = none ∨ cursor.session.connection.epoch ≠ cursor.epoch

/-- The cursor asks the server for nothing: it has no result set there, or the
session sends no requests. -/
def IsSilent (cursor : Cursor ν) : Prop :=
  cursor.IsOffline ∨ cursor.session.Refuses

theorem IsIdle.isOffline (idle : cursor.IsIdle) : cursor.IsOffline :=
  .inl idle.openAtServer?_eq

theorem session_checkEpoch (cursor : Cursor ν) : cursor.checkEpoch.session = cursor.session := by
  obtain ⟨result, recorder, disk, checked⟩ := checkEpoch_with cursor
  rw [checked]

/-- Once the epoch was checked, nothing is open. -/
theorem IsOffline.openAtServer?_checkEpoch (offline : cursor.IsOffline) :
    cursor.checkEpoch.openAtServer? = none := by
  by_cases far : cursor.source.isNone ∧ cursor.result.id.isSome ∧ !cursor.result.suspended ∧
      cursor.session.connection.epoch ≠ cursor.epoch
  · -- the page is given up, and the server is not asked for such a page
    rw [checkEpoch, if_pos far, detachRecorder_with cursor cursor.result.suspend cursor.source]
    rw [openAtServer?, if_neg]
    rintro ⟨-, -, present⟩
    contradiction
  · rw [checkEpoch, if_neg far]
    rcases offline with nothing | older
    · exact nothing
    · rw [openAtServer?]
      split
      · next open_ =>
        -- it has no identifier, since else the page would have been given up
        obtain ⟨live, -, present⟩ := open_
        rcases known : cursor.result.id with - | id
        · rfl
        · exact absurd ⟨live, by rw [known]; rfl, present, older⟩ far
      · rfl

theorem IsSilent.checkEpoch (silent : cursor.IsSilent) : cursor.checkEpoch.IsSilent := by
  rcases silent with offline | refuses
  · exact .inl (.inl offline.openAtServer?_checkEpoch)
  · refine .inr ?_
    rw [session_checkEpoch]
    exact refuses

variable [Network ν]

/-! ### Reading -/

/-- A page that is not fetched from the server leaves the session as it is. -/
theorem fetchPage_of_silent (silent : cursor.source.isSome = true ∨ cursor.session.Refuses)
    (skip : Nat) :
    (cursor.fetchPage skip).state.session = cursor.session ∧
      (cursor.fetchPage skip).state.source.isSome = cursor.source.isSome := by
  rcases known : cursor.result.id with - | id
  · -- nothing is open
    rw [fetchPage, known]
    exact ⟨rfl, rfl⟩
  · rcases source : cursor.source with - | reader
    · -- the server cannot be asked
      rw [source] at silent
      obtain ⟨e, refused⟩ := query_of_refuses cursor.begun
        (.fetch id (UInt64.ofNat skip) cursor.bufferSize) (silent.resolve_left Bool.false_ne_true)
      rw [fetchPage_eq_query source known, refused]
      exact ⟨rfl, by rw [← source]; rfl⟩
    · -- a file is read
      rw [fetchPage_eq_fetch source known]
      rcases reader.fetch reception Reception.disk skip cursor.bufferSize.toNat
        cursor.begun.parts with ⟨⟨⟩, reader, parts⟩ | ⟨e, reader, parts⟩
      · exact ⟨rfl, rfl⟩
      · exact ⟨rfl, rfl⟩

/-- Nor do the pages up to a row. -/
theorem fetchTo_of_silent (silent : cursor.source.isSome = true ∨ cursor.session.Refuses)
    (row : Nat) :
    (cursor.fetchTo row).session = cursor.session ∧
      (cursor.fetchTo row).source.isSome = cursor.source.isSome := by
  refine fetchTo_keeps (P := fun after => after.session = cursor.session ∧
    after.source.isSome = cursor.source.isSome) ?_ (fun _ _ kept => kept) cursor ⟨rfl, rfl⟩
  rintro after ⟨session_eq, source_eq⟩ -
  rw [← session_eq, ← source_eq] at silent ⊢
  exact fetchPage_of_silent silent (after.skipFor row)

/-- **A read asks nothing.** -/
theorem IsSilent.ensureRow (silent : cursor.IsSilent) (row : Nat) :
    (cursor.ensureRow row).session = cursor.session ∧ (cursor.ensureRow row).IsSilent := by
  have kept := session_checkEpoch cursor
  rw [Cursor.ensureRow]
  by_cases quiet : cursor.checkEpoch.source.isSome = true ∨ cursor.checkEpoch.session.Refuses
  · obtain ⟨session_eq, source_eq⟩ := fetchTo_of_silent quiet row
    refine ⟨session_eq.trans kept, ?_⟩
    rcases quiet with source | refuses
    · exact .inl (.inl (openAtServer?_of_isSome_source (source_eq.trans source)))
    · refine .inr ?_
      rw [session_eq]
      exact refuses
  · -- rows come from nowhere, and so nothing is fetched
    obtain ⟨live, usable⟩ := not_or.mp quiet
    have nothing : cursor.checkEpoch.openAtServer? = none := by
      rcases silent with offline | refuses
      · exact offline.openAtServer?_checkEpoch
      · rw [kept] at usable
        contradiction
    have live' : cursor.checkEpoch.source = none := by simpa using live
    have stays : cursor.checkEpoch.fetchTo row = cursor.checkEpoch := by
      rw [fetchTo, dif_neg]
      rw [needsFetch_of_openAtServer?_eq_none live' nothing]
      exact Bool.false_ne_true
    rw [stays]
    exact ⟨kept, silent.checkEpoch⟩

/-- Nor do several. -/
theorem IsSilent.rowsFrom (silent : cursor.IsSilent) (first limit : Nat) :
    (cursor.rowsFrom first limit).2.session = cursor.session ∧
      (cursor.rowsFrom first limit).2.IsSilent := by
  induction limit generalizing cursor first with
  | zero => exact ⟨rfl, silent⟩
  | succ limit ih =>
    obtain ⟨session_eq, silent'⟩ := silent.ensureRow first
    have same : (cursor.row first).2 = cursor.ensureRow first := rfl
    rw [← same] at session_eq silent'
    rw [Cursor.rowsFrom]
    rcases read : cursor.row first with ⟨- | texts, after⟩
    · rw [read] at session_eq silent'
      exact ⟨session_eq, silent'⟩
    · rw [read] at session_eq silent'
      obtain ⟨session_eq', silent''⟩ := ih silent' (first + 1)
      exact ⟨session_eq'.trans session_eq, silent''⟩

/-! ### Closing -/

/-- A recorder is not completed from the server. -/
theorem session_drain (writer : CacheWriter)
    (silent : cursor.openAtServer? = none ∨ cursor.session.Refuses) :
    (cursor.drain writer).state.2.session = cursor.session := by
  rw [drain]
  split
  · -- the end frame is written already
    rfl
  · split
    · -- a file is read to its end
      rw [Outcome.state_mapState]
    · split
      · -- nothing is open at the server
        rfl
      · -- the fetch is refused
        next id there =>
        rw [there] at silent
        obtain ⟨e, refused⟩ := Session.run_of_refuses
          (silent.resolve_left (Option.some_ne_none id))
          (Query.exchange (.fetch id 0 0) CacheWriter.handler) { handler := (writer, cursor.disk) }
        rw [refused]
        rfl

theorem session_settle (silent : cursor.openAtServer? = none ∨ cursor.session.Refuses) :
    cursor.settle.state.session = cursor.session := by
  rw [settle]
  split
  · -- the recorder completes its file
    next writer _ =>
    have drained : (({ cursor with recorder := none } : Cursor ν).drain writer).state.2.session =
        cursor.session := session_drain writer silent
    rcases ran : ({ cursor with recorder := none } : Cursor ν).drain writer with
      ⟨⟨⟩, writer', after⟩ | ⟨e, writer', after⟩
    · rw [ran] at drained
      exact drained
    · rw [ran] at drained
      exact drained
  · split
    · rfl
    · -- the request to abort is refused
      next id there =>
      rw [there] at silent
      obtain ⟨e, refused⟩ := Session.run_of_refuses
        (silent.resolve_left (Option.some_ne_none id)) (Command.abortResultSet id).exchange none
      rw [refused]
      rfl

/-- **Closing asks nothing.** -/
theorem IsSilent.session_close (silent : cursor.IsSilent) :
    cursor.close.state.session = cursor.session := by
  have settled : cursor.checkEpoch.settle.state.session = cursor.checkEpoch.session := by
    apply session_settle
    rcases silent with offline | refuses
    · exact .inl offline.openAtServer?_checkEpoch
    · rw [session_checkEpoch]
      exact .inr refuses
  rw [close, Outcome.state_mapState]
  exact settled.trans (session_checkEpoch cursor)

/-- Nor does letting go of the cursor. -/
theorem IsSilent.session_release (silent : cursor.IsSilent) : cursor.release.1 = cursor.session :=
  silent.session_close

/-! ### Opening -/

omit [Network ν] in
/-- The first page of a file leaves the session as it is, whether or not it can be read. -/
theorem readFirstPage_cases (cursor : Cursor ν) (reader : CacheReader) :
    (∃ reader', ∃ rows : List DataRow, ∃ batch, cursor.readFirstPage reader =
        .ok () { cursor.taking cursor.session
          (.describe reader.describe :: (rows.map .row ++ [.batchEnd batch])) with
            source := some reader' }) ∨
      ∃ e, ∃ rows : List DataRow, cursor.readFirstPage reader =
        .error e (cursor.taking cursor.session (.describe reader.describe :: rows.map .row)) := by
  have fed : reader.feedDescribe reception cursor.parts =
      .ok () (Reception.take cursor.parts (.describe reader.describe)) :=
    takes_reception (.describe reader.describe) cursor.parts
  rw [readFirstPage]
  simp only [fed]
  rcases CacheReader.fetch_cases takes_reception Reception.disk 0 cursor.bufferSize.toNat reader
    (Reception.take cursor.parts (.describe reader.describe)) with
    ⟨rows, batch, reader', fetched⟩ | ⟨rows, e, reader', fetched⟩
  · refine .inl ⟨reader', rows, batch, ?_⟩
    simp only [fetched]
    rfl
  · refine .inr ⟨e, rows, ?_⟩
    simp only [fetched]
    rfl

/-- Opening the file leaves the cursor with a result set that it takes for one at
the server: the description can be read, but not the first page, and the session
sends requests. -/
structure Misleads (path : String) (cursor : Cursor ν) : Prop where
  /-- The first page cannot be read. -/
  fails : ∃ start armed reader e after, cursor.Clears start ∧
    CacheReader.openNow path start.now start.disk = .ok reader ∧
    start.createTarget = .ok () armed ∧ armed.readFirstPage reader = .error e after
  /-- The file is not the target. -/
  other : cursor.cacheTarget.any (Disk.samePath path) = false
  /-- The session sends requests. -/
  usable : ¬ cursor.session.Refuses
  /-- It is the one that the cursor knows. -/
  epoch_eq : cursor.session.connection.epoch = cursor.epoch

/-- A first page that is torn misleads the cursor, unless its session sends nothing, or is
another one than the cursor knows. -/
theorem Clears.isSilent_or_misleads {armed torn : Cursor ν} {path : String} {reader : CacheReader}
    {e : Error} (clears : cursor.Clears start) (same : start.session = cursor.session)
    (other : cursor.cacheTarget.any (Disk.samePath path) = false)
    (opened : CacheReader.openNow path start.now start.disk = .ok reader)
    (created : start.createTarget = .ok () armed)
    (failed : armed.readFirstPage reader = .error e torn)
    (session_eq : torn.session = armed.session) (epoch_eq : torn.epoch = armed.epoch) :
    torn.session = cursor.session ∧ (torn.IsSilent ∨ cursor.Misleads path) := by
  obtain ⟨recorder, disk, armed_eq, -⟩ := createTarget_ok created
  have session_eq' : torn.session = cursor.session := by
    rw [session_eq, armed_eq]
    exact same
  have epoch_eq' : torn.epoch = cursor.epoch := by
    rw [epoch_eq, armed_eq]
    exact clears.epoch_eq
  refine ⟨session_eq', ?_⟩
  by_cases refuses : cursor.session.Refuses
  · rw [← session_eq'] at refuses
    exact .inl (.inr refuses)
  · by_cases known : cursor.session.connection.epoch = cursor.epoch
    · exact .inr ⟨⟨start, armed, reader, e, torn, clears, opened, created, failed⟩, other, refuses,
        known⟩
    · rw [← session_eq', ← epoch_eq'] at known
      exact .inl (.inl (.inr known))

/-- So it is with a cursor that was closed without an error. -/
theorem Clears.openCached_silently (clears : cursor.Clears start)
    (same : start.session = cursor.session) {path : String}
    (other : cursor.cacheTarget.any (Disk.samePath path) = false) :
    (cursor.openCached path).state.session = cursor.session ∧
      ((cursor.openCached path).state.IsSilent ∨ cursor.Misleads path) := by
  have other' : start.cacheTarget.any (Disk.samePath path) = false := by
    rw [clears.again.2.2.2, other]
  have offline : start.IsOffline := clears.isIdle.isOffline
  rw [clears.openCached_eq other, clears.isIdle.openCached_eq]
  rw [if_neg (by rw [other']; exact Bool.false_ne_true), clears.cleared_eq]
  rcases opened : CacheReader.openNow path start.now start.disk with e | reader
  · -- the file cannot be read
    exact ⟨same, .inl (.inl offline)⟩
  · rcases created : start.createTarget with ⟨⟨⟩, armed⟩ | ⟨e, after⟩
    · rcases readFirstPage_cases armed reader with ⟨reader', rows, batch, read⟩ | ⟨e, rows, failed⟩
      · -- the first page is there, and the rows come from the file
        obtain ⟨recorder, disk, armed_eq, -⟩ := createTarget_ok created
        have session_eq : armed.session = cursor.session := by
          rw [armed_eq]
          exact same
        simp only [read]
        exact ⟨session_eq, .inl (.inl (.inl (openAtServer?_of_isSome_source rfl)))⟩
      · -- it is torn: the cursor has an id, and no file to go on with
        have torn := clears.isSilent_or_misleads same other opened created failed rfl rfl
        simp only [failed]
        exact torn
    · -- the copy cannot be created
      obtain rfl := createTarget_error created
      exact ⟨same, .inl (.inl offline)⟩

/-- **Opening a file asks nothing**, and the cursor has nothing at the server
then, unless the file misleads it. -/
theorem IsSilent.openCached (silent : cursor.IsSilent) (path : String) :
    (cursor.openCached path).state.session = cursor.session ∧
      ((cursor.openCached path).state.IsSilent ∨ cursor.Misleads path) := by
  have silent₀ : ({ cursor with error := none } : Cursor ν).IsSilent := silent
  by_cases other : cursor.cacheTarget.any (Disk.samePath path) = false
  · have closed_eq := silent₀.session_close
    rcases closed : ({ cursor with error := none } : Cursor ν).close with ⟨⟨⟩, start⟩ | ⟨e, start⟩
    · rw [closed] at closed_eq
      exact Clears.openCached_silently closed closed_eq other
    · -- closing fails, and the file is not opened
      have failed : cursor.openCached path = .error e (start.note e) := by
        rw [Cursor.openCached, noting, openFile, if_neg (by rw [other]; exact Bool.false_ne_true)]
        simp only [closed]
      have idle := isIdle_close ({ cursor with error := none } : Cursor ν)
      rw [closed] at closed_eq idle
      have offline : start.IsOffline := idle.isOffline
      rw [failed]
      exact ⟨closed_eq, .inl (.inl offline)⟩
  · -- the file is the one that is recorded to
    have refused : cursor.openCached path = .error (.usage .cacheIntoSource)
        (({ cursor with error := none } : Cursor ν).note (.usage .cacheIntoSource)) := by
      rw [Cursor.openCached, noting, openFile, if_pos (by simpa using other)]
    rw [refused]
    exact ⟨rfl, .inl silent⟩

/-! ### Files that mislead -/

/-- The cursor that a misleading file leaves behind: a page is open, as if its rows
came from the server. -/
theorem Misleads.openCached_eq {path : String} (misleads : cursor.Misleads path) :
    ∃ start armed e, ∃ reader : CacheReader, ∃ rows : List DataRow,
      cursor.Clears start ∧ start.createTarget = .ok () armed ∧
      cursor.openCached path = .error e ((armed.taking armed.session
        (.describe reader.describe :: rows.map .row)).note e) := by
  obtain ⟨start, armed, reader, e, after, clears, opened, created, failed⟩ := misleads.fails
  have other : start.cacheTarget.any (Disk.samePath path) = false := by
    rw [clears.again.2.2.2, misleads.other]
  rcases readFirstPage_cases armed reader with ⟨reader', rows, batch, read⟩ | ⟨e', rows, read⟩
  · rw [failed] at read
    contradiction
  · refine ⟨start, armed, e', reader, rows, clears, created, ?_⟩
    rw [clears.openCached_eq misleads.other, clears.isIdle.openCached_eq]
    rw [if_neg (by rw [other]; exact Bool.false_ne_true), clears.cleared_eq, opened]
    simp only [created, read]

/-- Of an unfinished result set at the server the rest is asked for, or its end. -/
theorem events_settle {id : ResultSetId} (usable : ¬ cursor.session.Refuses)
    (there : cursor.openAtServer? = some id)
    (unfinished : ∀ writer, cursor.recorder = some writer → writer.finished = false) :
    ∃ event : NetworkEvent, event.IsRequest ∧
      cursor.settle.state.session.traffic.events = cursor.session.traffic.events ++ [event] := by
  rcases recorder : cursor.recorder with - | writer
  · -- the rest of the rows is to be discarded
    obtain ⟨event, request, events⟩ := Session.events_run
      (Command.sends_exchange (.abortResultSet id)) rfl usable none
    refine ⟨event, request, ?_⟩
    rw [settle, recorder]
    simp only [there]
    rw [Outcome.state_mapState]
    exact events
  · -- they are to be recorded
    obtain ⟨event, request, events⟩ := Session.events_run
      (Query.sends_exchange (.fetch id 0 0) CacheWriter.handler) rfl usable
      { handler := (writer, cursor.disk) }
    have drained : ({ cursor with recorder := none } : Cursor ν).drain writer = _ :=
      drain_eq_run (unfinished writer recorder) there
    refine ⟨event, request, ?_⟩
    rw [settle, recorder]
    simp only [drained]
    rcases ran : cursor.session.run (Query.exchange (.fetch id 0 0) CacheWriter.handler)
      { handler := (writer, cursor.disk) } with ⟨⟨⟩, session, query⟩ | ⟨e, session, query⟩
    · rw [ran] at events
      exact events
    · rw [ran] at events
      exact events

/-- So it is when the cursor is let go of. -/
theorem events_release {id : ResultSetId} (usable : ¬ cursor.session.Refuses)
    (epoch_eq : cursor.session.connection.epoch = cursor.epoch)
    (there : cursor.openAtServer? = some id)
    (unfinished : ∀ writer, cursor.recorder = some writer → writer.finished = false) :
    ∃ event : NetworkEvent, event.IsRequest ∧
      cursor.release.1.traffic.events = cursor.session.traffic.events ++ [event] := by
  rw [release_eq, checkEpoch_of_epoch_eq epoch_eq]
  exact events_settle usable there unfinished

omit [Network ν] in
/-- A recorder of a target is not finished by a description and rows. -/
theorem unfinished_of_createTarget {armed : Cursor ν} (idle : start.IsIdle)
    (created : start.createTarget = .ok () armed) (describe : Describe) (rows : List DataRow)
    {writer : CacheWriter}
    (there : (armed.taking armed.session (.describe describe :: rows.map .row)).recorder =
      some writer) : writer.finished = false := by
  have recorder := congrArg Prod.fst
    (taking_recorder armed armed.session (.describe describe :: rows.map .row))
  have inside : ∀ event ∈ RowEvent.describe describe :: rows.map .row,
      ∀ batch, event ≠ .batchEnd batch := by simp
  obtain ⟨former, there', same⟩ := CacheWriter.finished_foldl_record inside
    (armed.recorder, armed.disk) (recorder.symm.trans there)
  rw [same]
  rcases createTarget_cases created with ⟨-, untouched⟩ | ⟨path, new, disk, -, fresh, rfl⟩
  · rw [untouched] at there'
    exact absurd (idle.recorder_eq.symm.trans there') (Option.some_ne_none former).symm
  · obtain rfl := Option.some.inj there'
    rw [(CacheWriter.create_ok fresh).2]

/-- The cursor takes the result set of a misleading file for one at the server. -/
theorem Misleads.isOpen {path : String} (misleads : cursor.Misleads path) :
    ∃ id, (cursor.openCached path).state.openAtServer? = some id := by
  obtain ⟨start, armed, e, reader, rows, clears, created, failed⟩ := misleads.openCached_eq
  obtain ⟨recorder, disk, armed_eq, -⟩ := createTarget_ok created
  have open_ : (armed.taking armed.session
      (.describe reader.describe :: rows.map .row)).result.IsOpenAt reader.describe.head.id
        reader.describe.head.firstRow.toNat := by
    rw [taking_result]
    exact ((ResultSet.isOpenAt_openWith armed.result reader.describe).foldl_rows rows).1
  have live : armed.source = none := by
    rw [armed_eq]
    exact clears.isIdle.source_eq
  refine ⟨reader.describe.head.id, ?_⟩
  rw [failed, openAtServer?, if_pos]
  · exact open_.id_eq
  · exact ⟨Option.isNone_iff_eq_none.mpr live, congrArg not open_.ended,
      congrArg not open_.suspended⟩

/-- **A misleading file makes the cursor ask the server**, at the latest when it is
let go of. -/
theorem Misleads.asks {path : String} (misleads : cursor.Misleads path) (silent : cursor.IsSilent) :
    ∃ event : NetworkEvent, event.IsRequest ∧
      (cursor.openCached path).state.release.1.traffic.events =
        cursor.session.traffic.events ++ [event] := by
  obtain ⟨id, there⟩ := misleads.isOpen
  have session_eq := (silent.openCached path).1
  obtain ⟨start, armed, e, reader, rows, clears, created, failed⟩ := misleads.openCached_eq
  obtain ⟨recorder, disk, armed_eq, -⟩ := createTarget_ok created
  rw [failed] at session_eq there ⊢
  replace session_eq : armed.session = cursor.session := session_eq
  rw [← session_eq]
  refine events_release ?_ ?_ there fun writer =>
    unfinished_of_createTarget clears.isIdle created reader.describe rows
  · show ¬ armed.session.Refuses
    rw [session_eq]
    exact misleads.usable
  · show armed.session.connection.epoch = armed.epoch
    rw [session_eq, armed_eq]
    exact misleads.epoch_eq.trans clears.epoch_eq.symm

/-! ### Browsing -/

/-- What may be done with a cursor that reads cache files. -/
inductive Browse (ν : Type)
  /-- A file is opened. -/
  | opens (path : String)
  /-- A row is read, or a part of it. -/
  | row (row : Nat)
  /-- Some rows are read. -/
  | rows (first limit : Nat)
  /-- The result set is closed. -/
  | closes
  /-- The settings are changed; a target may be set, or taken back. -/
  | sets (settings : Cursor ν)
  /-- Somebody else changes files. -/
  | finds (disk : Disk)

/-- The cursor after that, whether or not it succeeds. -/
def afterBrowse (cursor : Cursor ν) : Browse ν → Cursor ν
  | .opens path => (cursor.openCached path).state
  | .row row => cursor.ensureRow row
  | .rows first limit => (cursor.rowsFrom first limit).2
  | .closes => cursor.close.state
  | .sets settings => cursor.withSettings settings
  | .finds disk => { cursor with disk }

/-- The cursor after some steps. -/
def browse (cursor : Cursor ν) (steps : List (Browse ν)) : Cursor ν :=
  steps.foldl afterBrowse cursor

/-- A step asks nothing, and the cursor is silent then as before. -/
theorem IsSilent.afterBrowse (silent : cursor.IsSilent) {step : Browse ν}
    (plain : ∀ path, step = .opens path → ¬ cursor.Misleads path) :
    (cursor.afterBrowse step).session = cursor.session ∧ (cursor.afterBrowse step).IsSilent := by
  cases step with
  | opens path =>
    obtain ⟨session_eq, silent'⟩ := silent.openCached path
    exact ⟨session_eq, silent'.resolve_right (plain path rfl)⟩
  | row row => exact silent.ensureRow row
  | rows first limit => exact silent.rowsFrom first limit
  | closes => exact ⟨silent.session_close, .inl cursor.isIdle_close.isOffline⟩
  | sets settings => exact ⟨rfl, silent⟩
  | finds disk => exact ⟨rfl, silent⟩

theorem IsSilent.browse (silent : cursor.IsSilent) (steps : List (Browse ν))
    (plain : ∀ front path back, steps = front ++ .opens path :: back →
      ¬ (cursor.browse front).Misleads path) :
    (cursor.browse steps).session = cursor.session ∧ (cursor.browse steps).IsSilent := by
  induction steps generalizing cursor with
  | nil => exact ⟨rfl, silent⟩
  | cons step steps ih =>
    have first : ∀ path, step = .opens path → ¬ cursor.Misleads path := by
      rintro path rfl
      exact plain [] path steps rfl
    obtain ⟨session_eq, silent'⟩ := silent.afterBrowse first
    obtain ⟨session_eq', silent''⟩ := ih silent' fun front path back split =>
      plain (step :: front) path back (congrArg (step :: ·) split)
    exact ⟨session_eq'.trans session_eq, silent''⟩

/-- **Cache files are read without the server.**  A cursor without a result set at
the server opens files, whatever they hold, reads rows, is closed and is let go
of, in any order and with any settings, and the session is as it was: nothing
was sent.  No file that is opened may mislead the cursor: have a description
that can be read and a first page that cannot. -/
theorem browses_silently (offline : cursor.IsOffline) (steps : List (Browse ν))
    (plain : ∀ front path back, steps = front ++ .opens path :: back →
      ¬ (cursor.browse front).Misleads path) :
    (cursor.browse steps).session = cursor.session ∧
      (cursor.browse steps).release.1 = cursor.session := by
  obtain ⟨session_eq, silent⟩ := IsSilent.browse (.inl offline) steps plain
  exact ⟨session_eq, silent.session_release.trans session_eq⟩

end Cursor

namespace TableServer

/-- A disk with a file of five rows, and with one that is torn inside of the first. -/
def shelfDisk : Disk where
  entries := [(["whole"], .file 0), (["torn"], .file 1)]
  contents :=
    let bytes := CacheWriter.recorded ⟨0⟩ (fiveRowStore.describe ⟨true, 2⟩ 0) fiveRows
    [bytes, bytes.take 60]

/-- A cursor that reads these files. -/
def browsingCursor : Cursor TableServer :=
  { (TableServer.mk fiveRowStore none none).cursor shelfDisk with bufferSize := 2 }

/-- What is known of a run that reads the whole file, and looks for one that is not there. -/
theorem browses_silently_browsingCursor :
    let steps : List (Cursor.Browse TableServer) :=
      [.opens "whole", .row 3, .rows 0 9, .opens "missing", .closes]
    browsingCursor.IsOffline ∧
      (∀ front path back, steps = front ++ .opens path :: back →
        ¬ (browsingCursor.browse front).Misleads path) ∧
      (browsingCursor.browse steps).session = browsingCursor.session ∧
      (browsingCursor.browse steps).release.1 = browsingCursor.session := by
  intro steps
  have offline : browsingCursor.IsOffline := .inl rfl
  have plain : ∀ front path back, steps = front ++ .opens path :: back →
      ¬ (browsingCursor.browse front).Misleads path := by
    intro front path back split misleads
    obtain ⟨id, there⟩ := misleads.isOpen
    have first : (browsingCursor.openCached "whole").state.openAtServer? = none := by decide +kernel
    have last : ((browsingCursor.browse [.opens "whole", .row 3, .rows 0 9]).openCached
      "missing").state.openAtServer? = none := by decide +kernel
    -- the only steps that open a file are the first and the fourth
    rcases front with - | ⟨a, - | ⟨b, - | ⟨c, - | ⟨d, - | ⟨e, front⟩⟩⟩⟩⟩ <;>
      simp only [steps, List.nil_append, List.cons_append, List.cons.injEq, List.nil_eq,
        List.append_eq_nil_iff, Cursor.Browse.opens.injEq, reduceCtorEq, false_and,
        and_false] at split
    · obtain ⟨rfl, -⟩ := split
      exact absurd (there.symm.trans first) (Option.some_ne_none id)
    · obtain ⟨rfl, rfl, rfl, rfl, -⟩ := split
      exact absurd (there.symm.trans last) (Option.some_ne_none id)
  exact ⟨offline, plain, Cursor.browses_silently offline steps plain⟩

/-- **The torn file misleads the cursor**: it cannot be opened, and the read that
follows asks the server for the rows of its result set. -/
theorem browses_aloud :
    browsingCursor.IsOffline ∧ (browsingCursor.openCached "torn").toExcept.toBool = false ∧
      ∃ bytes, (Request.fetch 7 0 2).encode = .ok bytes ∧
        (browsingCursor.browse [.opens "torn", .row 0]).session.traffic.events =
          [.sent 0 bytes] :=
  ⟨.inl rfl, by decide +kernel, _, rfl, by decide +kernel⟩

end TableServer

end ProxyClient
