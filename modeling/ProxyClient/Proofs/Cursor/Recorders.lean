/-
ProxyClient/Proofs/Cursor/Recorders.lean

The file behind a recorder.  A recorder that has not begun leaves its file alone;
once it has, it writes behind the last byte, so that nothing it was handed is lost
(`CacheWriter.Keeping`):

    fresh    nothing was handed on yet, and no row was shown
      │ first frame
    begun    bytes on the disk ++ bytes in the buffer  =  header ++ frames
             all rows shown so far  are among the frames, in their order

The page takes every event that the recorder takes.  So the rows of every page that
was shown while a result set is recorded are in its file, as long as nobody else writes
on the disk (`Cursor.rowsIn_image`).
-/
import ProxyClient.Proofs.Cursor.Deeds

namespace ProxyClient

open scoped List

/-! ### Writers -/

/-- The row that an event brings. -/
def RowEvent.rows (event : RowEvent) : List Row :=
  event.row?.toList.map DataRow.values

/-- A page has the rows that it had and those of the event, or some of them, in their order. -/
theorem ResultSet.rows_apply_sublist (rs : ResultSet) (event : RowEvent) :
    (rs.apply event).rows <+ rs.rows ++ event.rows := by
  cases event with
  | describe d => exact List.nil_sublist _
  | outputBinds | batchEnd => exact List.sublist_append_left ..
  | row data => exact .refl _

namespace CacheWriter

/-- The bytes are a header and whole frames, and those of the rows are among the frames, in
the order of the rows and as often. -/
def Framed (rows : List Row) (bytes : Bytes) : Prop :=
  ∃ (header : CacheHeader) (frames : List Frame) (data : List DataRow),
    bytes = header.encode ++ frames.flatMap Frame.encode ∧
      data.map DataRow.frame <+ frames ∧ data.map DataRow.values = rows

/-- The rows have their frames in the bytes.  If there are none, it is not said that the
file was begun. -/
def RowsIn (rows : List Row) (bytes : Bytes) : Prop :=
  rows ≠ [] → Framed rows bytes

section

variable {rows rows' : List Row} {state : CacheWriter × Disk} {image : Bytes}

theorem framed_header (header : CacheHeader) : Framed [] header.encode :=
  ⟨header, [], [], (List.append_nil _).symm, .refl _, rfl⟩

/-- A frame that is written behind the others does not hide them. -/
theorem Framed.frame (framed : Framed rows image) (frame : Frame) :
    Framed rows (image ++ frame.encode) := by
  obtain ⟨header, frames, data, rfl, among, values⟩ := framed
  refine ⟨header, frames ++ [frame], data, ?_, among.trans (List.sublist_append_left ..), values⟩
  rw [List.flatMap_append, List.flatMap_singleton, List.append_assoc]

/-- One more row is written. -/
theorem Framed.row (framed : Framed rows image) (row : DataRow) :
    Framed (rows ++ [row.values]) (image ++ row.frame.encode) := by
  obtain ⟨header, frames, data, rfl, among, rfl⟩ := framed
  refine ⟨header, frames ++ [row.frame], data ++ [row], ?_, ?_, List.map_append⟩
  · rw [List.flatMap_append, List.flatMap_singleton, List.append_assoc]
  · rw [List.map_append]
    exact among.append_right _

/-- Some of the rows are in the file as well. -/
theorem Framed.sublist (framed : Framed rows image) (fewer : rows' <+ rows) :
    Framed rows' image := by
  obtain ⟨header, frames, data, bytes, among, rfl⟩ := framed
  obtain ⟨data', fewer', rfl⟩ := List.sublist_map_iff.mp fewer
  exact ⟨header, frames, data', bytes, (fewer'.map _).trans among, rfl⟩

/-- The writer was handed some rows, and has lost none. -/
inductive Keeping (rows : List Row) (state : CacheWriter × Disk) : Prop
  /-- It has yet to begin. -/
  | fresh : state.1.IsFresh state.2 → rows = [] → Keeping rows state
  /-- It has begun. -/
  | begun {id : FileId} {since : Disk} {image : Bytes} {described finished : Bool} :
      Holds id since image described finished state → Framed rows image → Keeping rows state

namespace Keeping

theorem sublist (keeping : Keeping rows state) (fewer : rows' <+ rows) : Keeping rows' state := by
  cases keeping with
  | fresh fresh nothing =>
    rw [nothing] at fewer
    exact .fresh fresh (List.sublist_nil.mp fewer)
  | begun holds framed => exact .begun holds (framed.sublist fewer)

/-- A writer that has yet to begin is handed an event. -/
theorem apply_of_fresh {writer : CacheWriter} {disk : Disk} (fresh : writer.IsFresh disk)
    (event : RowEvent) : Keeping event.rows (writer.apply event disk) := by
  have headed := fresh.holds_start
  have header := framed_header ⟨writer.expiresAt⟩
  cases event with
  | describe d => exact .begun (fresh.holds_describe d) (header.frame d.frame)
  | outputBinds binds => exact .fresh fresh rfl
  | row data =>
    -- the header goes in front of the frame
    have framed := headed.writeFrame data.frame
    rw [← fresh.writeFrame_eq] at framed
    exact .begun framed (header.row data)
  | batchEnd batch =>
    show Keeping [] (writer.batchEnd batch.endOfResultSet disk)
    rcases batch.endOfResultSet with - | -
    · -- more rows are to come, and nothing is written
      rw [fresh.batchEnd_false]
      exact .fresh fresh rfl
    · -- the header, and the end frame
      rw [fresh.batchEnd_true]
      exact .begun (headed.batchEnd ⟨true, 0⟩) (header.frame endFrame)

/-- The writer is handed an event. -/
theorem apply (keeping : Keeping rows state) (event : RowEvent) :
    Keeping (rows ++ event.rows) (state.1.apply event state.2) := by
  cases keeping with
  | fresh fresh nothing =>
    rw [nothing]
    exact apply_of_fresh fresh event
  | @begun id since image described finished holds framed =>
    cases event with
    | row data => exact .begun (holds.row data) (framed.row data)
    | describe d =>
      show Keeping (rows ++ []) _
      rw [List.append_nil]
      rcases described with - | -
      · exact .begun (holds.firstDescribe d) (framed.frame d.frame)
      · exact .begun (holds.describe d) framed
    | outputBinds binds =>
      show Keeping (rows ++ []) _
      rw [List.append_nil]
      exact .begun holds framed
    | batchEnd batch =>
      show Keeping (rows ++ []) _
      rw [List.append_nil]
      have ended := holds.batchEnd batch
      split at ended
      · -- the first end frame
        exact .begun ended (framed.frame endFrame)
      · -- no end frame, or no second one
        rw [List.append_nil] at ended
        exact .begun ended framed

/-- The rows are in the file, or in the buffer before it. -/
theorem rowsIn (keeping : Keeping rows state) : RowsIn rows (state.1.file.image state.2) := by
  intro some_
  cases keeping with
  | fresh fresh nothing => exact absurd nothing some_
  | begun holds framed =>
    rw [holds.image_eq]
    exact framed

/-- **Closing the file puts all of it there.** -/
theorem bytesOf_detach (keeping : Keeping rows state) :
    (state.1.detach state.2).bytesOf state.1.file.id = state.1.file.image state.2 := by
  cases keeping with
  | fresh fresh =>
    rw [detach_of_nil fresh.pending, OutputFile.image, fresh.pending, List.append_nil]
  | begun holds =>
    rw [holds.id_eq, holds.detach.1, holds.image_eq]

end Keeping

end

/-- Closing a file changes no other. -/
theorem onlyChanges_detach (writer : CacheWriter) (disk : Disk) :
    Disk.OnlyChanges writer.file.id disk (writer.detach disk) :=
  (OutputFile.keeps_flush writer.file disk).only

/-- Nor does finishing one. -/
theorem onlyChanges_finish (writer : CacheWriter) (disk : Disk) :
    Disk.OnlyChanges writer.file.id disk (writer.finish disk) := by
  rcases finished : writer.finished with - | -
  · rw [finish, finished, if_neg Bool.false_ne_true]
    exact ((writer.keeps_batchEnd true disk).trans (OutputFile.keeps_flush _ _)).only
  · rw [finish, if_pos finished]
    exact writer.onlyChanges_detach disk

/-- Nor does handing on what is taken. -/
theorem keeps_foldl (events : List RowEvent) (state : CacheWriter × Disk) :
    state.1.Keeps state.2 (events.foldl (fun state event => state.1.apply event state.2) state) := by
  induction events generalizing state with
  | nil => exact ⟨rfl, .refl _ _⟩
  | cons event events ih =>
    have first := state.1.keeps_apply event state.2
    exact OutputFile.Keeps.trans first (ih (state.1.apply event state.2))

/-- A disk stays sound when a file is given up. -/
theorem isSound_abandon {disk : Disk} (sound : disk.IsSound) (writer : CacheWriter) :
    (writer.abandon disk).state.IsSound := by
  rw [abandon]
  split
  · rcases removed : disk.removeFile writer.path with e | disk'
    · exact sound
    · exact sound.removeFile removed
  · exact sound.onlyChanges (writer.onlyChanges_detach disk)

/-- A writer that is created is fresh. -/
theorem keeping_create {path : String} {ttl : Nat} {clock : Int64} {disk disk' : Disk}
    {writer : CacheWriter} (sound : disk.IsSound)
    (h : create path ttl clock disk = .ok writer disk') :
    disk'.IsSound ∧ Keeping [] (writer, disk') :=
  ⟨sound.createFile (create_ok h).1, .fresh (create_spec sound h).1 rfl⟩

/-- A writer that continues a file has begun: the header and whole frames are kept of it. -/
theorem keeping_append {path : String} {disk disk' : Disk} {writer : CacheWriter}
    (sound : disk.IsSound) (h : append path disk = .ok writer disk') :
    disk'.IsSound ∧ Keeping [] (writer, disk') := by
  obtain ⟨id, header, extent, found, parsed, scanned, -, -⟩ := append_ok h
  obtain ⟨behind, bytes⟩ := CacheHeader.encode_of_parse? parsed
  obtain ⟨frames, rest, whole, length⟩ : ∃ (frames : List Frame) (rest : Bytes),
      behind = frames.flatMap Frame.encode ++ rest ∧
        extent.length = CacheHeader.size + (frames.flatMap Frame.encode).length := by
    rw [bytes, List.drop_left' header.length_encode] at scanned
    exact exists_frames_of_scan scanned
  rw [whole, ← List.append_assoc] at bytes
  -- what is cut off is the rest behind these frames
  have front : extent =
      ⟨extent.described, (header.encode ++ frames.flatMap Frame.encode).length⟩ := by
    rw [List.length_append, header.length_encode, ← length]
  rw [front] at scanned
  obtain ⟨writer', disk'', again, holds⟩ := append_of_scan found bytes parsed scanned
  obtain ⟨rfl, rfl⟩ := EStateM.Result.ok.inj (again.symm.trans h)
  exact ⟨sound.onlyChanges holds.only,
    .begun holds ⟨header, frames, [], rfl, List.nil_sublist frames, rfl⟩⟩

end CacheWriter

namespace Cursor

variable {ν : Type} {cursor : Cursor ν} {seen : List Row}

/-! ### Parts that take an answer -/

/-- The names on the disk lead to files, and the recorder keeps some rows and those of the
page. -/
structure Reception.Files (seen : List Row) (parts : Reception) : Prop where
  /-- Names lead to files. -/
  sound : parts.2.2.IsSound
  /-- The recorder keeps the rows that were seen before. -/
  seen : ∀ writer, parts.2.1 = some writer → CacheWriter.Keeping seen (writer, parts.2.2)
  /-- It keeps those of the page. -/
  page : ∀ writer, parts.2.1 = some writer →
    CacheWriter.Keeping parts.1.rows (writer, parts.2.2)

namespace Reception.Files

variable {parts : Reception}

/-- Without a recorder there is nothing to keep. -/
theorem of_unrecorded {rs : ResultSet} {disk : Disk} (sound : disk.IsSound) :
    Reception.Files seen (rs, none, disk) :=
  ⟨sound, fun _ none_ => by contradiction, fun _ none_ => by contradiction⟩

/-- The rows of the page are kept when the page is gone. -/
theorem remember (files : parts.Files seen) : parts.Files parts.1.rows :=
  ⟨files.sound, files.page, files.page⟩

theorem take (files : parts.Files seen) (event : RowEvent) : (parts.take event).Files seen := by
  obtain ⟨rs, - | writer, disk⟩ := parts
  · exact of_unrecorded files.sound
  · refine ⟨files.sound.onlyChanges (writer.keeps_apply event disk).only, ?_, ?_⟩
    · rintro _ ⟨⟩
      exact ((files.seen writer rfl).apply event).sublist (List.sublist_append_left ..)
    · rintro _ ⟨⟩
      exact ((files.page writer rfl).apply event).sublist (rs.rows_apply_sublist event)

theorem foldl (files : parts.Files seen) (events : List RowEvent) :
    (events.foldl Reception.take parts).Files seen := by
  induction events generalizing parts with
  | nil => exact files
  | cons event events ih => exact ih (files.take event)

end Reception.Files

/-! ### Closing -/

theorem isSound_detachRecorder (sound : cursor.disk.IsSound) :
    cursor.detachRecorder.disk.IsSound := by
  rw [detachRecorder]
  split
  · exact sound
  · exact sound.onlyChanges (CacheWriter.onlyChanges_detach _ cursor.disk)

theorem files_checkEpoch (files : cursor.parts.Files seen) :
    cursor.checkEpoch.parts.Files seen := by
  rw [checkEpoch]
  split
  · rw [detachRecorder_with cursor cursor.result.suspend cursor.source cursor.error]
    exact .of_unrecorded (isSound_detachRecorder files.sound)
  · exact files

theorem isSound_abandonRecorder (sound : cursor.disk.IsSound) :
    cursor.abandonRecorder.disk.IsSound := by
  rw [abandonRecorder]
  split
  · exact sound
  · next writer _ => exact CacheWriter.isSound_abandon sound writer

variable [Network ν]

/-- What a writer takes that is completed are events, whoever has them. -/
theorem exists_events_drain (writer : CacheWriter) (cursor : Cursor ν) :
    ∃ events : List RowEvent,
      ((cursor.drain writer).state.1, (cursor.drain writer).state.2.disk) =
        events.foldl (fun state event => state.1.apply event state.2) (writer, cursor.disk) := by
  rw [drain]
  split
  · -- the end frame is written already
    exact ⟨[], rfl⟩
  · split
    · -- the rows that are left come from a file
      next reader _ =>
      rcases CacheReader.fetch_cases CacheWriter.takes_handler Prod.snd 0 0 reader
        (writer, cursor.disk) with ⟨rows, batch, after, fetched⟩ | ⟨rows, e, after, fetched⟩
      · rw [fetched]
        exact ⟨rows.map .row ++ [.batchEnd batch], rfl⟩
      · rw [fetched]
        exact ⟨rows.map .row, rfl⟩
    · split
      · -- nothing is open at the server
        exact ⟨[], rfl⟩
      · -- the server sends them
        next id _ =>
        have along := congrArg Outcome.state (Session.run_eq_ask CacheWriter.takes_handler
          (.fetch id 0 0) cursor.session (writer, cursor.disk))
        rw [Outcome.state_mapState, Outcome.state_mapState] at along
        rw [Outcome.state_mapState]
        exact ⟨_, congrArg Prod.snd along⟩

/-- **What closing does to the disk**: nothing, or the recorder takes some more events, and
is closed with an end frame or without one. -/
theorem disk_close_cases (cursor : Cursor ν) :
    cursor.close.state.disk = cursor.disk ∨
      ∃ (writer : CacheWriter) (events : List RowEvent), cursor.recorder = some writer ∧
        ∃ state, events.foldl (fun state event => state.1.apply event state.2)
            (writer, cursor.disk) = state ∧
          (cursor.close.state.disk = state.1.detach state.2 ∨
            cursor.close.state.disk = state.1.finish state.2) := by
  rcases there : cursor.recorder with - | writer
  · exact .inl (disk_close_of_unrecorded there)
  · right
    have closed : cursor.close.state.disk = cursor.checkEpoch.settle.state.disk :=
      congrArg Prod.snd (release_eq cursor)
    rw [closed]
    by_cases far : cursor.source.isNone ∧ cursor.result.id.isSome ∧ !cursor.result.suspended ∧
        cursor.session.connection.epoch ≠ cursor.epoch
    · -- the recorder is closed with its page
      refine ⟨writer, [], rfl, _, rfl, .inl ?_⟩
      rw [checkEpoch, if_pos far, disk_settle_of_unrecorded (by rw [detachRecorder_eq]),
        detachRecorder, there]
      rfl
    · obtain ⟨events, taken⟩ :=
        exists_events_drain writer ({ cursor with recorder := none } : Cursor ν)
      refine ⟨writer, events, rfl, _, taken.symm, ?_⟩
      rw [checkEpoch, if_neg far, settle, there]
      simp only
      rcases ({ cursor with recorder := none } : Cursor ν).drain writer with
        ⟨⟨⟩, writer', after⟩ | ⟨e, writer', after⟩
      · exact .inr rfl
      · exact .inl rfl

/-- It changes no names, and one file at most. -/
theorem onlyChanges_close (cursor : Cursor ν) :
    ∃ id, Disk.OnlyChanges id cursor.disk cursor.close.state.disk := by
  rcases disk_close_cases cursor with same | ⟨writer, events, -, state, taken, closed⟩
  · rw [same]
    exact ⟨0, .refl 0 cursor.disk⟩
  · have handed := CacheWriter.keeps_foldl events (writer, cursor.disk)
    rw [taken] at handed
    refine ⟨writer.file.id, handed.only.trans ?_⟩
    rw [← show state.1.file.id = writer.file.id from handed.id_eq]
    rcases closed with detached | finished
    · rw [detached]
      exact CacheWriter.onlyChanges_detach _ _
    · rw [finished]
      exact CacheWriter.onlyChanges_finish _ _

theorem isSound_close (sound : cursor.disk.IsSound) : cursor.close.state.disk.IsSound := by
  obtain ⟨id, only⟩ := onlyChanges_close cursor
  exact sound.onlyChanges only

theorem files_close (files : cursor.parts.Files seen) : cursor.close.state.parts.Files [] := by
  have sound := isSound_close files.sound
  obtain ⟨session, disk, closed⟩ := state_close cursor
  rw [closed] at sound ⊢
  exact .of_unrecorded sound

/-! ### Recorders that are started -/

omit [Network ν] in
/-- A recorder is started while no row is shown. -/
theorem files_of_started {writer : CacheWriter} {disk : Disk} (blank : cursor.result.rows = [])
    (started : disk.IsSound ∧ CacheWriter.Keeping [] (writer, disk)) :
    ({ cursor with recorder := some writer, disk } : Cursor ν).parts.Files [] := by
  refine ⟨started.1, ?_, ?_⟩
  · rintro _ ⟨⟩
    exact started.2
  · rintro _ ⟨⟩
    show CacheWriter.Keeping cursor.result.rows (writer, disk)
    rw [blank]
    exact started.2

omit [Network ν] in
theorem files_createTarget {armed : Cursor ν} (files : cursor.parts.Files [])
    (blank : cursor.result.rows = []) (created : cursor.createTarget = .ok () armed) :
    armed.parts.Files [] := by
  rcases createTarget_cases created with ⟨none_, rfl⟩ | ⟨path, writer, disk, target, made, rfl⟩
  · exact files
  · exact files_of_started blank (CacheWriter.keeping_create files.sound made)

omit [Network ν] in
theorem files_arms {path : Option String} {armed : Cursor ν} (files : cursor.parts.Files [])
    (blank : cursor.result.rows = []) (arms : Arms path cursor armed) : armed.parts.Files [] := by
  rcases path with - | path
  · obtain rfl : armed = cursor := arms
    exact files
  · obtain ⟨writer, disk, rfl, continued | ⟨-, made⟩⟩ := continueRecorder_ok arms
    · exact files_of_started blank (CacheWriter.keeping_append files.sound continued)
    · exact files_of_started blank (CacheWriter.keeping_create files.sound made)

/-! ### Statements, attachments, files and pages -/

theorem files_of_query {request : QueryRequest} {outcome : Outcome Unit (Cursor ν)}
    (files : cursor.parts.Files seen) (asked : cursor.query request = outcome) :
    outcome.state.parts.Files seen := by
  obtain ⟨session, events, -, taken⟩ := exists_taking_of_query asked
  rw [taken]
  exact files.foldl events

theorem files_runStatement (files : cursor.parts.Files []) (binds : BindSet) :
    (cursor.runStatement binds).state.parts.Files [] := by
  have closed := files_close files
  have blank := (isIdle_close cursor).rows_eq
  have course := runs_runStatement binds cursor
  generalize cursor.runStatement binds = outcome at course ⊢
  generalize cursor.statementStory binds = story at course
  cases course with
  | unasked e => exact closed
  | @failed recorder disk sql options e after created asked =>
    -- the recorder is given up, and need not keep anything
    have taken := files_of_query (files_createTarget closed blank created) asked
    have sound := isSound_abandonRecorder taken.sound
    have given_up := recorder_abandonRecorder after
    show Reception.Files [] (_, after.abandonRecorder.recorder, _)
    rw [given_up]
    exact .of_unrecorded sound
  | answered recorder disk sql options created asked =>
    have taken := files_of_query (files_createTarget closed blank created) asked
    exact taken

theorem files_closeOther (files : cursor.parts.Files []) (id : ResultSetId) :
    (cursor.closeOther id).state.parts.Files [] := by
  have checked := files_checkEpoch files
  unfold closeOther
  simp only
  split
  · exact checked
  · exact files_close checked

theorem files_emptied (files : cursor.parts.Files []) (id : ResultSetId) :
    (cursor.emptied id).parts.Files [] := by
  have sound : (cursor.closeOther id).state.forget.detachRecorder.disk.IsSound :=
    isSound_detachRecorder (files_closeOther files id).sound
  rw [emptied, detachRecorder_eq]
  exact .of_unrecorded sound

theorem files_attach (files : cursor.parts.Files []) (id : ResultSetId) (path : Option String) :
    (cursor.attach id path).state.parts.Files [] := by
  have emptied := files_emptied files id
  have blank : (cursor.emptied id).result.rows = [] := by
    rw [Cursor.emptied, detachRecorder_eq]
    rfl
  have course := attaches_attach id path cursor
  generalize cursor.attach id path = outcome at course ⊢
  cases course with
  | unasked e => exact emptied
  | failed recorder disk options arms asked | answered recorder disk options arms asked =>
    have taken := files_of_query (files_arms emptied blank arms) asked
    exact taken

theorem files_openFile (files : cursor.parts.Files []) (path : String) :
    (cursor.openFile path).state.parts.Files [] := by
  have closed := files_close files
  have blank := (isIdle_close cursor).rows_eq
  have course := unpacks_openFile path cursor
  generalize cursor.openFile path = outcome at course ⊢
  cases course with
  | refused e => exact files
  | unread e => exact closed
  | torn recorder disk describe rows e created
  | read recorder disk describe rows batch reader created =>
    exact (files_createTarget closed blank created).foldl _

theorem files_fetchPage (files : cursor.parts.Files seen) (skip : Nat) :
    (cursor.fetchPage skip).state.parts.Files seen := by
  have begun : cursor.begun.parts.Files seen := by
    refine ⟨files.sound, files.seen, fun writer there => ?_⟩
    exact (files.page writer there).sublist (List.nil_sublist _)
  rcases fetchPage_cases skip cursor with same | ⟨session, events, source, -, taken⟩
  · rw [same]
    exact files
  · rw [taken]
    exact begun.foldl events

theorem files_ensureRow (files : cursor.parts.Files seen) (row : Nat) :
    (cursor.ensureRow row).parts.Files seen :=
  fetchTo_keeps (P := fun page => page.parts.Files seen)
    (fun page kept _ => files_fetchPage kept (page.skipFor row)) (fun _ _ kept => kept)
    cursor.checkEpoch (files_checkEpoch files)

/-! ### Deeds -/

omit [Network ν] in
theorem files_noting {action : Cursor ν → Outcome Unit (Cursor ν)}
    (files : (action { cursor with error := none }).state.parts.Files seen) :
    (cursor.noting action).state.parts.Files seen := by
  obtain ⟨error, noted, -⟩ := noting_cases action cursor
  rw [noted]
  exact files

/-- Others write on the disk. -/
def Deed.ofOthers : Deed ν → Bool
  | acts (.finds _) => true
  | acts _ | calls _ | opensCached _ | renews => false

/-- What leaves the result set alone keeps what was kept. -/
theorem Deed.files_of_leaves (files : cursor.parts.Files seen) {deed : Deed ν}
    (leaves : deed.leavesResult = true) : (deed.after cursor).parts.Files seen := by
  rcases Deed.leavesResult_cases leaves with
    ofSession | ⟨_, row, look, rfl⟩ | rfl | ⟨settings, rfl⟩
  · obtain ⟨session, moved⟩ := Deed.after_of_ofSession ofSession cursor
    rw [moved]
    exact files
  · exact files_ensureRow files row
  · show cursor.suspendResultSet.parts.Files seen
    rw [suspendResultSet_eq]
    exact .of_unrecorded (isSound_detachRecorder files.sound)
  · exact files

theorem Deed.files (files : cursor.parts.Files []) {deed : Deed ν} (own : deed.ofOthers = false) :
    (deed.after cursor).parts.Files [] := by
  have unnoted : ({ cursor with error := none } : Cursor ν).parts.Files [] := files
  by_cases leaves : deed.leavesResult = true
  · exact Deed.files_of_leaves files leaves
  · -- a result set that is begun finds an empty page, and a recorder of its own
    cases deed with
    | acts act =>
      cases act with
      | sends sql =>
        have prepared : ({ cursor.prepare sql with error := none } : Cursor ν).parts.Files [] :=
          files
        exact files_noting (files_runStatement prepared {})
      | executes => exact files_noting (files_runStatement unnoted cursor.binds)
      | closes => exact files_close files
      | resumes id => exact files_noting (files_attach unnoted id none)
      | resumesCached id path => exact files_noting (files_attach unnoted id (some path))
      | reads | suspends | sets | parks | reclaims => exact absurd rfl leaves
      | finds disk => contradiction
    | calls call => exact absurd rfl leaves
    | opensCached path => exact files_noting (files_openFile unnoted path)
    | renews => exact .of_unrecorded (isSound_close files.sound)

/-- **Every recorder keeps the rows of the page**, whatever was done with its cursor. -/
theorem files_afterDeeds (files : cursor.parts.Files []) {deeds : List (Deed ν)}
    (own : ∀ deed ∈ deeds, deed.ofOthers = false) : (cursor.afterDeeds deeds).parts.Files [] :=
  afterDeeds_keeps (P := fun cursor => cursor.parts.Files [])
    (fun _ _ own files => Deed.files files own) own files

/-- It keeps what it kept as long as the result set is left alone. -/
theorem files_afterDeeds_of_leave (files : cursor.parts.Files seen) {deeds : List (Deed ν)}
    (leave : ∀ deed ∈ deeds, deed.leavesResult = true) :
    (cursor.afterDeeds deeds).parts.Files seen :=
  afterDeeds_keeps (P := fun cursor => cursor.parts.Files seen)
    (fun _ _ leaves files => Deed.files_of_leaves files leaves) leave files

/-- **The rows of all pages are in the file**, or in the buffer before it. -/
theorem rowsIn_image (files : cursor.parts.Files []) {front back : List (Deed ν)}
    (own : ∀ deed ∈ front, deed.ofOthers = false)
    (leave : ∀ deed ∈ back, deed.leavesResult = true) {writer : CacheWriter}
    (recorder : (cursor.afterDeeds (front ++ back)).recorder = some writer) :
    CacheWriter.RowsIn (cursor.afterDeeds front).result.rows
      (writer.file.image (cursor.afterDeeds (front ++ back)).disk) := by
  rw [afterDeeds_append] at recorder ⊢
  have shown := (files_afterDeeds files own).remember
  exact ((files_afterDeeds_of_leave shown leave).seen writer recorder).rowsIn

end Cursor

end ProxyClient
