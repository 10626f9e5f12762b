/-
ProxyClient/Proofs/Cache/Copying.lean

Cache files that are copied.  A cursor reads one file while it records into
another (`Cursor.SetsOutToCopy`).  What the recorder has written and what the
reader has yet to read are all the rows of the file, in their order
(`Copying.Copied`):

    the first page, a page  →  rows go from the one to the other
    a row is read           →  nothing is skipped, since there is a recorder
    closing                 →  the writer alone takes the rows that are left

So the copy has the payloads of the file, byte for byte, whatever was read and
however many rows at once, and so has a copy of the copy
(`Cursor.copies_whole_files`).  The copy and the file are two files only if the
paths lead to two; that the paths are written in two ways is not enough
(`TableServer.copies_onto_itself`).
-/
import ProxyClient.Proofs.Cache.Collecting
import ProxyClient.Proofs.Cache.Likeness

namespace ProxyClient

/-! ### Files with payloads -/

/-- The frames of a recorded result set: a description and rows with these payloads. -/
def payloadFrames (description : Bytes) (payloads : List Bytes) : Bytes :=
  Frame.encode ⟨ServerMessage.Kind.describe.toByte, description⟩ ++
    payloads.flatMap fun payload => (Frame.ofRow payload).encode

/-- A cache file that can be read to its end: the header, a description and rows that
are accepted, and then the end of a batch with anything behind it, or nothing. -/
structure IsCacheFile (header : CacheHeader) (description : Bytes) (payloads : List Bytes)
    (bytes : Bytes) : Prop where
  /-- The description can be read. -/
  described : ∃ describe, decoded Describe.decoder description = .ok describe
  /-- It fits into a frame. -/
  description_fits : Frame.Fits ⟨ServerMessage.Kind.describe.toByte, description⟩
  /-- The rows are accepted, whatever their values. -/
  accepted : ∀ payload ∈ payloads, ∃ row, decoded DataRow.decoder payload = .ok row
  /-- They fit into frames. -/
  fit : ∀ payload ∈ payloads, (Frame.ofRow payload).Fits
  /-- What the file holds. -/
  bytes_eq : ∃ tail, ClosesRows tail ∧
    bytes = header.encode ++ payloadFrames description payloads ++ tail

namespace IsCacheFile

variable {header : CacheHeader} {description : Bytes} {payloads : List Bytes} {bytes : Bytes}

/-- Rows that are accepted are kept with their payloads. -/
theorem exists_rows
    (accepted : ∀ payload ∈ payloads, ∃ row, decoded DataRow.decoder payload = .ok row) :
    ∃ rows : List DataRow, payloads = rows.map DataRow.payload := by
  induction payloads with
  | nil => exact ⟨[], rfl⟩
  | cons payload payloads ih =>
    obtain ⟨row, read⟩ := accepted payload List.mem_cons_self
    obtain ⟨rows, rfl⟩ := ih fun payload mem => accepted payload (List.mem_cons_of_mem _ mem)
    exact ⟨row :: rows, by rw [List.map_cons, DataRow.payload_of_decoded read]⟩

/-- The file is a recorded result set, and so is every file with its frames. -/
theorem hasRows (file : IsCacheFile header description payloads bytes) :
    ∃ (describe : Describe) (rows : List DataRow),
      (∀ other : CacheHeader, CacheWriter.recorded other describe rows =
        other.encode ++ payloadFrames description payloads) ∧
      ∀ (disk : Disk) (path : String), disk.bytesAt? path = some bytes →
        disk.HasRows path header describe rows := by
  obtain ⟨describe, read⟩ := file.described
  obtain ⟨rows, rfl⟩ := exists_rows file.accepted
  obtain rfl := Describe.payload_of_decoded read
  obtain ⟨tail, closed, rfl⟩ := file.bytes_eq
  -- the file is spelt with the frames that the copy has
  have same (other : CacheHeader) : CacheWriter.recorded other describe rows =
      other.encode ++ payloadFrames describe.payload (rows.map DataRow.payload) := by
    rw [CacheWriter.recorded, payloadFrames, List.flatMap_map, List.append_assoc]
    rfl
  refine ⟨describe, rows, same, ?_⟩
  intro disk path there
  refine ⟨?_, ?_, tail, closed, ?_⟩
  · exact RowEvent.legible_describe read file.description_fits
  · exact fun row mem => file.fit row.payload (List.mem_map_of_mem mem)
  · rw [there, same]

/-- So is a copy. -/
theorem copy (file : IsCacheFile header description payloads bytes) (other : CacheHeader) :
    IsCacheFile other description payloads
      (other.encode ++ payloadFrames description payloads ++ CacheWriter.endFrame.encode) :=
  ⟨file.described, file.description_fits, file.accepted, file.fit, _, closesRows_endFrame, rfl⟩

end IsCacheFile

/-! ### What a copy holds -/

/-- The file at one path is read, and that at another written. -/
structure Copying (source target : String) (bytes : Bytes) where
  /-- The disk when the other file was created. -/
  found : Disk
  /-- The file that is read. -/
  sourceId : FileId
  /-- The file that is written. -/
  targetId : FileId
  /-- The one is at its path. -/
  source_eq : found.openFile source = .ok sourceId
  /-- These are its bytes. -/
  bytes_eq : found.bytesOf sourceId = bytes
  /-- The other is at its path. -/
  target_eq : found.openFile target = .ok targetId
  /-- They are two files. -/
  apart : targetId ≠ sourceId

namespace Copying

open CacheWriter

variable {source target : String} {bytes : Bytes} {c : Copying source target bytes}
  {header : CacheHeader} {describe : Describe} {rows left : List DataRow}
  {state : CacheWriter × Disk}

/-- The writer has copied all rows but those that are left, and if it has marked the
end, none are. -/
inductive Copied (c : Copying source target bytes) (header : CacheHeader) (describe : Describe)
    (rows : List DataRow) : List DataRow → CacheWriter × Disk → Prop
  /-- Rows may be left. -/
  | part {front left : List DataRow} {state : CacheWriter × Disk} :
      rows = front ++ left →
      Holds c.targetId c.found (recorded header describe front) true false state →
      Copied c header describe rows left state
  /-- The end is marked. -/
  | whole {state : CacheWriter × Disk} :
      Holds c.targetId c.found (recorded header describe rows ++ endFrame.encode) true true state →
      Copied c header describe rows [] state

namespace Copied

/-- The writer works on the copy alone. -/
theorem of_target (copied : c.Copied header describe rows left state) :
    state.1.file.id = c.targetId ∧ Disk.OnlyChanges c.targetId c.found state.2 := by
  cases copied with
  | part _ holds => exact ⟨holds.id_eq, holds.only⟩
  | whole holds => exact ⟨holds.id_eq, holds.only⟩

/-- The file that is read is as it was. -/
theorem bytesOf_source (copied : c.Copied header describe rows left state) :
    state.2.bytesOf c.sourceId = bytes :=
  (copied.of_target.2.bytesOf_eq c.sourceId c.apart.symm).trans c.bytes_eq

/-- A new writer takes the description. -/
theorem of_isFresh {writer : CacheWriter} (fresh : writer.IsFresh c.found)
    (target : writer.file.id = c.targetId) (header_eq : ⟨writer.expiresAt⟩ = header)
    (describe : Describe) (rows : List DataRow) :
    c.Copied header describe rows rows (writer.apply (.describe describe) c.found) := by
  have described := fresh.holds_describe describe
  rw [target, header_eq] at described
  have none_ : recorded header describe [] = header.encode ++ describe.frame.encode := by
    rw [recorded, encodeRows_nil, List.append_nil]
  exact .part (List.nil_append rows).symm (none_ ▸ described)

/-- **A page goes from the rows that are left to the copy.** -/
theorem page (copied : c.Copied header describe rows left state) (limit : Nat) :
    c.Copied header describe rows (left.drop ((Batch.page left.length 0 limit).next 0))
      (((Batch.page left.length 0 limit).events left 0).foldl
        (fun state event => state.1.apply event state.2) state) := by
  cases copied with
  | @part front _ _ rows_eq holds =>
    have taken := holds.batch (Batch.page left.length 0 limit) left 0
    have unskipped : (Batch.page left.length 0 limit).skipped = 0 := Nat.zero_min _
    have next : (Batch.page left.length 0 limit).next 0 = (Batch.page left.length 0 limit).count := by
      rw [Batch.next, unskipped, Nat.zero_add]
    rw [unskipped, Nat.zero_add, List.drop_zero] at taken
    rw [next]
    rcases ended : (Batch.page left.length 0 limit).ended with - | - <;> rw [ended] at taken
    · rw [if_neg Bool.false_ne_true, List.append_nil] at taken
      refine .part ?_ taken
      rw [List.append_assoc, List.take_append_drop]
      exact rows_eq
    · -- the last rows were sent
      have all : left.length ≤ (Batch.page left.length 0 limit).count := by
        simp only [Batch.page, decide_eq_true_eq] at ended ⊢
        split <;> omega
      rw [List.drop_eq_nil_of_le all]
      rw [List.take_of_length_le all, ← rows_eq] at taken
      exact .whole taken
  | whole holds =>
    have taken := holds.batchEnd (Batch.page 0 0 limit).ending
    rw [if_neg fun twice => Bool.noConfusion twice.2, List.append_nil] at taken
    rw [List.drop_nil]
    refine .whole ?_
    simpa [Batch.events] using taken

/-- Closing the writer marks the end of the copy. -/
theorem finish (copied : c.Copied header describe rows [] state) :
    (state.1.finish state.2).bytesAt? target =
        some (recorded header describe rows ++ endFrame.encode) ∧
      (state.1.finish state.2).bytesAt? source = some bytes := by
  -- the end frame is written when the cursor is closed, unless it was before
  have finished : (state.1.finish state.2).bytesOf c.targetId =
        recorded header describe rows ++ endFrame.encode ∧
      Disk.OnlyChanges c.targetId c.found (state.1.finish state.2) := by
    cases copied with
    | part rows_eq holds =>
      rw [List.append_nil] at rows_eq
      rw [rows_eq]
      exact holds.finish
    | whole holds =>
      obtain ⟨bytes, only⟩ := holds.finish
      exact ⟨bytes.trans (List.append_nil _), only⟩
  obtain ⟨copy, only⟩ := finished
  -- nothing else was written
  have source_eq := (Disk.openFile_congr only.entries_eq source).trans c.source_eq
  rw [only.bytesAt?_eq c.target_eq, copy, Disk.bytesAt?_eq source_eq,
    only.bytesOf_eq c.sourceId c.apart.symm, c.bytes_eq]
  exact ⟨rfl, rfl⟩

end Copied

/-! ### Cursors that copy -/

variable {ν : Type}

/-- The reader of a cursor stands before the rows that its recorder has yet to copy. -/
structure IsCopiedBy (c : Copying source target bytes) (header : CacheHeader)
    (describe : Describe) (rows : List DataRow) (cursor : Cursor ν) : Prop where
  /-- The result set is open. -/
  id_eq : cursor.result.id = some describe.head.id
  /-- It is read, and copied. -/
  between : ∃ (left : List DataRow) (writer : CacheWriter) (reader : CacheReader),
    cursor.recorder = some writer ∧ cursor.source = some reader ∧ reader.file.id = c.sourceId ∧
      reader.StandsBefore bytes left ∧ c.Copied header describe rows left (writer, cursor.disk)

namespace IsCopiedBy

variable {cursor : Cursor ν}

/-- Page and recorder took what the reader has handed over. -/
theorem rereading {after : CacheReader} {left : List DataRow} {writer : CacheWriter}
    {events : List RowEvent} (recorder : cursor.recorder = some writer)
    (source : after.file.id = c.sourceId) (before : after.StandsBefore bytes left)
    (id_eq : (cursor.rereading after events).result.id = some describe.head.id)
    (copied : c.Copied header describe rows left
      (events.foldl (fun state event => state.1.apply event state.2) (writer, cursor.disk))) :
    c.IsCopiedBy header describe rows (cursor.rereading after events) := by
  have taken := cursor.rereading_recorder after events
  rw [recorder, foldl_record_some] at taken
  obtain ⟨recorder', disk_eq⟩ := Prod.mk.inj taken
  refine ⟨id_eq, left, _, after, recorder', rfl, source, before, ?_⟩
  rw [disk_eq]
  exact copied

variable [Network ν]

/-- The next page is copied. -/
theorem fetchPage (copies : c.IsCopiedBy header describe rows cursor) (row : Nat) :
    ∃ count after, cursor.fetchPage (cursor.skipFor row) = .ok count after ∧
      c.IsCopiedBy header describe rows after := by
  obtain ⟨known, left, writer, reader, recorder, source, source_eq, before, copied⟩ := copies
  -- nothing is skipped while there is a recorder
  have unskipped : cursor.skipFor row = 0 := by
    rw [Cursor.skipFor, recorder]
    rfl
  have spares : cursor.parts.Spares reader.file.id bytes := by
    rw [source_eq]
    refine ⟨?_, copied.bytesOf_source⟩
    intro writer' there
    obtain rfl := Option.some.inj (recorder.symm.trans there)
    rw [copied.of_target.1]
    exact c.apart
  obtain ⟨after, id_eq, before', known', fetched⟩ :=
    Cursor.fetchPage_of_standsBefore source known before spares 0
  rw [unskipped]
  exact ⟨_, _, fetched, rereading recorder (id_eq.trans source_eq) before' known'
    (copied.page cursor.bufferSize.toNat)⟩

omit [Network ν] in
theorem checkEpoch_eq (copies : c.IsCopiedBy header describe rows cursor) :
    cursor.checkEpoch = cursor := by
  obtain ⟨left, writer, reader, -, source, -⟩ := copies.between
  exact Cursor.checkEpoch_of_isSome_source (by rw [source]; rfl)

/-- Whatever is read, and however many rows at once. -/
theorem afterSteps (copies : c.IsCopiedBy header describe rows cursor) (steps : List PageStep) :
    c.IsCopiedBy header describe rows (cursor.afterSteps steps) := by
  induction steps generalizing cursor with
  | nil => exact copies
  | cons step steps ih =>
    apply ih
    cases step with
    | resize size => exact ⟨copies.id_eq, copies.between⟩
    | read row =>
      show c.IsCopiedBy header describe rows (cursor.checkEpoch.fetchTo row.toNat)
      rw [copies.checkEpoch_eq]
      exact Cursor.fetchTo_induction (fun _ copies _ => copies.fetchPage row.toNat) cursor copies

/-- The rows that nobody has read are drained into the copy. -/
theorem drain (copies : c.IsCopiedBy header describe rows cursor) :
    ∃ (writer writer' : CacheWriter) (after : Cursor ν), cursor.recorder = some writer ∧
      ({ cursor with recorder := none } : Cursor ν).drain writer = .ok () (writer', after) ∧
      c.Copied header describe rows [] (writer', after.disk) := by
  obtain ⟨left, writer, reader, recorder, source, source_eq, before, copied⟩ := copies.between
  cases finished : writer.finished with
  | true =>
    -- the end is marked, so that none are left
    cases copied with
    | part _ holds =>
      have more : writer.finished = false := holds.finished_eq
      rw [finished] at more
      contradiction
    | whole holds =>
      refine ⟨writer, writer, { cursor with recorder := none }, recorder, ?_, .whole holds⟩
      rw [Cursor.drain, if_pos finished]
  | false =>
    -- a fetch without a limit brings all of them
    have kept : (writer, cursor.disk).1.file.id ≠ reader.file.id ∧
        (writer, cursor.disk).2.bytesOf reader.file.id = bytes := by
      rw [source_eq, copied.of_target.1]
      exact ⟨c.apart, copied.bytesOf_source⟩
    obtain ⟨after, -, read, -⟩ :=
      before.fetch 0 0 ((leaves_other _ _).keepsFile takes_handler) kept
    rw [takes_handler.run_eq] at read
    have all := copied.page 0
    rw [Batch.drop_next_page, if_pos rfl, List.drop_length] at all
    refine ⟨writer, _, { cursor with recorder := none, source := some after, disk := _ }, recorder,
      ?_, all⟩
    rw [Cursor.drain, if_neg (by simp [finished])]
    simp only [source, read]
    rfl

/-- **Closing completes the copy.** -/
theorem close (copies : c.IsCopiedBy header describe rows cursor) :
    ∃ closed : Cursor ν, cursor.close = .ok () closed ∧
      closed.disk.bytesAt? target = some (recorded header describe rows ++ endFrame.encode) ∧
      closed.disk.bytesAt? source = some bytes := by
  obtain ⟨writer, writer', after, recorder, drained, copied⟩ := copies.drain
  rw [Cursor.close, copies.checkEpoch_eq, Cursor.settle, recorder]
  simp only [drained]
  exact ⟨_, rfl, copied.finish⟩

end IsCopiedBy

end Copying

/-! ### Copies -/

namespace Cursor

variable {ν : Type} {start : Cursor ν} {source target : String} {bytes : Bytes}

/-- A cursor is to read one file, and to record into another. -/
structure SetsOutToCopy (cursor : Cursor ν) (source target : String) (bytes : Bytes) : Prop where
  /-- There is the file. -/
  there : cursor.disk.bytesAt? source = some bytes
  /-- It is not expired. -/
  live : ∀ header, CacheHeader.parse? bytes = some header →
    header.isExpired (CacheHeader.timeOn cursor.now) = false
  /-- What is read is recorded. -/
  target_eq : cursor.cacheTarget = some target
  /-- The paths are not the same. -/
  other : Disk.samePath source target = false
  /-- The target can be created, and is another file. -/
  creates : ∃ id disk, cursor.disk.createFile target = .ok (id, disk) ∧
    cursor.disk.openFile source ≠ .ok id
  /-- The names on the disk lead to files. -/
  sound : cursor.disk.IsSound

variable [Network ν]

/-- **The copy is begun** with the first page. -/
theorem SetsOutToCopy.openCached {header : CacheHeader} {describe : Describe}
    {rows : List DataRow} (sets : start.SetsOutToCopy source target bytes) (idle : start.IsIdle)
    (has : start.disk.HasRows source header describe rows)
    (live : header.isExpired (CacheHeader.timeOn start.now) = false) :
    ∃ (c : Copying source target bytes) (opened : Cursor ν),
      start.openCached source = .ok () opened ∧
        c.IsCopiedBy start.header describe rows opened := by
  obtain ⟨id, disk, created, apart⟩ := sets.creates
  obtain ⟨armed, reader, isArmed, found, spares, before, ran⟩ :=
    openCached_of_hasRows idle has live (by rw [sets.target_eq]; exact sets.other) (by
      intro path there
      obtain rfl := Option.some.inj (sets.target_eq.symm.trans there)
      exact ⟨id, disk, created, apart⟩)
  have bytes_eq : start.disk.bytesOf reader.file.id = bytes := by
    have there := sets.there
    rw [Disk.bytesAt?_eq found] at there
    exact Option.some.inj there
  -- the recorder is the one that was created for the target
  obtain ⟨writer, disk', created', rfl⟩ := isArmed.exists_writer sets.target_eq
  obtain ⟨fresh, target_eq, expiry⟩ := CacheWriter.create_spec sets.sound created'
  have file := (CacheWriter.create_ok created').1
  let c : Copying source target bytes :=
    { found := disk', sourceId := reader.file.id, targetId := writer.file.id
      source_eq := Disk.openFile_createFile file found
      bytes_eq := (Disk.bytesOf_createFile file _).trans bytes_eq
      target_eq, apart := spares.apart writer rfl }
  have described : c.Copied start.header describe rows rows
      (writer.apply (.describe describe) disk') :=
    .of_isFresh (c := c) fresh rfl (congrArg CacheHeader.mk expiry) describe rows
  rw [bytes_eq] at before
  refine ⟨c, _, ran, Copying.IsCopiedBy.rereading rfl rfl before ?_ ?_⟩
  · rw [rereading_result, ResultSet.id_foldl_opening]
  · exact described.page start.bufferSize.toNat

/-- **A copy has the description and the rows of the file.** -/
theorem SetsOutToCopy.copies {header : CacheHeader} {description : Bytes} {payloads : List Bytes}
    (file : IsCacheFile header description payloads bytes) {former : Cursor ν}
    (clears : former.Clears start) (sets : start.SetsOutToCopy source target bytes) :
    ∃ opened : Cursor ν, former.openCached source = .ok () opened ∧
      ∀ steps : List PageStep, ∃ closed : Cursor ν,
        (opened.afterSteps steps).close = .ok () closed ∧
        (opened.afterSteps steps).release.2 = closed.disk ∧
        closed.disk.bytesAt? target =
          some (start.header.encode ++ payloadFrames description payloads ++
            CacheWriter.endFrame.encode) ∧
        closed.disk.bytesAt? source = some bytes := by
  obtain ⟨describe, rows, same, hasRows⟩ := file.hasRows
  have has := hasRows start.disk source sets.there
  have live := sets.live header (by
    obtain ⟨tail, -, rfl⟩ := file.bytes_eq
    rw [List.append_assoc, CacheHeader.parse?_encode])
  -- the guard sees another path
  have other : former.cacheTarget.any (Disk.samePath source) = false := by
    rw [← clears.again.2.2.2, sets.target_eq]
    exact sets.other
  obtain ⟨c, opened, ran, copies⟩ := sets.openCached clears.isIdle has live
  refine ⟨opened, (clears.openCached_eq other).trans ran, ?_⟩
  -- no step ends the copying, and closing reads the rows that are left
  intro steps
  obtain ⟨closed, closes, copy, kept⟩ := (copies.afterSteps steps).close
  rw [same] at copy
  refine ⟨closed, closes, ?_, copy, kept⟩
  rw [release, closes]
  rfl

/-- A file is copied: a cursor closes what it has open, opens the file while it is
to record into another one, takes some steps, and is let go of. -/
inductive MakesCopy (ν : Type) [Network ν] (bytes copy : Bytes) : Prop
  | intro {former start opened : Cursor ν} {source target : String} (steps : List PageStep)
      (clears : former.Clears start) (sets : start.SetsOutToCopy source target bytes)
      (opens : former.openCached source = .ok () opened)
      (left : (opened.afterSteps steps).release.2.bytesAt? target = some copy)

/-- It has the frames of the file. -/
theorem MakesCopy.exists_header {header : CacheHeader} {description : Bytes}
    {payloads : List Bytes} {copy : Bytes} (makes : MakesCopy ν bytes copy)
    (file : IsCacheFile header description payloads bytes) :
    ∃ other : CacheHeader, copy = other.encode ++ payloadFrames description payloads ++
      CacheWriter.endFrame.encode := by
  obtain @⟨former, start, opened, source, target, steps, clears, sets, opens, left⟩ := makes
  obtain ⟨opened', opens', copies⟩ := SetsOutToCopy.copies file clears sets
  obtain ⟨-, rfl⟩ := EStateM.Result.ok.inj (opens.symm.trans opens')
  obtain ⟨closed, -, released, copied, -⟩ := copies steps
  rw [released, copied] at left
  exact ⟨start.header, (Option.some.inj left).symm⟩

/-- **Copies are lossless.**  Of a file that is not expired, with any description that
can be read and any rows that are accepted, a cursor makes a copy into another file,
whatever it reads meanwhile and however many rows it fetches at once: closed or let go
of, it leaves a file with its own header, and then the same description, the same rows
in their order and one end frame, and the file that was read is as it was.  So the
frames are the same in every copy, and in every copy of a copy. -/
theorem copies_whole_files {header : CacheHeader} {description : Bytes} {payloads : List Bytes}
    (file : IsCacheFile header description payloads bytes) :
    (∀ {former start : Cursor ν} {source target : String}, former.Clears start →
      start.SetsOutToCopy source target bytes →
      ∃ opened : Cursor ν, former.openCached source = .ok () opened ∧
        ∀ steps : List PageStep, ∃ closed : Cursor ν,
          (opened.afterSteps steps).close = .ok () closed ∧
          (opened.afterSteps steps).release.2 = closed.disk ∧
          closed.disk.bytesAt? target =
            some (start.header.encode ++ payloadFrames description payloads ++
              CacheWriter.endFrame.encode) ∧
          closed.disk.bytesAt? source = some bytes) ∧
      ∀ copy : Bytes, Relation.TransGen (MakesCopy ν) bytes copy →
        ∃ other : CacheHeader, copy = other.encode ++ payloadFrames description payloads ++
          CacheWriter.endFrame.encode := by
  refine ⟨fun clears sets => SetsOutToCopy.copies file clears sets, ?_⟩
  intro copy chain
  induction chain with
  | single makes => exact makes.exists_header file
  | tail chain makes ih =>
    obtain ⟨other, rfl⟩ := ih
    exact makes.exists_header (file.copy other)

end Cursor

namespace TableServer

/-- The payloads of the rows that are on the disk. -/
def recordedPayloads : List Bytes :=
  fiveRows.map DataRow.payload

/-- The payload of their description. -/
def recordedDescription : Bytes :=
  (fiveRowStore.describe ⟨true, 2⟩ 0).payload

/-- The file that is on the disk. -/
def recordedFile : Bytes :=
  CacheHeader.encode ⟨0⟩ ++ payloadFrames recordedDescription recordedPayloads

theorem isCacheFile_recordedFile :
    IsCacheFile ⟨0⟩ recordedDescription recordedPayloads recordedFile where
  described := ⟨_, (fiveRowStore.describe_legible _ _).decoded_describe⟩
  description_fits := (fiveRowStore.describe_legible _ _).fits
  accepted := by
    intro payload mem
    obtain ⟨row, -, rfl⟩ := List.mem_map.mp mem
    exact ⟨row, row.decoded_payload⟩
  fit := by
    intro payload mem
    obtain ⟨row, there, rfl⟩ := List.mem_map.mp mem
    exact fiveRowStore.row_fits row there
  bytes_eq := ⟨[], .inl rfl, (List.append_nil _).symm⟩

theorem setsOutToCopy_cachedCursor :
    cachedCursor.SetsOutToCopy "cached" "rows" recordedFile where
  there := by decide +kernel
  live := by
    intro header parsed
    have zero : CacheHeader.parse? recordedFile = some ⟨0⟩ := by decide +kernel
    obtain rfl := Option.some.inj (parsed.symm.trans zero)
    decide
  target_eq := rfl
  other := by decide +kernel
  creates := canRead_cachedCursor.creates "rows" rfl
  sound := by
    intro place id there
    rw [show cachedCursor.disk.entries = [(["cached"], .file 0)] from rfl, List.lookup_cons] at there
    split at there
    · obtain rfl := DiskEntry.file.inj (Option.some.inj there)
      exact Nat.one_pos
    · contradiction

/-- The copy that is made of it. -/
def copiedFile : Bytes :=
  cachedCursor.header.encode ++ payloadFrames recordedDescription recordedPayloads ++
    CacheWriter.endFrame.encode

/-- What is known of the copy that this cursor makes while the fourth row is read. -/
theorem copies_whole_files_cachedCursor :
    IsCacheFile ⟨0⟩ recordedDescription recordedPayloads recordedFile ∧
      cachedCursor.Clears cachedCursor ∧
      cachedCursor.SetsOutToCopy "cached" "rows" recordedFile ∧
      (∃ opened closed : Cursor TableServer, cachedCursor.openCached "cached" = .ok () opened ∧
        (opened.afterSteps [.read 3]).close = .ok () closed ∧
        closed.disk.bytesAt? "rows" = some copiedFile ∧
        closed.disk.bytesAt? "cached" = some recordedFile) ∧
      Relation.TransGen (Cursor.MakesCopy TableServer) recordedFile copiedFile ∧
      ∃ other : CacheHeader, copiedFile = other.encode ++
        payloadFrames recordedDescription recordedPayloads ++ CacheWriter.endFrame.encode := by
  have idle : cachedCursor.IsIdle := ⟨rfl, rfl, rfl, rfl⟩
  have clears : cachedCursor.Clears cachedCursor := idle.clears
  obtain ⟨copied, chained⟩ :=
    Cursor.copies_whole_files (ν := TableServer) isCacheFile_recordedFile
  obtain ⟨opened, opens, copies⟩ := copied clears setsOutToCopy_cachedCursor
  obtain ⟨closed, closes, released, copy, kept⟩ := copies [.read 3]
  have chain : Relation.TransGen (Cursor.MakesCopy TableServer) recordedFile copiedFile :=
    .single (.intro [.read 3] clears setsOutToCopy_cachedCursor opens (released ▸ copy))
  exact ⟨isCacheFile_recordedFile, clears, setsOutToCopy_cachedCursor,
    ⟨opened, closed, opens, closes, copy, kept⟩, chain, chained copiedFile chain⟩

/-- A cursor with the same file, which it is to copy into the file at another path; but
this path leads to the same file. -/
def roundaboutCursor : Cursor TableServer :=
  { cachedCursor with
    disk := { recordedDisk with entries := (["d"], .directory) :: recordedDisk.entries }
    cacheTarget := some "d/../cached" }

/-- **Another path is not another file.**  The file is opened, though it is to be
recorded into, and it is not what it was when the cursor is closed. -/
theorem copies_onto_itself :
    IsCacheFile ⟨0⟩ recordedDescription recordedPayloads recordedFile ∧
      roundaboutCursor.Clears roundaboutCursor ∧
      roundaboutCursor.disk.bytesAt? "cached" = some recordedFile ∧
      roundaboutCursor.cacheTarget = some "d/../cached" ∧
      Disk.samePath "cached" "d/../cached" = false ∧
      ∃ opened closed : Cursor TableServer, roundaboutCursor.openCached "cached" = .ok () opened ∧
        opened.close = .ok () closed ∧ closed.disk.bytesAt? "cached" ≠ some recordedFile := by
  have idle : roundaboutCursor.IsIdle := ⟨rfl, rfl, rfl, rfl⟩
  obtain ⟨⟨⟩, opens⟩ := Outcome.exists_eq_ok
    (show (roundaboutCursor.openCached "cached").toExcept.toBool = true by decide +kernel)
  obtain ⟨⟨⟩, closes⟩ := Outcome.exists_eq_ok
    (show (roundaboutCursor.openCached "cached").state.close.toExcept.toBool = true by
      decide +kernel)
  refine ⟨isCacheFile_recordedFile, idle.clears, ?_, rfl, ?_, _, _, opens, closes, ?_⟩
  · decide +kernel
  · decide +kernel
  · decide +kernel

end TableServer

end ProxyClient
