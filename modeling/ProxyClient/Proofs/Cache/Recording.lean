/-
ProxyClient/Proofs/Cache/Recording.lean

What a recorder leaves in its file.  A writer that was started holds an
image (`CacheWriter.Holds`), and every event that it takes appends to it:

    a row           →  its frame
    a description   →  its frame, the first time
    a batch end     →  the end frame, if no rows are left and the first time

A file is continued behind its last complete row (`append_recorded`): an end
frame, or a frame that is torn, is cut off, and everything else stays.
-/
import ProxyClient.Cache.Writer
import ProxyClient.Proofs.Disk.Files
import ProxyClient.Proofs.Exchange.Events

namespace ProxyClient

/-- The frame of a row with this payload, whatever the payload. -/
def Frame.ofRow (payload : Bytes) : Frame :=
  ⟨ServerMessage.Kind.dataRow.toByte, payload⟩

/-- The bytes of rows, one after the other. -/
def encodeRows (rows : List DataRow) : Bytes :=
  rows.flatMap fun row => row.frame.encode

@[simp] theorem encodeRows_nil : encodeRows [] = [] := rfl

@[simp] theorem encodeRows_append (front back : List DataRow) :
    encodeRows (front ++ back) = encodeRows front ++ encodeRows back :=
  List.flatMap_append

theorem encodeRows_cons (row : DataRow) (rows : List DataRow) :
    encodeRows (row :: rows) = row.frame.encode ++ encodeRows rows := rfl

namespace CacheWriter

/-! ### Frames in a file -/

theorem nextFrame?_encode {frame : Frame} (fits : frame.Fits) (rest : Bytes) :
    nextFrame? (frame.encode ++ rest) = some (frame, rest) := by
  obtain ⟨type, payload⟩ := frame
  have announced := Frame.payloadLength_bigEndian fits
  simp only [Frame.encode_cons, Bytes.bigEndian, List.cons_append, List.nil_append]
  simp only [Bytes.bigEndian] at announced
  simp only [nextFrame?, announced]
  rw [if_pos (by simp), List.take_left' rfl, List.drop_left' rfl]

/-- A frame that was taken off stood in front. -/
theorem encode_of_nextFrame? {bytes rest : Bytes} {frame : Frame}
    (h : nextFrame? bytes = some (frame, rest)) : frame.Fits ∧ bytes = frame.encode ++ rest := by
  unfold nextFrame? at h
  split at h
  · next type a b c d more =>
    split at h
    · -- the length is announced, and as many bytes are there
      next count announced =>
      split at h
      · next inside =>
        obtain ⟨rfl, rfl⟩ := Prod.mk.inj (Option.some.inj h)
        obtain ⟨fits, length⟩ := Frame.bigEndian_of_payloadLength rfl announced
        have count_eq : (more.take count).length = count := List.length_take_of_le inside
        refine ⟨?_, ?_⟩
        · rw [Frame.Fits, count_eq]
          exact fits
        · rw [Frame.encode_cons, count_eq, ← length, List.cons_append, List.append_assoc,
            List.take_append_drop]
          rfl
      · contradiction
    · contradiction
  · contradiction

/-- One step of the scan. -/
theorem scan_encode {frame : Frame} (fits : frame.Fits) (found : Extent) (rest : Bytes) :
    scan found (frame.encode ++ rest) =
      match ServerMessage.Kind.ofByte? frame.type with
      | some .describe => scan ⟨true, found.length + frame.encode.length⟩ rest
      | some .dataRow => scan { found with length := found.length + frame.encode.length } rest
      | some .batchEnd => some found
      | _ => none := by
  have length : found.length + Frame.headerLength + frame.payload.length =
      found.length + frame.encode.length := by
    rw [Frame.length_encode, Frame.headerLength]
    omega
  rw [scan]
  split
  · next none_ =>
    rw [nextFrame?_encode fits] at none_
    contradiction
  · next next_ =>
    rw [nextFrame?_encode fits] at next_
    obtain ⟨rfl, rfl⟩ := Prod.mk.inj (Option.some.inj next_)
    exact length ▸ rfl

/-- The scan stops in front of these bytes, and keeps what it has found. -/
def Stops (tail : Bytes) : Prop :=
  ∀ found, scan found tail = some found

theorem stops_of_nextFrame?_eq_none {tail : Bytes} (h : nextFrame? tail = none) : Stops tail := by
  intro found
  rw [scan]
  split
  · rfl
  · next next_ =>
    rw [h] at next_
    contradiction

theorem stops_nil : Stops [] :=
  stops_of_nextFrame?_eq_none rfl

/-- A torn frame is no frame. -/
theorem nextFrame?_of_torn {tail : Bytes} (torn : Frame.Torn tail) : nextFrame? tail = none := by
  rcases e : nextFrame? tail with - | ⟨frame, rest⟩
  · rfl
  · obtain ⟨fits, front⟩ := encode_of_nextFrame? e
    exact absurd front (torn.ne_encode_append fits rest)

theorem stops_of_torn {tail : Bytes} (torn : Frame.Torn tail) : Stops tail :=
  stops_of_nextFrame?_eq_none (nextFrame?_of_torn torn)

/-- Nothing behind an end frame is looked at. -/
theorem stops_endFrame (rest : Bytes) : Stops (endFrame.encode ++ rest) := by
  intro found
  exact scan_encode (RowEvent.legible_batchEnd ⟨true, 0⟩).fits found rest

/-- The scan goes over rows, up to where it stops. -/
theorem scan_rows {rows : List DataRow} (fit : ∀ row ∈ rows, row.frame.Fits) (found : Extent)
    {tail : Bytes} (stops : Stops tail) :
    scan found (encodeRows rows ++ tail) =
      some { found with length := found.length + (encodeRows rows).length } := by
  induction rows generalizing found with
  | nil =>
    rw [encodeRows_nil, List.nil_append]
    exact stops found
  | cons row rows ih =>
    rw [encodeRows_cons, List.append_assoc, scan_encode (fit row (by simp))]
    show scan _ (encodeRows rows ++ tail) = _
    rw [ih (fun r mem => fit r (List.mem_cons_of_mem _ mem)), List.length_append]
    simp only [Nat.add_assoc]

/-! ### Writers -/

/-- What an action of a writer keeps: it has the same file, and nothing but the
bytes of this file has changed. -/
abbrev Keeps (writer : CacheWriter) (disk : Disk) (after : CacheWriter × Disk) : Prop :=
  writer.file.Keeps disk (after.1.file, after.2)

theorem keeps_writeFrame (writer : CacheWriter) (frame : Frame) (disk : Disk) :
    writer.Keeps disk (writer.writeFrame frame disk) := by
  rw [writeFrame]
  by_cases started : writer.started
  · rw [if_pos started]
    exact OutputFile.keeps_write writer.file disk frame.encode
  · rw [if_neg started]
    have emptied := OutputFile.keeps_truncate writer.file disk
    have headed := OutputFile.keeps_write (writer.file.truncate disk).1 (writer.file.truncate disk).2
      (CacheHeader.encode ⟨writer.expiresAt⟩)
    have framed := OutputFile.keeps_write (writer.start disk).1.file (writer.start disk).2 frame.encode
    exact (emptied.trans headed).trans framed

theorem keeps_batchEnd (writer : CacheWriter) (ended : Bool) (disk : Disk) :
    writer.Keeps disk (writer.batchEnd ended disk) := by
  rw [batchEnd]
  by_cases first : ended ∧ !writer.finished
  · rw [if_pos first]
    exact (writer.keeps_writeFrame endFrame disk).trans (OutputFile.keeps_flush _ _)
  · rw [if_neg first]
    exact OutputFile.keeps_flush writer.file disk

/-- Taking an event keeps every other file as it is. -/
theorem keeps_apply (writer : CacheWriter) (event : RowEvent) (disk : Disk) :
    writer.Keeps disk (writer.apply event disk) := by
  cases event with
  | describe d =>
    rw [apply]
    simp only
    split
    · exact ⟨rfl, .refl _ _⟩
    · exact writer.keeps_writeFrame d.frame disk
  | outputBinds binds => exact ⟨rfl, .refl _ _⟩
  | row r => exact writer.keeps_writeFrame r.frame disk
  | batchEnd batch => exact writer.keeps_batchEnd batch.endOfResultSet disk

/-- A writer that was not yet started: its file is as it was. -/
structure IsFresh (writer : CacheWriter) (disk : Disk) : Prop where
  /-- Nothing was written. -/
  started : writer.started = false
  /-- Not even the description. -/
  described : writer.described = false
  /-- Nor the end frame. -/
  finished : writer.finished = false
  /-- The buffer is empty. -/
  pending : writer.file.pending = []
  /-- The file exists. -/
  has : disk.Has writer.file.id

/-- A writer that was started holds an image in a file, and since a given time
nothing but that file has changed. -/
structure Holds (id : FileId) (since : Disk) (image : Bytes) (described finished : Bool)
    (state : CacheWriter × Disk) : Prop where
  /-- The file. -/
  id_eq : state.1.file.id = id
  /-- The header is written. -/
  started : state.1.started = true
  /-- Whether the description is. -/
  described_eq : state.1.described = described
  /-- Whether the end frame is. -/
  finished_eq : state.1.finished = finished
  /-- The file is written at its end. -/
  atEnd : state.1.file.AtEnd state.2
  /-- What it holds, once the buffer is emptied. -/
  image_eq : state.1.file.image state.2 = image
  /-- Nothing else has changed. -/
  only : Disk.OnlyChanges id since state.2

section

variable {id : FileId} {since : Disk} {image : Bytes} {described finished : Bool}
  {state : CacheWriter × Disk}

/-- The first thing that a writer writes is the header. -/
theorem IsFresh.holds_start {writer : CacheWriter} {disk : Disk} (fresh : writer.IsFresh disk) :
    Holds writer.file.id disk (CacheHeader.encode ⟨writer.expiresAt⟩) false false
      (writer.start disk) := by
  obtain ⟨atEnd, image⟩ := OutputFile.truncate_spec fresh.has fresh.pending
  obtain ⟨id_eq, only⟩ := OutputFile.keeps_truncate writer.file disk
  have written := OutputFile.appends_write atEnd (CacheHeader.encode ⟨writer.expiresAt⟩)
  refine ⟨written.id_eq.trans id_eq, rfl, fresh.described, fresh.finished, written.atEnd, ?_, ?_⟩
  · refine written.image_eq.trans ?_
    rw [image, List.nil_append]
  · exact only.trans (id_eq ▸ written.only)

/-- A frame is appended. -/
theorem Holds.writeFrame (h : Holds id since image described finished state) (frame : Frame) :
    Holds id since (image ++ frame.encode) described finished
      (state.1.writeFrame frame state.2) := by
  have written := OutputFile.appends_write h.atEnd frame.encode
  rw [CacheWriter.writeFrame]
  rw [if_pos h.started]
  refine ⟨written.id_eq.trans h.id_eq, h.started, h.described_eq, h.finished_eq, written.atEnd,
    ?_, ?_⟩
  · refine written.image_eq.trans ?_
    rw [h.image_eq]
  · exact h.only.trans (h.id_eq ▸ written.only)

/-- Flushing changes nothing of the image. -/
theorem Holds.flush (h : Holds id since image described finished state) :
    Holds id since image described finished (state.1.flush state.2) := by
  have flushed := OutputFile.appends_flush h.atEnd
  refine ⟨flushed.id_eq.trans h.id_eq, h.started, h.described_eq, h.finished_eq, flushed.atEnd,
    ?_, ?_⟩
  · refine flushed.image_eq.trans ?_
    rw [h.image_eq, List.append_nil]
  · exact h.only.trans (h.id_eq ▸ flushed.only)

/-- A closed file is the image. -/
theorem Holds.detach (h : Holds id since image described finished state) :
    (state.1.detach state.2).bytesOf id = image ∧
      Disk.OnlyChanges id since (state.1.detach state.2) := by
  refine ⟨?_, h.flush.only⟩
  show (state.1.file.flush state.2).2.bytesOf id = image
  rw [← h.id_eq, OutputFile.bytesOf_flush h.atEnd, h.image_eq]

/-- With an empty buffer all of it is in the file. -/
theorem Holds.bytesOf_eq (h : Holds id since image described finished state)
    (empty : state.1.file.pending = []) : state.2.bytesOf id = image := by
  rw [← h.image_eq, OutputFile.image, empty, List.append_nil, h.id_eq]

/-- A writer with an empty buffer has nothing to write. -/
theorem flush_of_nil {writer : CacheWriter} {disk : Disk} (empty : writer.file.pending = []) :
    writer.flush disk = (writer, disk) := by
  rw [flush, OutputFile.flush_of_nil empty]

/-- So it is closed without writing. -/
theorem detach_of_nil {writer : CacheWriter} {disk : Disk} (empty : writer.file.pending = []) :
    writer.detach disk = disk :=
  congrArg Prod.snd (flush_of_nil empty)

/-! ### Events -/

theorem Holds.row (h : Holds id since image described finished state) (row : DataRow) :
    Holds id since (image ++ row.frame.encode) described finished
      (state.1.apply (.row row) state.2) :=
  h.writeFrame row.frame

theorem Holds.rows (h : Holds id since image described finished state) (rows : List DataRow) :
    Holds id since (image ++ encodeRows rows) described finished
      ((rows.map RowEvent.row).foldl (fun state event => state.1.apply event state.2) state) := by
  induction rows generalizing image state with
  | nil => simpa using h
  | cons row rows ih =>
    rw [encodeRows_cons, ← List.append_assoc]
    exact ih (h.row row)

/-- A description that is there is not written again. -/
theorem Holds.describe (h : Holds id since image true finished state) (describe : Describe) :
    Holds id since image true finished (state.1.apply (.describe describe) state.2) := by
  rw [CacheWriter.apply]
  simp only [h.described_eq]
  exact h

/-- The first one is. -/
theorem Holds.firstDescribe (h : Holds id since image false finished state) (describe : Describe) :
    Holds id since (image ++ describe.frame.encode) true finished
      (state.1.apply (.describe describe) state.2) := by
  have framed := h.writeFrame describe.frame
  rw [CacheWriter.apply]
  simp only [h.described_eq]
  exact ⟨framed.id_eq, framed.started, rfl, framed.finished_eq, framed.atEnd, framed.image_eq,
    framed.only⟩

/-- A frame is written behind the header. -/
theorem IsFresh.writeFrame_eq {writer : CacheWriter} {disk : Disk} (fresh : writer.IsFresh disk)
    (frame : Frame) :
    writer.writeFrame frame disk =
      (writer.start disk).1.writeFrame frame (writer.start disk).2 := by
  unfold CacheWriter.writeFrame
  rw [if_neg (by simp [fresh.started]), if_pos fresh.holds_start.started]

/-- So is the description. -/
theorem IsFresh.holds_describe {writer : CacheWriter} {disk : Disk} (fresh : writer.IsFresh disk)
    (describe : Describe) :
    Holds writer.file.id disk (CacheHeader.encode ⟨writer.expiresAt⟩ ++ describe.frame.encode) true
      false (writer.apply (.describe describe) disk) := by
  have framed := fresh.holds_start.writeFrame describe.frame
  rw [CacheWriter.apply]
  simp only [fresh.described, fresh.writeFrame_eq]
  exact ⟨framed.id_eq, framed.started, rfl, framed.finished_eq, framed.atEnd, framed.image_eq,
    framed.only⟩

/-- The end frame is written once, and only at the end. -/
theorem Holds.batchEnd (h : Holds id since image described finished state) (batch : BatchEnd) :
    Holds id since
      (image ++ if batch.endOfResultSet ∧ finished = false then endFrame.encode else [])
      described (finished || batch.endOfResultSet) (state.1.apply (.batchEnd batch) state.2) := by
  show Holds _ _ _ _ _ (state.1.batchEnd batch.endOfResultSet state.2)
  rw [CacheWriter.batchEnd]
  rw [h.finished_eq]
  rcases finished with - | -
  · rcases batch.endOfResultSet with - | -
    · simpa using h.flush
    · have ended := h.writeFrame endFrame
      have marked : Holds id since (image ++ endFrame.encode) described true
          ({ (state.1.writeFrame endFrame state.2).1 with finished := true },
            (state.1.writeFrame endFrame state.2).2) :=
        ⟨ended.id_eq, ended.started, ended.described_eq, rfl, ended.atEnd, ended.image_eq,
          ended.only⟩
      simpa using marked.flush
  · simpa using h.flush

/-- **Closing a recorder** leaves the image with one end frame behind it. -/
theorem Holds.finish (h : Holds id since image described finished state) :
    (state.1.finish state.2).bytesOf id =
        image ++ (if finished then [] else endFrame.encode) ∧
      Disk.OnlyChanges id since (state.1.finish state.2) := by
  rw [CacheWriter.finish]
  rw [h.finished_eq]
  rcases finished with - | -
  · obtain ⟨bytes, only⟩ := (h.batchEnd ⟨true, 0⟩).detach
    exact ⟨bytes, only⟩
  · obtain ⟨bytes, only⟩ := h.detach
    exact ⟨bytes.trans (List.append_nil image).symm, only⟩

/-- So is the end frame. -/
theorem IsFresh.batchEnd_true {writer : CacheWriter} {disk : Disk} (fresh : writer.IsFresh disk) :
    writer.batchEnd true disk = (writer.start disk).1.batchEnd true (writer.start disk).2 := by
  rw [CacheWriter.batchEnd, CacheWriter.batchEnd]
  rw [fresh.finished, fresh.holds_start.finished_eq, fresh.writeFrame_eq]
  rfl

/-- If there is none, nothing is written. -/
theorem IsFresh.batchEnd_false {writer : CacheWriter} {disk : Disk} (fresh : writer.IsFresh disk) :
    writer.batchEnd false disk = (writer, disk) := by
  rw [CacheWriter.batchEnd, if_neg (by simp)]
  exact flush_of_nil fresh.pending

/-- So is the end frame of one that is closed. -/
theorem IsFresh.finish_eq {writer : CacheWriter} {disk : Disk} (fresh : writer.IsFresh disk) :
    writer.finish disk = (writer.start disk).1.finish (writer.start disk).2 := by
  rw [CacheWriter.finish, CacheWriter.finish]
  rw [fresh.finished, fresh.holds_start.finished_eq, fresh.batchEnd_true]
  rfl

/-- This leaves a header and an end frame. -/
theorem IsFresh.finish {writer : CacheWriter} {disk : Disk} (fresh : writer.IsFresh disk) :
    (writer.finish disk).bytesOf writer.file.id =
        CacheHeader.encode ⟨writer.expiresAt⟩ ++ endFrame.encode ∧
      Disk.OnlyChanges writer.file.id disk (writer.finish disk) := by
  rw [fresh.finish_eq]
  exact fresh.holds_start.finish

end

/-! ### Opening -/

section

variable {path : String} {expiresAt : Int64} {ttl : Nat} {clock : Int64} {disk disk' : Disk}
  {writer : CacheWriter}

/-- A writer is created in a file that is created. -/
theorem createWithExpiry_ok (h : createWithExpiry path expiresAt disk = .ok writer disk') :
    disk.createFile path = .ok (writer.file.id, disk') ∧
      writer = { path, file := { id := writer.file.id }, expiresAt, started := false
                 described := false, finished := false } := by
  unfold createWithExpiry at h
  split at h
  · contradiction
  · next id disk'' created =>
    obtain ⟨rfl, rfl⟩ := EStateM.Result.ok.inj h
    exact ⟨created, rfl⟩

/-- A created writer is fresh, and the path leads to its file, if the file exists. -/
theorem createWithExpiry_of_has (h : createWithExpiry path expiresAt disk = .ok writer disk')
    (has : disk'.Has writer.file.id) :
    writer.IsFresh disk' ∧ disk'.openFile path = .ok writer.file.id ∧
      writer.expiresAt = expiresAt := by
  obtain ⟨created, new⟩ := createWithExpiry_ok h
  refine ⟨?_, Disk.openFile_of_createFile created, by rw [new]⟩
  rw [new]
  exact ⟨rfl, rfl, rfl, rfl, has⟩

theorem createWithExpiry_spec (sound : disk.IsSound)
    (h : createWithExpiry path expiresAt disk = .ok writer disk') :
    writer.IsFresh disk' ∧ disk'.openFile path = .ok writer.file.id ∧
      writer.expiresAt = expiresAt :=
  createWithExpiry_of_has h (Disk.has_of_createFile sound (createWithExpiry_ok h).1)

theorem create_ok (h : create path ttl clock disk = .ok writer disk') :
    disk.createFile path = .ok (writer.file.id, disk') ∧
      writer = { path, file := { id := writer.file.id },
                 expiresAt := CacheHeader.expiryAfter (CacheHeader.timeOn clock) ttl
                 started := false, described := false, finished := false } :=
  createWithExpiry_ok h

theorem create_spec (sound : disk.IsSound) (h : create path ttl clock disk = .ok writer disk') :
    writer.IsFresh disk' ∧ disk'.openFile path = .ok writer.file.id ∧
      writer.expiresAt = CacheHeader.expiryAfter (CacheHeader.timeOn clock) ttl :=
  createWithExpiry_spec sound h

/-- A writer that is given up before anything was written leaves the files as they
were before it was created, if none was empty. -/
theorem sameFiles_abandon (occupied : ∀ id, disk.openFile path = .ok id → disk.bytesOf id ≠ [])
    (h : create path ttl clock disk = .ok writer disk') :
    disk.SameFiles (writer.abandon disk').state := by
  obtain ⟨created, new⟩ := create_ok h
  have fresh : writer.started = false ∧ writer.file.pending = [] ∧ writer.path = path := by
    rw [new]
    exact ⟨rfl, rfl, rfl⟩
  obtain ⟨unstarted, unwritten, path_eq⟩ := fresh
  rw [abandon, unstarted, path_eq]
  by_cases same : disk' = disk
  · -- the file was there, and is not empty
    subst same
    have full := occupied _ (Disk.openFile_of_createFile created)
    rw [if_neg (by simp [full])]
    show disk'.SameFiles (writer.detach disk')
    rw [detach_of_nil unwritten]
    exact .refl disk'
  · obtain ⟨removed, gone, sameFiles⟩ := Disk.removeFile_of_createFile created same
    have empty : disk'.bytesOf writer.file.id = [] := by
      obtain ⟨place, -, same' | ⟨id_eq, -, -⟩⟩ := Disk.find_of_createFile created
      · exact absurd same' same
      · rw [Disk.bytesOf_createFile created, id_eq, Disk.bytesOf,
          List.getElem?_eq_none (Nat.le_refl _)]
        rfl
    rw [if_pos (by simp [empty])]
    simp only [gone]
    exact sameFiles

end

/-- The bytes of a recorded result set, in front of the end frame. -/
def recorded (header : CacheHeader) (describe : Describe) (rows : List DataRow) : Bytes :=
  header.encode ++ describe.frame.encode ++ encodeRows rows

theorem recorded_append (header : CacheHeader) (describe : Describe) (front back : List DataRow) :
    recorded header describe (front ++ back) = recorded header describe front ++ encodeRows back := by
  rw [recorded, recorded, encodeRows_append, List.append_assoc (_ ++ _)]

section

variable {header : CacheHeader} {describe : Describe} {rows : List DataRow} {tail : Bytes}

theorem recorded_layout (header : CacheHeader) (describe : Describe) (rows : List DataRow)
    (tail : Bytes) :
    recorded header describe rows ++ tail =
      header.encode ++ (describe.frame.encode ++ (encodeRows rows ++ tail)) := by
  simp only [recorded, List.append_assoc]

theorem parse?_recorded : CacheHeader.parse? (recorded header describe rows ++ tail) = some header := by
  rw [recorded_layout, CacheHeader.parse?_encode]

/-- The scan keeps the description and the rows. -/
theorem scan_recorded (fits : describe.frame.Fits) (fit : ∀ row ∈ rows, row.frame.Fits)
    (stops : Stops tail) :
    scan ⟨false, CacheHeader.size⟩ ((recorded header describe rows ++ tail).drop CacheHeader.size) =
      some ⟨true, (recorded header describe rows).length⟩ := by
  have behind : (recorded header describe rows ++ tail).drop CacheHeader.size =
      describe.frame.encode ++ (encodeRows rows ++ tail) := by
    rw [recorded_layout, List.drop_left' header.length_encode]
  rw [behind, scan_encode fits]
  show scan ⟨true, _⟩ (encodeRows rows ++ tail) = _
  rw [scan_rows fit _ stops, recorded, List.length_append, List.length_append,
    CacheHeader.length_encode]

/-- What the scan keeps are the frames in front. -/
theorem exists_frames_of_scan {found extent : Extent} {bytes : Bytes}
    (h : scan found bytes = some extent) :
    ∃ (frames : List Frame) (rest : Bytes), bytes = frames.flatMap Frame.encode ++ rest ∧
      extent.length = found.length + (frames.flatMap Frame.encode).length := by
  -- a frame that is kept stands in front of those that the rest of the scan keeps
  have onward {found : Extent} {bytes rest : Bytes} {frame : Frame}
      (taken : nextFrame? bytes = some (frame, rest))
      (ih : ∃ (frames : List Frame) (last : Bytes), rest = frames.flatMap Frame.encode ++ last ∧
        extent.length = found.length + Frame.headerLength + frame.payload.length +
          (frames.flatMap Frame.encode).length) :
      ∃ (frames : List Frame) (last : Bytes), bytes = frames.flatMap Frame.encode ++ last ∧
        extent.length = found.length + (frames.flatMap Frame.encode).length := by
    obtain ⟨-, rfl⟩ := encode_of_nextFrame? taken
    obtain ⟨frames, last, rfl, length⟩ := ih
    refine ⟨frame :: frames, last, ?_, ?_⟩
    · rw [List.flatMap_cons, List.append_assoc]
    · rw [List.flatMap_cons, List.length_append, length, Frame.length_encode, Frame.headerLength]
      omega
  -- the induction follows the frames
  fun_induction scan found bytes with
  | case1 found =>
    obtain rfl := Option.some.inj h
    exact ⟨[], _, rfl, rfl⟩
  | case2 found bytes frame rest taken _ length _ ih => exact onward taken (ih h)
  | case3 found bytes frame rest taken _ length _ ih => exact onward taken (ih h)
  | case4 found =>
    obtain rfl := Option.some.inj h
    exact ⟨[], _, rfl, rfl⟩
  | case5 => contradiction

/-- A file that is continued was there, with a header, and is cut off behind what the
scan keeps of it. -/
theorem append_ok {path : String} {disk disk' : Disk} {writer : CacheWriter}
    (h : append path disk = .ok writer disk') :
    ∃ id header extent, disk.openFile path = .ok id ∧
      CacheHeader.parse? (disk.bytesOf id) = some header ∧
      scan ⟨false, CacheHeader.size⟩ ((disk.bytesOf id).drop CacheHeader.size) = some extent ∧
      writer = { path, file := { id, position := extent.length }, expiresAt := 0, started := true
                 described := extent.described, finished := false } ∧
      disk' = disk.setLength id extent.length := by
  unfold append openExisting at h
  split at h
  · contradiction
  · next id opened =>
    -- a directory cannot be opened either
    have found : disk.openFile path = .ok id := by
      split at opened
      · next found =>
        obtain rfl := Except.ok.inj opened
        exact found
      · contradiction
      · contradiction
    simp only at h
    split at h
    · contradiction
    · next header parsed =>
      split at h
      · contradiction
      · next extent scanned =>
        obtain ⟨rfl, rfl⟩ := EStateM.Result.ok.inj h
        exact ⟨id, header, extent, found, parsed, scanned, rfl, rfl⟩

/-- Continuing a file leaves nothing to be written. -/
theorem pending_append {path : String} {disk disk' : Disk} {writer : CacheWriter}
    (h : append path disk = .ok writer disk') : writer.file.pending = [] := by
  obtain ⟨id, header, extent, -, -, -, rfl, -⟩ := append_ok h
  rfl

/-- A file that is continued was there. -/
theorem openFile_of_append {path : String} {disk disk' : Disk} {writer : CacheWriter}
    (h : append path disk = .ok writer disk') : ∃ id, disk.openFile path = .ok id := by
  obtain ⟨id, header, extent, found, -⟩ := append_ok h
  exact ⟨id, found⟩

/-- Where no file can be continued the disk stays as it is; only a path that leads
nowhere is a cache that is not found. -/
theorem append_error {path : String} {disk disk' : Disk} {e : Error}
    (h : append path disk = .error e disk') :
    disk' = disk ∧ (e = .cache .notFound → disk.openFile path = .error .notFound) := by
  unfold append openExisting at h
  split at h
  · -- the path cannot be opened
    next fault opened =>
    obtain ⟨rfl, rfl⟩ := EStateM.Result.error.inj h
    refine ⟨rfl, ?_⟩
    rintro rfl
    split at opened
    · contradiction
    · next found => exact found
    · have never := Except.error.inj opened
      contradiction
  · simp only at h
    split at h
    · obtain ⟨rfl, rfl⟩ := EStateM.Result.error.inj h
      exact ⟨rfl, fun never => by contradiction⟩
    · split at h
      · obtain ⟨rfl, rfl⟩ := EStateM.Result.error.inj h
        exact ⟨rfl, fun never => by contradiction⟩
      · contradiction

/-- A file is continued behind what the scan keeps of it. -/
theorem append_of_scan {path : String} {id : FileId} {disk : Disk} {front : Bytes}
    {described : Bool} (found : disk.openFile path = .ok id) (bytes : disk.bytesOf id = front ++ tail)
    (parsed : CacheHeader.parse? (disk.bytesOf id) = some header)
    (scanned : scan ⟨false, CacheHeader.size⟩ ((disk.bytesOf id).drop CacheHeader.size) =
      some ⟨described, front.length⟩) :
    ∃ writer disk', append path disk = .ok writer disk' ∧
      Holds id disk front described false (writer, disk') := by
  -- a file that has a header exists
  have has : disk.Has id := by
    apply Disk.has_of_bytesOf_ne_nil
    intro empty
    rw [empty] at parsed
    contradiction
  have kept := Disk.bytesOf_setLength_of_append has bytes
  have only := Disk.onlyChanges_setLength disk id front.length
  refine ⟨{ path, file := { id, position := front.length }, expiresAt := 0, started := true,
            described, finished := false },
    disk.setLength id front.length, ?_, ⟨rfl, rfl, rfl, rfl, ⟨?_, ?_⟩, ?_, only⟩⟩
  · rw [append, openExisting]
    simp only [found, parsed, scanned]
  · exact (only.has_iff id).mpr has
  · show front.length = _
    exact congrArg List.length kept.symm
  · show _ ++ [] = _
    rw [List.append_nil]
    exact kept

/-- **A recorded file is continued behind its last row**, whether or not there
is an end frame. -/
theorem append_recorded {path : String} {id : FileId} {disk : Disk}
    (found : disk.openFile path = .ok id)
    (bytes : disk.bytesOf id = recorded header describe rows ++ tail)
    (fits : describe.frame.Fits) (fit : ∀ row ∈ rows, row.frame.Fits) (stops : Stops tail) :
    ∃ writer disk', append path disk = .ok writer disk' ∧
      Holds id disk (recorded header describe rows) true false (writer, disk') := by
  apply append_of_scan found bytes
  · rw [bytes, parse?_recorded]
  · rw [bytes, scan_recorded fits fit stops]

end

end CacheWriter

end ProxyClient
