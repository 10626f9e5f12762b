/-
ProxyClient/Proofs/Cache/Heading.lean

Files that begin with a header, and keep it.  A recorder writes through a
buffer, so the header of a new file comes to the file in two steps:

    waits     the header is in front of the buffer, and the file is empty
    stands    the header is in front of the file, and all that is written
              goes behind it

This is followed through everything that is done with a file: what its
recorders do, of which any number may have it open at once (`Deed`), that it
is cut off behind the header, and that it is continued (`FileUse.Act`).  A
recorder that continues the file begins behind the header.  So the header
goes to the file once and stays in front of it (`FileUse.Stands.after`).
-/
import ProxyClient.Proofs.Cache.Cuts

namespace ProxyClient

/-! ### Files that begin with given bytes -/

namespace OutputFile

variable {file : OutputFile} {disk : Disk} {front : Bytes}

/-- The beginning is in front of the buffer, and the file is empty. -/
structure Waits (front : Bytes) (file : OutputFile) (disk : Disk) : Prop where
  /-- The file exists. -/
  has : disk.Has file.id
  /-- It is empty. -/
  empty : disk.bytesOf file.id = []
  /-- The buffer goes to its first byte. -/
  position_eq : file.position = 0
  /-- The beginning is in front. -/
  begins : front <+: file.pending

/-- The beginning is in front of the file, and whatever is written goes behind it. -/
structure Stands (front : Bytes) (file : OutputFile) (disk : Disk) : Prop where
  /-- The file exists. -/
  has : disk.Has file.id
  /-- The beginning is in front. -/
  begins : front <+: disk.bytesOf file.id
  /-- The buffer goes behind it. -/
  behind : front.length ≤ file.position

/-- The beginning is in front of the file, or will be. -/
def Leads (front : Bytes) (file : OutputFile) (disk : Disk) : Prop :=
  file.Waits front disk ∨ file.Stands front disk

theorem Stands.writeThrough (stands : file.Stands front disk) (bytes : Bytes) :
    (file.writeThrough bytes disk).1.Stands front (file.writeThrough bytes disk).2 where
  has := ((keeps_writeThrough file disk bytes).only.has_iff _).mpr stands.has
  begins := by
    show front <+: (disk.setBytes file.id _).bytesOf file.id
    rw [Disk.bytesOf_setBytes stands.has]
    exact Disk.prefix_overwrite stands.begins stands.behind bytes
  behind := Nat.le_trans stands.behind (Nat.le_add_right ..)

theorem Stands.buffered (stands : file.Stands front disk) (pending : Bytes) :
    ({ file with pending } : OutputFile).Stands front disk :=
  ⟨stands.has, stands.begins, stands.behind⟩

theorem Stands.flush (stands : file.Stands front disk) :
    (file.flush disk).1.Stands front (file.flush disk).2 :=
  (stands.buffered []).writeThrough file.pending

theorem Stands.write (stands : file.Stands front disk) (bytes : Bytes) :
    (file.write bytes disk).1.Stands front (file.write bytes disk).2 := by
  rw [OutputFile.write]
  simp only
  split
  · -- the buffer has room left
    exact stands.buffered _
  · by_cases tooLong : bufferSize - file.pending.length < bytes.length
    · -- the buffer is emptied first
      rw [if_pos tooLong]
      split
      · exact stands.flush.writeThrough bytes
      · exact stands.flush.buffered _
    · -- they fill the buffer exactly
      rw [if_neg tooLong]
      split
      · exact stands.writeThrough bytes
      · exact stands.buffered _

/-- With the buffer the beginning goes to the file. -/
theorem Waits.flush (waits : file.Waits front disk) :
    (file.flush disk).1.Stands front (file.flush disk).2 where
  has := ((keeps_flush file disk).only.has_iff _).mpr waits.has
  begins := by
    show front <+: (disk.setBytes file.id _).bytesOf file.id
    rw [Disk.bytesOf_setBytes waits.has, waits.empty]
    show front <+: Disk.overwrite [] file.position file.pending
    rw [waits.position_eq, show (0 : Nat) = ([] : Bytes).length from rfl, Disk.overwrite_length]
    exact waits.begins
  behind := Nat.le_trans waits.begins.length_le (Nat.le_add_left ..)

theorem Leads.flush (leads : file.Leads front disk) :
    (file.flush disk).1.Stands front (file.flush disk).2 := by
  rcases leads with waits | stands
  · exact waits.flush
  · exact stands.flush

/-- What is written goes behind the beginning, wherever this is. -/
theorem Leads.write (leads : file.Leads front disk) (some_ : front ≠ []) (bytes : Bytes) :
    (file.write bytes disk).1.Leads front (file.write bytes disk).2 := by
  rcases leads with waits | stands
  · have buffered (more : Bytes) : ({ file with pending := file.pending ++ more } : OutputFile).Waits
        front disk :=
      ⟨waits.has, waits.empty, waits.position_eq, waits.begins.trans (List.prefix_append ..)⟩
    rw [OutputFile.write]
    simp only
    split
    · exact .inl (buffered bytes)
    · by_cases tooLong : bufferSize - file.pending.length < bytes.length
      · rw [if_pos tooLong]
        split
        · exact .inr (waits.flush.writeThrough bytes)
        · exact .inr (waits.flush.buffered _)
      · rw [if_neg tooLong]
        split
        · -- bytes that fill a buffer alone do not fit behind the beginning
          have length := waits.begins.length_le
          have some_ := List.length_pos_iff.mpr some_
          unfold bufferSize at *
          omega
        · exact .inl (buffered bytes)
  · exact .inr (stands.write bytes)

end OutputFile

/-! ### Recorders -/

namespace CacheWriter

variable {writer : CacheWriter} {disk : Disk} {front : Bytes}

/-- What holds of an open file whenever it was written or flushed still holds when a
recorder that was started takes an event. -/
theorem started_apply {P : OutputFile → Disk → Prop}
    (writes : ∀ file disk bytes, P file disk → P (file.write bytes disk).1 (file.write bytes disk).2)
    (flushes : ∀ file disk, P file disk → P (file.flush disk).1 (file.flush disk).2)
    (started : writer.started = true) (holds : P writer.file disk) (event : RowEvent) :
    (writer.apply event disk).1.started = true ∧
      P (writer.apply event disk).1.file (writer.apply event disk).2 := by
  -- every event but a batch end is a frame at most
  have framed (frame : Frame) : (writer.writeFrame frame disk).1.started = true ∧
      P (writer.writeFrame frame disk).1.file (writer.writeFrame frame disk).2 := by
    rw [writeFrame, if_pos started]
    exact ⟨started, writes _ _ _ holds⟩
  cases event with
  | describe describe =>
    rw [apply]
    simp only
    split
    · exact ⟨started, holds⟩
    · exact framed describe.frame
  | outputBinds => exact ⟨started, holds⟩
  | row row => exact framed row.frame
  | batchEnd batch =>
    rw [apply, batchEnd]
    by_cases ends : batch.endOfResultSet ∧ !writer.finished
    · rw [if_pos ends]
      exact ⟨(framed endFrame).1, flushes _ _ (framed endFrame).2⟩
    · rw [if_neg ends]
      exact ⟨started, flushes _ _ holds⟩

theorem started_of_stands (stands : writer.file.Stands front disk) (started : writer.started = true)
    (event : RowEvent) :
    (writer.apply event disk).1.started = true ∧
      (writer.apply event disk).1.file.Stands front (writer.apply event disk).2 :=
  started_apply (fun _ _ bytes stands => stands.write bytes) (fun _ _ stands => stands.flush)
    started stands event

theorem started_of_leads (some_ : front ≠ []) (leads : writer.file.Leads front disk)
    (started : writer.started = true) (event : RowEvent) :
    (writer.apply event disk).1.started = true ∧
      (writer.apply event disk).1.file.Leads front (writer.apply event disk).2 :=
  started_apply (fun _ _ bytes leads => leads.write some_ bytes)
    (fun _ _ leads => .inr leads.flush) started leads event

/-- At the end of a batch the beginning goes to the file. -/
theorem stands_batchEnd (some_ : front ≠ []) (leads : writer.file.Leads front disk)
    (started : writer.started = true) (ended : Bool) :
    (writer.batchEnd ended disk).1.file.Stands front (writer.batchEnd ended disk).2 := by
  rw [batchEnd]
  by_cases ends : ended ∧ !writer.finished
  · rw [if_pos ends, writeFrame, if_pos started]
    exact (leads.write some_ endFrame.encode).flush
  · rw [if_neg ends]
    exact leads.flush

/-- A recorder that was not started begins with its header, which waits in the buffer. -/
theorem IsFresh.waits_start (fresh : writer.IsFresh disk) :
    (writer.start disk).1.file.Waits (CacheHeader.encode ⟨writer.expiresAt⟩)
      (writer.start disk).2 := by
  obtain ⟨emptied, image⟩ := OutputFile.truncate_spec fresh.has fresh.pending
  have room : (CacheHeader.encode ⟨writer.expiresAt⟩).length <
      bufferSize - (writer.file.truncate disk).1.pending.length := by
    show _ < bufferSize - writer.file.pending.length
    rw [CacheHeader.length_encode, fresh.pending]
    decide
  rw [start]
  simp only [OutputFile.write, if_pos room]
  refine ⟨emptied.has, (List.append_eq_nil_iff.mp image).1, rfl, ?_⟩
  show _ <+: writer.file.pending ++ _
  rw [fresh.pending]
  exact List.prefix_rfl

end CacheWriter

/-! ### What a recorder does -/

/-- What is done with a recorder. -/
inductive Deed where
  /-- It takes an event. -/
  | takes (event : RowEvent)
  /-- It is closed. -/
  | closes (closing : CacheWriter.Closing)
  /-- It is given up. -/
  | abandons
  deriving DecidableEq, Repr

namespace Deed

/-- What is left of a recorder, and of the disk. -/
def run (writer : CacheWriter) (disk : Disk) : Deed → Option CacheWriter × Disk
  | takes event => (some (writer.apply event disk).1, (writer.apply event disk).2)
  | closes closing => (none, closing.close writer disk)
  | abandons => (none, (writer.abandon disk).state)

/-- A recorder that has not written anything writes a frame. -/
def writes : Deed → Bool
  | takes (.describe _) | takes (.row _) => true
  | takes (.outputBinds _) => false
  | takes (.batchEnd batch) => batch.endOfResultSet
  | closes closing => closing = .finish
  | abandons => false

/-- What was written goes to the file. -/
def flushes : Deed → Bool
  | takes (.batchEnd _) => true
  | takes _ => false
  | closes _ | abandons => true

variable {writer : CacheWriter} {disk : Disk} {front : Bytes}

/-- What has begun is closed and not given up. -/
theorem abandon_of_started (started : writer.started = true) :
    (writer.abandon disk).state = writer.detach disk := by
  rw [CacheWriter.abandon, if_neg (by simp [started])]
  rfl

/-- The file of a recorder begins with some bytes, and so it will if the recorder is
left. -/
def LeavesStanding (front : Bytes) (id : FileId) (left : Option CacheWriter × Disk) : Prop :=
  ∃ file : OutputFile, file.id = id ∧ file.Stands front left.2 ∧
    ∀ writer ∈ left.1, writer.started = true ∧ writer.file = file

/-- To close a recorder empties its buffer. -/
theorem leavesStanding_flush (after : CacheWriter × Disk) (keeps : writer.Keeps disk after)
    (leads : after.1.file.Leads front after.2) :
    LeavesStanding front writer.file.id (none, (after.1.flush after.2).2) :=
  ⟨(after.1.flush after.2).1.file,
    (OutputFile.keeps_flush after.1.file after.2).id_eq.trans keeps.id_eq, leads.flush,
    fun _ none => nomatch none⟩

theorem leavesStanding_close (some_ : front ≠ []) (started : writer.started = true)
    (leads : writer.file.Leads front disk) (closing : CacheWriter.Closing) :
    LeavesStanding front writer.file.id (none, closing.close writer disk) := by
  -- however the writer is let go of, its buffer is emptied
  have emptied := leavesStanding_flush (writer, disk) ⟨rfl, .refl _ _⟩ leads
  cases closing with
  | finish =>
    show LeavesStanding _ _ (none, writer.finish disk)
    rw [CacheWriter.finish]
    by_cases finished : writer.finished = true
    · rw [if_pos finished]
      exact emptied
    · rw [if_neg finished]
      exact leavesStanding_flush _ (writer.keeps_batchEnd true disk)
        (.inr (CacheWriter.stands_batchEnd some_ leads started true))
  | detach => exact emptied
  | drop => exact emptied

/-- Whatever is done with a recorder that writes behind the beginning of its file, the
file still begins so; and so it does if the beginning was in the buffer, and this is
emptied.  Otherwise it may be there still. -/
theorem run_of_leads (some_ : front ≠ []) (started : writer.started = true)
    (leads : writer.file.Leads front disk) (deed : Deed) :
    LeavesStanding front writer.file.id (deed.run writer disk) ∨
      deed.flushes = false ∧ writer.file.Waits front disk ∧
        ∃ left after, deed.run writer disk = (some left, after) ∧ left.started = true ∧
          left.file.id = writer.file.id ∧ left.file.Waits front after := by
  cases deed with
  | takes event =>
    have id_eq := (writer.keeps_apply event disk).id_eq
    obtain ⟨started', leads'⟩ := CacheWriter.started_of_leads some_ leads started event
    -- once the header stands in the file it stays there
    have left (stands : (writer.apply event disk).1.file.Stands front (writer.apply event disk).2) :
        LeavesStanding front writer.file.id (run writer disk (takes event)) :=
      ⟨_, id_eq, stands, fun _ same => Option.some.inj same ▸ ⟨started', rfl⟩⟩
    rcases leads with waits | stands
    · rcases leads' with waits' | stands'
      · cases event with
        | batchEnd batch =>
          -- a batch end empties the buffer
          exact .inl (left (CacheWriter.stands_batchEnd some_ (.inl waits) started _))
        | describe | outputBinds | row =>
          -- what is written joins the header in the buffer
          exact .inr ⟨rfl, waits, _, _, rfl, started', id_eq, waits'⟩
      · exact .inl (left stands')
    · exact .inl (left (CacheWriter.started_of_stands stands started event).2)
  | closes closing => exact .inl (leavesStanding_close some_ started leads closing)
  | abandons =>
    rw [run, abandon_of_started started]
    exact .inl (leavesStanding_close some_ started leads .detach)

/-- What is done with a recorder that was started changes nothing but its file. -/
theorem onlyChanges_run (started : writer.started = true) (disk : Disk) (deed : Deed) :
    Disk.OnlyChanges writer.file.id disk (deed.run writer disk).2 := by
  have flushed := (OutputFile.keeps_flush writer.file disk).only
  cases deed with
  | takes event => exact (writer.keeps_apply event disk).only
  | closes closing =>
    cases closing with
    | finish =>
      show Disk.OnlyChanges _ _ (writer.finish disk)
      rw [CacheWriter.finish]
      by_cases finished : writer.finished = true
      · rw [if_pos finished]
        exact flushed
      · rw [if_neg finished]
        exact ((writer.keeps_batchEnd true disk).trans (OutputFile.keeps_flush _ _)).only
    | detach => exact flushed
    | drop => exact flushed
  | abandons =>
    rw [run, abandon_of_started started]
    exact flushed

/-- The first frame is written behind a header. -/
theorem run_of_fresh (fresh : writer.IsFresh disk) {deed : Deed} (first : deed.writes = true) :
    deed.run writer disk = deed.run (writer.start disk).1 (writer.start disk).2 := by
  have headed := fresh.holds_start
  cases deed with
  | takes event =>
    cases event with
    | describe describe =>
      simp only [run, CacheWriter.apply, fresh.described, headed.described_eq, fresh.writeFrame_eq,
        Bool.false_eq_true, if_false]
    | outputBinds => contradiction
    | row row => simp only [run, CacheWriter.apply, fresh.writeFrame_eq]
    | batchEnd batch =>
      have ends : batch.endOfResultSet = true := first
      simp only [run, CacheWriter.apply, ends, fresh.batchEnd_true]
  | closes closing =>
    cases closing with
    | finish =>
      exact congrArg (none, ·) fresh.finish_eq
    | detach => contradiction
    | drop => contradiction
  | abandons => contradiction

/-- Without a frame the disk stays as it is, or the name of an empty file is removed. -/
theorem run_of_silent (fresh : writer.IsFresh disk) {deed : Deed} (silent : deed.writes = false) :
    deed.run writer disk = (some writer, disk) ∨ ∃ after, deed.run writer disk = (none, after) ∧
      (after = disk ∨ disk.bytesOf writer.file.id = [] ∧ disk.removeFile writer.path = .ok after) := by
  cases deed with
  | takes event =>
    refine .inl ?_
    cases event with
    | describe | row => contradiction
    | outputBinds => rfl
    | batchEnd batch =>
      have open_ : batch.endOfResultSet = false := silent
      show (some (writer.batchEnd batch.endOfResultSet disk).1,
        (writer.batchEnd batch.endOfResultSet disk).2) = _
      rw [open_, fresh.batchEnd_false]
  | closes closing =>
    have unwritten : writer.detach disk = disk := CacheWriter.detach_of_nil fresh.pending
    cases closing with
    | finish => contradiction
    | detach => exact .inr ⟨_, rfl, .inl unwritten⟩
    | drop => exact .inr ⟨_, rfl, .inl unwritten⟩
  | abandons =>
    refine .inr ⟨_, rfl, ?_⟩
    rw [CacheWriter.abandon, fresh.started]
    split
    · next empty =>
      split
      · next removed =>
        exact .inr ⟨List.isEmpty_iff.mp empty.2, removed⟩
      · exact .inl rfl
    · exact .inl (CacheWriter.detach_of_nil fresh.pending)

end Deed

/-! ### Files in use -/

/-- A disk, and the recorders that have one of its files open. -/
structure FileUse where
  /-- The recorders. -/
  writers : List CacheWriter
  /-- The disk. -/
  disk : Disk

namespace FileUse

/-- What is done with the file at a path. -/
inductive Act where
  /-- Something is done with one of the recorders. -/
  | does (i : Nat) (deed : Deed)
  /-- The file is cut off behind the header and so many bytes. -/
  | cuts (kept : Nat)
  /-- The file is continued, by one more recorder. -/
  | continues
  deriving DecidableEq, Repr

/-- What is left of the use of a file. -/
def after (path : String) (use : FileUse) : Act → FileUse
  | .does i deed =>
    match use.writers[i]? with
    | none => use
    | some writer =>
      let (left, disk) := deed.run writer use.disk
      ⟨use.writers.take i ++ left.toList ++ use.writers.drop (i + 1), disk⟩
  | .cuts kept =>
    match use.disk.openFile path with
    | .error _ => use
    | .ok id =>
      { use with
        disk := use.disk.setBytes id ((use.disk.bytesOf id).take (CacheHeader.size + kept)) }
  | .continues =>
    match CacheWriter.append path use.disk with
    | .ok writer disk => ⟨use.writers ++ [writer], disk⟩
    | .error _ disk => { use with disk }

/-- What is left if the recorder is the only one. -/
theorem after_does_only (path : String) (writer : CacheWriter) (disk : Disk) (deed : Deed) :
    FileUse.after path ⟨[writer], disk⟩ (.does 0 deed) =
      ⟨(deed.run writer disk).1.toList, (deed.run writer disk).2⟩ := by
  show FileUse.mk ([] ++ (deed.run writer disk).1.toList ++ []) (deed.run writer disk).2 = _
  rw [List.nil_append, List.append_nil]

/-- There is something in the file. -/
def IsWritten (path : String) (use : FileUse) : Prop :=
  ∃ bytes, use.disk.bytesAt? path = some bytes ∧ bytes ≠ []

/-- The file begins with a header, and every recorder writes behind it. -/
structure Stands (path : String) (header : CacheHeader) (id : FileId) (use : FileUse) : Prop where
  /-- The path leads to the file. -/
  found : use.disk.openFile path = .ok id
  /-- The header is in front. -/
  begins : header.encode <+: use.disk.bytesOf id
  /-- Each recorder was started and writes to the file, behind the header. -/
  writers : ∀ writer ∈ use.writers,
    writer.started = true ∧ writer.file.id = id ∧ header.encode.length ≤ writer.file.position

/-- The file is empty, and the header waits in the buffer of the one recorder. -/
def Waits (path : String) (header : CacheHeader) (use : FileUse) : Prop :=
  ∃ writer, use.writers = [writer] ∧ use.disk.openFile path = .ok writer.file.id ∧
    writer.started = true ∧ writer.file.Waits header.encode use.disk

/-- The header is in front of the file, or will be. -/
def IsHeaded (path : String) (header : CacheHeader) (use : FileUse) : Prop :=
  use.Waits path header ∨ ∃ id, use.Stands path header id

variable {path : String} {header : CacheHeader} {id : FileId} {use : FileUse}

theorem encode_ne_nil (header : CacheHeader) : header.encode ≠ [] := by
  intro none
  have length := header.length_encode
  rw [none] at length
  contradiction

namespace Stands

theorem bytes_ne_nil (stands : use.Stands path header id) : use.disk.bytesOf id ≠ [] := by
  intro empty
  have begins := stands.begins
  rw [empty, List.prefix_nil] at begins
  exact encode_ne_nil header begins

theorem has (stands : use.Stands path header id) : use.disk.Has id :=
  Disk.has_of_bytesOf_ne_nil stands.bytes_ne_nil

theorem isWritten (stands : use.Stands path header id) : use.IsWritten path :=
  ⟨_, Disk.bytesAt?_eq stands.found, stands.bytes_ne_nil⟩

theorem file (stands : use.Stands path header id) {writer : CacheWriter}
    (mem : writer ∈ use.writers) : writer.file.Stands header.encode use.disk := by
  obtain ⟨-, rfl, behind⟩ := stands.writers writer mem
  exact ⟨stands.has, stands.begins, behind⟩

/-- What is done with a recorder leaves the header in front of the file. -/
theorem after_does (stands : use.Stands path header id) (i : Nat) (deed : Deed) :
    (use.after path (.does i deed)).Stands path header id := by
  rw [FileUse.after]
  split
  · exact stands
  · next writer at_ =>
    have mem := List.mem_of_getElem? at_
    obtain ⟨started, rfl, behind⟩ := stands.writers writer mem
    have only := Deed.onlyChanges_run started use.disk deed
    rcases Deed.run_of_leads (encode_ne_nil header) started (.inr (stands.file mem)) deed with
      ⟨file, id_eq, standing, left⟩ | ⟨-, waits, -⟩
    · -- the header stays at the front of the file, which every writer has
      refine ⟨(Disk.openFile_congr only.entries_eq path).trans stands.found, ?_, ?_⟩
      · exact id_eq ▸ standing.begins
      · intro other mem
        rcases List.mem_append.mp mem with inFront | behind
        · rcases List.mem_append.mp inFront with inFront | same
          · exact stands.writers other (List.mem_of_mem_take inFront)
          · obtain ⟨started, rfl⟩ := left other (Option.mem_toList.mp same)
            exact ⟨started, id_eq, standing.behind⟩
        · exact stands.writers other (List.mem_of_mem_drop behind)
    · -- the file is not empty, so the header is not in the buffer
      exact absurd waits.empty stands.bytes_ne_nil

/-- So does it to cut off what stands behind the header. -/
theorem after_cuts (stands : use.Stands path header id) (kept : Nat) :
    (use.after path (.cuts kept)).Stands path header id := by
  rw [FileUse.after, stands.found]
  refine ⟨stands.found, ?_, stands.writers⟩
  show _ <+: (use.disk.setBytes id _).bytesOf id
  rw [Disk.bytesOf_setBytes stands.has]
  refine List.prefix_take_iff.mpr ⟨stands.begins, ?_⟩
  rw [header.length_encode]
  exact Nat.le_add_right ..

/-- A recorder that continues the file begins behind the header. -/
theorem after_continues (stands : use.Stands path header id) :
    (use.after path .continues).Stands path header id := by
  rw [FileUse.after]
  split
  · next writer disk appended =>
    obtain ⟨other, header', extent, found, -, scanned, rfl, rfl⟩ := CacheWriter.append_ok appended
    obtain rfl := Except.ok.inj (found.symm.trans stands.found)
    -- the scan begins behind the header, and so ends behind it
    have behind : header.encode.length ≤ extent.length := by
      obtain ⟨_, _, -, length⟩ := CacheWriter.exists_frames_of_scan scanned
      rw [header.length_encode, length]
      exact Nat.le_add_right ..
    refine ⟨?_, Disk.prefix_setLength stands.has stands.begins behind, ?_⟩
    · exact (Disk.openFile_congr (Disk.onlyChanges_setLength ..).entries_eq path).trans found
    · intro writer mem
      rcases List.mem_append.mp mem with old | new
      · exact stands.writers writer old
      · obtain rfl := List.mem_singleton.mp new
        exact ⟨rfl, rfl, behind⟩
  · next e disk failed =>
    obtain ⟨rfl, -⟩ := CacheWriter.append_error failed
    exact stands

/-- Once the header is in front of the file, it stays there. -/
theorem after (stands : use.Stands path header id) (act : Act) :
    (use.after path act).Stands path header id := by
  cases act with
  | does i deed => exact stands.after_does i deed
  | cuts kept => exact stands.after_cuts kept
  | continues => exact stands.after_continues

end Stands

namespace Waits

/-- A header that waits stays where it is, or goes to the file; and this it does when
the buffer is emptied. -/
theorem after_does (waits : use.Waits path header) (deed : Deed) :
    (∃ id, (use.after path (.does 0 deed)).Stands path header id) ∨
      (use.after path (.does 0 deed)).Waits path header ∧ deed.flushes = false := by
  obtain ⟨writers, disk⟩ := use
  obtain ⟨writer, rfl, found, started, waiting⟩ := waits
  have only := Deed.onlyChanges_run started disk deed
  have found' := (Disk.openFile_congr only.entries_eq path).trans found
  rw [after_does_only]
  rcases Deed.run_of_leads (encode_ne_nil header) started (.inl waiting) deed with
    ⟨file, id_eq, standing, left⟩ | ⟨kept, -, writer', disk', ran, started', id_eq, waiting'⟩
  · refine .inl ⟨writer.file.id, found', id_eq ▸ standing.begins, fun other mem => ?_⟩
    obtain ⟨started, rfl⟩ := left other (Option.mem_toList.mp mem)
    exact ⟨started, id_eq, standing.behind⟩
  · rw [ran] at found' ⊢
    exact .inr ⟨⟨writer', rfl, id_eq ▸ found', started', waiting'⟩, kept⟩

/-- From an empty file nothing can be cut off. -/
theorem after_cuts (waits : use.Waits path header) (kept : Nat) :
    use.after path (.cuts kept) = use := by
  obtain ⟨writer, -, found, -, waiting⟩ := waits
  have unchanged : use.disk.setBytes writer.file.id [] = use.disk := by
    have put := Disk.setBytes_bytesOf use.disk writer.file.id
    rwa [waiting.empty] at put
  rw [FileUse.after, found]
  simp only [waiting.empty, List.take_nil, unchanged]

/-- Nor can it be continued. -/
theorem after_continues (waits : use.Waits path header) : use.after path .continues = use := by
  obtain ⟨writer, -, found, -, waiting⟩ := waits
  rw [FileUse.after]
  split
  · next appended =>
    -- an empty file has no header yet
    obtain ⟨other, header', extent, found', parsed, -⟩ := CacheWriter.append_ok appended
    obtain rfl := Except.ok.inj (found'.symm.trans found)
    rw [waiting.empty] at parsed
    contradiction
  · next e disk failed =>
    obtain ⟨rfl, -⟩ := CacheWriter.append_error failed
    rfl

theorem after (waits : use.Waits path header) (act : Act) :
    (∃ id, (use.after path act).Stands path header id) ∨ (use.after path act).Waits path header := by
  cases act with
  | does i deed =>
    cases i with
    | zero => exact (waits.after_does deed).imp_right And.left
    | succ i =>
      -- there is but one recorder
      obtain ⟨writer, alone, -⟩ := id waits
      rw [FileUse.after, alone]
      exact .inr waits
  | cuts kept => exact .inr ((waits.after_cuts kept).symm ▸ waits)
  | continues => exact .inr (waits.after_continues.symm ▸ waits)

end Waits

theorem IsHeaded.after (headed : use.IsHeaded path header) (act : Act) :
    (use.after path act).IsHeaded path header := by
  rcases headed with waits | ⟨id, stands⟩
  · exact (waits.after act).symm
  · exact .inr ⟨id, stands.after act⟩

theorem IsHeaded.foldl (headed : use.IsHeaded path header) (acts : List Act) :
    (acts.foldl (FileUse.after path) use).IsHeaded path header := by
  induction acts generalizing use with
  | nil => exact headed
  | cons act acts ih => exact ih (headed.after act)

theorem Stands.foldl (stands : use.Stands path header id) (acts : List Act) :
    (acts.foldl (FileUse.after path) use).Stands path header id := by
  induction acts generalizing use with
  | nil => exact stands
  | cons act acts ih => exact ih (stands.after act)

/-- A file that holds anything begins with its header. -/
theorem IsHeaded.stands (headed : use.IsHeaded path header) (written : use.IsWritten path) :
    ∃ id, use.Stands path header id := by
  rcases headed with ⟨writer, -, found, -, waiting⟩ | stands
  · obtain ⟨bytes, there, some_⟩ := written
    rw [Disk.bytesAt?_eq found, waiting.empty] at there
    exact absurd (Option.some.inj there).symm some_
  · exact stands

end FileUse

end ProxyClient
