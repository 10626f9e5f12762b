/-
ProxyClient/Cache/Writer.lean

Recording a result set in a file: after the header come the frames of the
description and the rows as the server sent them, and the frame of a batch
end once the result set is complete.

A file that is created keeps its old contents until the first frame, so a
statement that the server rejects does no harm to a file of that name.  A
file without an end frame can be continued.
-/
import ProxyClient.Cache.Header
import ProxyClient.Disk.Stream
import ProxyClient.RowHandler

namespace ProxyClient

/-- A file in which a result set is recorded. -/
structure CacheWriter where
  /-- The path of the file. -/
  path : String
  /-- The open file. -/
  file : OutputFile
  /-- The expiry for the header. -/
  expiresAt : Int64
  /-- The header is written. -/
  started : Bool
  /-- The description is written. -/
  described : Bool
  /-- The end frame is written. -/
  finished : Bool
  deriving DecidableEq, Repr

namespace CacheWriter

/-- The frame that closes a recorded result set. -/
def endFrame : Frame :=
  BatchEnd.frame ⟨true, 0⟩

/-! ### Opening -/

/-- A file that will expire at a given time. -/
def createWithExpiry (path : String) (expiresAt : Int64) (disk : Disk) :
    Outcome CacheWriter Disk :=
  match disk.createFile path with
  | .error e => .error (.io e) disk
  | .ok (id, disk) =>
    .ok { path, file := { id }, expiresAt, started := false, described := false, finished := false }
      disk

/-- A file that will expire `ttl` seconds after the time on the clock; never for zero. -/
def create (path : String) (ttl : Nat) (clock : Int64) (disk : Disk) : Outcome CacheWriter Disk :=
  createWithExpiry path (CacheHeader.expiryAfter (CacheHeader.timeOn clock) ttl) disk

/-- The file at a path; a missing file is a cache that was not found. -/
def openExisting (path : String) (disk : Disk) : Except Error FileId :=
  match disk.openFile path with
  | .ok id => .ok id
  | .error .notFound => .error (.cache .notFound)
  | .error e => .error (.io e)

/-- Takes the first frame off a byte string. -/
def nextFrame? (bytes : Bytes) : Option (Frame × Bytes) :=
  match bytes with
  | type :: a :: b :: c :: d :: rest =>
    match Frame.payloadLength [a, b, c, d] with
    | .ok count =>
      if count ≤ rest.length then some (⟨type, rest.take count⟩, rest.drop count) else none
    | .error _ => none
  | _ => none

theorem length_lt_of_nextFrame? {bytes rest : Bytes} {frame : Frame}
    (h : nextFrame? bytes = some (frame, rest)) : rest.length < bytes.length := by
  unfold nextFrame? at h
  split at h
  · split at h
    · split at h
      · obtain ⟨-, rfl⟩ := Prod.mk.inj (Option.some.inj h)
        simp only [List.length_drop, List.length_cons]
        omega
      · exact absurd h (by simp)
    · exact absurd h (by simp)
  · exact absurd h (by simp)

/-- What the frames of a cache file hold: whether there is a description, and
the number of bytes up to the end of the last complete description or row. -/
structure Extent where
  /-- There is a description. -/
  described : Bool
  /-- The number of bytes to keep. -/
  length : Nat
  deriving DecidableEq, Repr

/-- Walks over complete frames, up to an end frame or a frame that is torn.
Nothing for a frame of another type. -/
def scan (found : Extent) (bytes : Bytes) : Option Extent :=
  match h : nextFrame? bytes with
  | none => some found
  | some (frame, rest) =>
    have := length_lt_of_nextFrame? h
    let length := found.length + Frame.headerLength + frame.payload.length
    match ServerMessage.Kind.ofByte? frame.type with
    | some .describe => scan ⟨true, length⟩ rest
    | some .dataRow => scan { found with length } rest
    | some .batchEnd => some found
    | _ => none
termination_by bytes.length

/-- Continues a file.  An end frame and a torn frame are cut off, and the
header stays as it is. -/
def append (path : String) (disk : Disk) : Outcome CacheWriter Disk :=
  match openExisting path disk with
  | .error e => .error e disk
  | .ok id =>
    let bytes := disk.bytesOf id
    match CacheHeader.parse? bytes with
    | none => .error (.cache .corrupt) disk
    | some _ =>
      match scan ⟨false, CacheHeader.size⟩ (bytes.drop CacheHeader.size) with
      | none => .error (.cache .corrupt) disk
      | some extent =>
        .ok
          { path, file := { id, position := extent.length }, expiresAt := 0, started := true,
            described := extent.described, finished := false }
          (disk.setLength id extent.length)

/-! ### Writing -/

/-- Empties the file and writes the header. -/
def start (writer : CacheWriter) (disk : Disk) : CacheWriter × Disk :=
  let (file, disk) := writer.file.truncate disk
  let (file, disk) := file.write (CacheHeader.encode ⟨writer.expiresAt⟩) disk
  ({ writer with file, started := true }, disk)

/-- Writes a frame, the first after a header. -/
def writeFrame (writer : CacheWriter) (frame : Frame) (disk : Disk) : CacheWriter × Disk :=
  let (writer, disk) := if writer.started then (writer, disk) else writer.start disk
  let (file, disk) := writer.file.write frame.encode disk
  ({ writer with file }, disk)

/-- Hands everything written to the disk. -/
def flush (writer : CacheWriter) (disk : Disk) : CacheWriter × Disk :=
  let (file, disk) := writer.file.flush disk
  ({ writer with file }, disk)

/-- Takes the end of a batch.  The end of the result set is written once. -/
def batchEnd (writer : CacheWriter) (ended : Bool) (disk : Disk) : CacheWriter × Disk :=
  let (writer, disk) :=
    if ended ∧ !writer.finished then
      let (writer, disk) := writer.writeFrame endFrame disk
      ({ writer with finished := true }, disk)
    else (writer, disk)
  writer.flush disk

/-- Takes an event.  Only the first description is written. -/
def apply (event : RowEvent) (writer : CacheWriter) (disk : Disk) : CacheWriter × Disk :=
  match event with
  | .describe describe =>
    if writer.described then (writer, disk)
    else
      let (writer, disk) := writer.writeFrame describe.frame disk
      ({ writer with described := true }, disk)
  | .outputBinds _ => (writer, disk)
  | .row row => writer.writeFrame row.frame disk
  | .batchEnd batch => writer.batchEnd batch.endOfResultSet disk

/-- A writer takes every event. -/
def handler : Handler (CacheWriter × Disk) :=
  fun event (writer, disk) => .ok () (writer.apply event disk)

/-- A writer that may be absent, and then nothing is written. -/
def optionalHandler : Handler (Option CacheWriter × Disk)
  | _, (none, disk) => .ok () (none, disk)
  | event, (some writer, disk) =>
    let (writer, disk) := writer.apply event disk
    .ok () (some writer, disk)

/-! ### Closing -/

/-- Writes the end frame if it is missing, and closes the file. -/
def finish (writer : CacheWriter) (disk : Disk) : Disk :=
  let (writer, disk) := if writer.finished then (writer, disk) else writer.batchEnd true disk
  (writer.flush disk).2

/-- Closes the file without an end frame, so that it can be continued. -/
def detach (writer : CacheWriter) (disk : Disk) : Disk :=
  (writer.flush disk).2

/-- Gives up a file for a result set that never came: if nothing was written
and the file is empty, its name is removed. -/
def abandon (writer : CacheWriter) (disk : Disk) : Outcome Unit Disk :=
  if !writer.started ∧ (disk.bytesOf writer.file.id).isEmpty then
    match disk.removeFile writer.path with
    | .ok disk => .ok () disk
    | .error e => .error (.io e) disk
  else .ok () (writer.detach disk)

end CacheWriter

end ProxyClient
