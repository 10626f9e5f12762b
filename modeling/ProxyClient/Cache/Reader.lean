/-
ProxyClient/Cache/Reader.lean

Reading a recorded result set back.  The rows are handed out page by page,
as a server would: some are skipped, then at most a page is handed over, and
a batch end tells how many were skipped and whether the file came to its
end.  The last complete row of a file without an end frame is its end.
-/
import ProxyClient.Cache.Writer

namespace ProxyClient

/-- A recorded result set that is being read. -/
structure CacheReader where
  /-- The path of the file. -/
  path : String
  /-- The open file. -/
  file : InputFile
  /-- The description of the result set. -/
  describe : Describe
  /-- The end was read. -/
  finished : Bool := false
  deriving DecidableEq, Repr

namespace CacheReader

/-- A damaged frame means a damaged file. -/
def corruptIfTorn : Error → Error
  | .io .unexpectedEnd => .cache .corrupt
  | .wire _ => .cache .corrupt
  | e => e

/-- Reads the next frame of an open file. -/
def readFrom (file : InputFile) (disk : Disk) : FrameRead × InputFile :=
  let (read, view) := readFrame (InputView.mk file (disk.bytesOf file.id))
  (read, view.file)

/-- Opens a recorded result set.  The header must not be expired at `now`, and
a description must follow it. -/
def openAt (path : String) (now : Int64) (disk : Disk) : Except Error CacheReader := do
  let id ← CacheWriter.openExisting path disk
  let view : InputView := ⟨{ id }, disk.bytesOf id⟩
  let (header, view) := ByteSource.readExact view CacheHeader.size
  match header with
  | .error e => throw (corruptIfTorn (.io e))
  | .ok bytes =>
    match CacheHeader.parse? bytes with
    | none => throw (.cache .corrupt)
    | some header =>
      if header.isExpired now then throw (.cache .expired)
      match readFrom view.file disk with
      | (.failed _ e, _) => throw (corruptIfTorn e)
      | (.ended, _) => throw (.cache .corrupt)
      | (.frame frame, file) =>
        if frame.type ≠ ServerMessage.Kind.describe.toByte then throw (.cache .corrupt)
        match decoded Describe.decoder frame.payload with
        | .ok describe => return { path, file, describe }
        | .error _ => throw (.cache .corrupt)

/-- Opens a recorded result set, which must not be expired at the time on the clock. -/
def openNow (path : String) (clock : Int64) (disk : Disk) : Except Error CacheReader :=
  openAt path (CacheHeader.timeOn clock) disk

/-- Hands over the description. -/
def feedDescribe {η : Type} (reader : CacheReader) (handler : Handler η) (state : η) :
    Outcome Unit η :=
  handler (.describe reader.describe) state

/-- Reads the payload of the next row; nothing at the end.  The end of the
file and an end frame are remembered. -/
def nextRow (reader : CacheReader) (disk : Disk) : Outcome (Option Bytes) CacheReader :=
  if reader.finished then .ok none reader
  else
    match readFrom reader.file disk with
    | (.failed _ e, file) => .error (corruptIfTorn e) { reader with file }
    | (.ended, file) => .ok none { reader with file, finished := true }
    | (.frame frame, file) =>
      match ServerMessage.Kind.ofByte? frame.type with
      | some .dataRow => .ok (some frame.payload) { reader with file }
      | some .batchEnd => .ok none { reader with file, finished := true }
      | _ => .error (.cache .corrupt) { reader with file }

/-- Skips rows, and tells how many there were to skip. -/
def skipRows (disk : Disk) : Nat → CacheReader → Outcome Nat CacheReader
  | 0, reader => .ok 0 reader
  | count + 1, reader =>
    match reader.nextRow disk with
    | .error e reader => .error e reader
    | .ok none reader => .ok 0 reader
    | .ok (some _) reader =>
      match skipRows disk count reader with
      | .ok skipped reader => .ok (skipped + 1) reader
      | .error e reader => .error e reader

section

variable {η : Type} (handler : Handler η) (diskOf : η → Disk)

/-- Hands over at most as many rows. -/
def sendRows : Nat → CacheReader → η → Outcome Unit (CacheReader × η)
  | 0, reader, state => .ok () (reader, state)
  | count + 1, reader, state =>
    match reader.nextRow (diskOf state) with
    | .error e reader => .error e (reader, state)
    | .ok none reader => .ok () (reader, state)
    | .ok (some payload) reader =>
      match decoded DataRow.decoder payload with
      | .error _ => .error (.cache .corrupt) (reader, state)
      | .ok row =>
        match handler (.row row) state with
        | .error e state => .error e (reader, state)
        | .ok () state => sendRows count reader state

/-- The number of rows that a page may have: as many as asked for, and for
zero more than the file can hold. -/
def pageLimit (reader : CacheReader) (limit : Nat) (disk : Disk) : Nat :=
  if limit = 0 then InputView.remaining ⟨reader.file, disk.bytesOf reader.file.id⟩ + 1 else limit

/-- Skips rows, hands over a page, and closes it with a batch end. -/
def fetch (skip limit : Nat) (reader : CacheReader) (state : η) :
    Outcome Unit (CacheReader × η) :=
  match skipRows (diskOf state) skip reader with
  | .error e reader => .error e (reader, state)
  | .ok skipped reader =>
    match sendRows handler diskOf (reader.pageLimit limit (diskOf state)) reader state with
    | .error e s => .error e s
    | .ok () (reader, state) =>
      (handler (.batchEnd ⟨reader.finished, UInt64.ofNat skipped⟩) state).mapState (reader, ·)

end

end CacheReader

end ProxyClient
