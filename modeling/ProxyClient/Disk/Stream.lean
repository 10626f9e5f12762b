/-
ProxyClient/Disk/Stream.lean

Open files with a buffer.  What is written waits in the buffer until it is
full or flushed.  What is read comes in blocks, so that bytes which were
read ahead are delivered even when the file has changed since.
-/
import ProxyClient.Disk.Basic
import ProxyClient.Wire.Source

namespace ProxyClient

/-- The number of bytes that a buffer holds. -/
def bufferSize : Nat := 8192

/-! ### Writing -/

/-- A file open for writing. -/
structure OutputFile where
  /-- The file. -/
  id : FileId
  /-- Where the next byte goes once it leaves the buffer. -/
  position : Nat := 0
  /-- The bytes in the buffer. -/
  pending : Bytes := []
  deriving DecidableEq, Repr

namespace OutputFile

/-- Writes bytes past the buffer. -/
def writeThrough (file : OutputFile) (bytes : Bytes) (disk : Disk) : OutputFile × Disk :=
  ({ file with position := file.position + bytes.length },
    disk.writeAt file.id file.position bytes)

/-- Empties the buffer into the file. -/
def flush (file : OutputFile) (disk : Disk) : OutputFile × Disk :=
  { file with pending := [] }.writeThrough file.pending disk

/-- Writes bytes.  They go into the buffer if they leave room in it; if not,
the buffer is flushed unless they fill it exactly, and they go past the
buffer if they would fill it alone. -/
def write (file : OutputFile) (bytes : Bytes) (disk : Disk) : OutputFile × Disk :=
  let spare := bufferSize - file.pending.length
  if bytes.length < spare then ({ file with pending := file.pending ++ bytes }, disk)
  else
    let (file, disk) := if spare < bytes.length then file.flush disk else (file, disk)
    if bufferSize ≤ bytes.length then file.writeThrough bytes disk
    else ({ file with pending := file.pending ++ bytes }, disk)

/-- Empties the file at once, past the buffer. -/
def truncate (file : OutputFile) (disk : Disk) : OutputFile × Disk :=
  ({ file with position := 0 }, disk.setLength file.id 0)

end OutputFile

/-! ### Reading -/

/-- A file open for reading. -/
structure InputFile where
  /-- The file. -/
  id : FileId
  /-- Where the next block begins. -/
  position : Nat := 0
  /-- The bytes of the last block that were not taken. -/
  buffered : Bytes := []
  deriving DecidableEq, Repr

/-- A file open for reading, with its bytes as they are now. -/
structure InputView where
  /-- The open file. -/
  file : InputFile
  /-- The bytes of the file. -/
  bytes : Bytes
  deriving Repr

namespace InputView

/-- Reads at most `n` bytes: from the buffer if it holds any, past it if the
buffer is empty and could not hold as many, and else through it. -/
def read (view : InputView) (n : Nat) : ReadOutcome × InputView :=
  let file := view.file
  if file.buffered.isEmpty then
    let block := (view.bytes.drop file.position).take (max n bufferSize)
    let file := { file with position := file.position + block.length, buffered := block.drop n }
    (.data (block.take n), { view with file })
  else
    (.data (file.buffered.take n),
      { view with file := { file with buffered := file.buffered.drop n } })

/-- The number of bytes still to be read. -/
def remaining (view : InputView) : Nat :=
  view.file.buffered.length + (view.bytes.drop view.file.position).length

instance : ByteSource InputView where
  read := read
  remaining := remaining
  interruptions _ := 0
  remaining_add_le := by
    intro view n
    simp only [read, remaining]
    split <;> simp [ReadOutcome.size] <;> omega
  interruptions_lt := by
    intro view n view' h
    simp only [read] at h
    split at h <;> simp at h

end InputView

end ProxyClient
