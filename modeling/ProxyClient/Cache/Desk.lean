/-
ProxyClient/Cache/Desk.lean

A program that works with cache files alone: it writes at most one and reads
at most one at a time, and may copy rows from the one into the other.
-/
import ProxyClient.Cache.Reader

namespace ProxyClient

/-- A program that writes at most one cache file and reads at most one. -/
structure CacheDesk where
  /-- The disk. -/
  disk : Disk
  /-- The clock, in seconds. -/
  now : Int64
  /-- The file that is written. -/
  writer : Option CacheWriter := none
  /-- The file that is read. -/
  reader : Option CacheReader := none
  deriving Repr

namespace CacheDesk

/-- Closes the file that is written in a given way. -/
def closeWriter (close : CacheWriter → Disk → Outcome Unit Disk) (desk : CacheDesk) :
    Outcome Unit CacheDesk :=
  match desk.writer with
  | none => .ok () desk
  | some writer =>
    (close writer desk.disk).mapState fun disk => { desk with writer := none, disk }

/-- Closes the file that is written without an end frame. -/
def dropWriter (desk : CacheDesk) : CacheDesk :=
  (desk.closeWriter fun writer disk => .ok () (writer.detach disk)).state

/-- Opens a file to write.  The former one is closed once the new one is open. -/
def startWriting (start : Disk → Outcome CacheWriter Disk) (desk : CacheDesk) :
    Outcome Unit CacheDesk :=
  match start desk.disk with
  | .error e disk => .error e { desk with disk }
  | .ok writer disk => .ok () { { desk with disk }.dropWriter with writer := some writer }

/-- Opens a file to read. -/
def startReading (start : Disk → Except Error CacheReader) (desk : CacheDesk) :
    Outcome Unit CacheDesk :=
  match start desk.disk with
  | .error e => .error e desk
  | .ok reader => .ok () { desk with reader := some reader }

/-- Writes an event. -/
def record (event : RowEvent) (desk : CacheDesk) : CacheDesk :=
  match desk.writer with
  | none => desk
  | some writer =>
    let (writer, disk) := writer.apply event desk.disk
    { desk with writer := some writer, disk }

/-- Reads a page, and hands it over. -/
def fetch {η : Type} (handler : Handler η) (skip limit : Nat) (desk : CacheDesk) (state : η) :
    Outcome Unit (CacheDesk × η) :=
  match desk.reader with
  | none => .ok () (desk, state)
  | some reader =>
    (reader.fetch handler (fun _ => desk.disk) skip limit state).mapState fun (reader, state) =>
      ({ desk with reader := some reader }, state)

/-- Copies a page from the file that is read into the one that is written. -/
def copy (skip limit : Nat) (desk : CacheDesk) : Outcome Unit CacheDesk :=
  match desk.reader, desk.writer with
  | some reader, some writer =>
    (reader.fetch CacheWriter.handler Prod.snd skip limit (writer, desk.disk)).mapState
      fun (reader, writer, disk) =>
        { desk with reader := some reader, writer := some writer, disk }
  | _, _ => .ok () desk

end CacheDesk

end ProxyClient
