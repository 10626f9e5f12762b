/-
ProxyClient/Cursor/Basic.lean

Cursors.  A cursor runs statements on a session, one at a time, and holds
one page of the current result set.  A recorder may copy what the server
sends into a cache file, and the rows may come from a cache file in place of
the server.

While a cursor is open it has the session to itself, so the session is a
part of it, and so are the disk and the time.
-/
import ProxyClient.Cache.Reader
import ProxyClient.Exchange.Query
import ProxyClient.ResultSet
import ProxyClient.Session.Basic
import ProxyClient.Substitution

namespace ProxyClient

/-- A statement executor and row reader. -/
structure Cursor (ν : Type) where
  /-- The session. -/
  session : Session ν
  /-- The disk with the cache files. -/
  disk : Disk
  /-- The clock, in seconds. -/
  now : Int64
  /-- The statement to run. -/
  sql : String := ""
  /-- The bind variables of the statement. -/
  binds : BindSet := {}
  /-- The substitutions for the statement. -/
  substitutions : Substitutions := {}
  /-- Bind variables without a placeholder are refused. -/
  validates : Bool := false
  /-- The rows to fetch at once; zero for all. -/
  bufferSize : UInt32 := 0
  /-- Columns are to be described. -/
  columnInfo : Bool := true
  /-- Null is to be read as the empty text. -/
  nullsAsEmpty : Bool := false
  /-- The file into which the next statement is recorded. -/
  cacheTarget : Option String := none
  /-- The seconds after which files recorded from now on expire; zero for never. -/
  cacheTtl : Nat := 600
  /-- The file into which the current result set is recorded. -/
  recorder : Option CacheWriter := none
  /-- The file from which the rows come, if it is not the server. -/
  source : Option CacheReader := none
  /-- The page of the current result set. -/
  result : ResultSet := {}
  /-- The epoch of the connection in which the result set was opened. -/
  epoch : Nat
  /-- The message and the number of the last error. -/
  error : Option (String × Int64) := none
  deriving Repr

namespace Cursor

variable {ν : Type}

/-- Opens a cursor on a session. -/
def onSession (session : Session ν) (disk : Disk) (now : Int64) : Cursor ν :=
  { session, disk, now, epoch := session.connection.epoch }

/-! ### Parts of a cursor -/

/-- Does something with the session. -/
def withSession {α : Type} (action : Session ν → Outcome α (Session ν)) (cursor : Cursor ν) :
    Outcome α (Cursor ν) :=
  (action cursor.session).mapState fun session => { cursor with session }

/-- What takes the answers to queries: the page, the recorder, and the disk
on which the recorder writes. -/
abbrev Reception := ResultSet × (Option CacheWriter × Disk)

/-- The page takes every event first, and then the recorder. -/
def reception : Handler Reception :=
  Handler.tee ResultSet.handler CacheWriter.optionalHandler

/-- The disk behind a reception. -/
def Reception.disk (parts : Reception) : Disk :=
  parts.2.2

/-- The parts that take an answer. -/
def parts (cursor : Cursor ν) : Reception :=
  (cursor.result, cursor.recorder, cursor.disk)

/-- Puts the parts back that took an answer. -/
def withParts (cursor : Cursor ν) (parts : Reception) : Cursor ν :=
  { cursor with result := parts.1, recorder := parts.2.1, disk := parts.2.2 }

/-- Remembers an error: in the words of the backend if it has any. -/
def note (cursor : Cursor ν) (e : Error) : Cursor ν :=
  { cursor with error := some (match e.server? with
      | some report => (report.message, report.code)
      | none => (e.message, 0)) }

/-- Forgets the last error, and remembers that of an action. -/
def noting (action : Cursor ν → Outcome Unit (Cursor ν)) (cursor : Cursor ν) :
    Outcome Unit (Cursor ν) :=
  match action { cursor with error := none } with
  | .ok () cursor => .ok () cursor
  | .error e cursor => .error e (cursor.note e)

/-- The result set that is open at the server and has more rows. -/
def openAtServer? (cursor : Cursor ν) : Option ResultSetId :=
  if cursor.source.isNone ∧ !cursor.result.ended ∧ !cursor.result.suspended then
    cursor.result.id
  else none

/-- How the next result set is to be sent. -/
def executeOptions (cursor : Cursor ν) : ExecuteOptions :=
  ⟨cursor.columnInfo, cursor.bufferSize⟩

/-! ### The recorder -/

/-- Closes the recorder without an end frame. -/
def detachRecorder (cursor : Cursor ν) : Cursor ν :=
  match cursor.recorder with
  | none => cursor
  | some writer => { cursor with recorder := none, disk := writer.detach cursor.disk }

/-- Gives the recorder of a failed statement up.  Whether its file could be
removed does not matter. -/
def abandonRecorder (cursor : Cursor ν) : Cursor ν :=
  match cursor.recorder with
  | none => cursor
  | some writer => { cursor with recorder := none, disk := (writer.abandon cursor.disk).state }

/-- Starts a recorder in a file that is yet to be written. -/
def createRecorder (path : String) (cursor : Cursor ν) : Outcome Unit (Cursor ν) :=
  match CacheWriter.create path cursor.cacheTtl cursor.now cursor.disk with
  | .ok writer disk => .ok () { cursor with recorder := some writer, disk }
  | .error e disk => .error e { cursor with disk }

/-- Starts a recorder in the target, if there is one. -/
def createTarget (cursor : Cursor ν) : Outcome Unit (Cursor ν) :=
  match cursor.cacheTarget with
  | some path => cursor.createRecorder path
  | none => .ok () cursor

/-- Starts a recorder that continues a file, or creates it if there is none. -/
def continueRecorder (path : String) (cursor : Cursor ν) : Outcome Unit (Cursor ν) :=
  match CacheWriter.append path cursor.disk with
  | .ok writer disk => .ok () { cursor with recorder := some writer, disk }
  | .error (.cache .notFound) disk => { cursor with disk }.createRecorder path
  | .error e disk => .error e { cursor with disk }

/-! ### Asking the server -/

variable [Network ν]

/-- Sends a request, and lets the page and the recorder take the answer. -/
def query (request : QueryRequest) (cursor : Cursor ν) : Outcome Unit (Cursor ν) :=
  (cursor.session.run (Query.exchange request reception) { handler := cursor.parts }).mapState
    fun (session, query) => { cursor with session }.withParts query.handler

/-- After the session was parked or replaced, a page of a result set at the
server is given up, and its recorder closed so that it can be continued. -/
def checkEpoch (cursor : Cursor ν) : Cursor ν :=
  if cursor.source.isNone ∧ cursor.result.id.isSome ∧ !cursor.result.suspended ∧
      cursor.session.connection.epoch ≠ cursor.epoch then
    { cursor with result := cursor.result.suspend }.detachRecorder
  else cursor

end Cursor

end ProxyClient
