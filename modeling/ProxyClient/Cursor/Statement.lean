/-
ProxyClient/Cursor/Statement.lean

The life of a result set: a statement opens it, it may be parked at the
server and attached to again, it may be read from a cache file, and it is
closed before the next one.
-/
import ProxyClient.Cursor.Rows

namespace ProxyClient.Cursor

variable {ν : Type} [Network ν]

/-! ### Closing -/

/-- Lets a recorder take the rows that nobody has read. -/
def drain (writer : CacheWriter) (cursor : Cursor ν) : Outcome Unit (CacheWriter × Cursor ν) :=
  if writer.finished then .ok () (writer, cursor)
  else
    match cursor.source with
    | some reader =>
      (reader.fetch CacheWriter.handler Prod.snd 0 0 (writer, cursor.disk)).mapState
        fun (reader, writer, disk) => (writer, { cursor with source := some reader, disk })
    | none =>
      match cursor.openAtServer? with
      | none => .ok () (writer, cursor)
      | some id =>
        (cursor.session.run (Query.exchange (.fetch id 0 0) CacheWriter.handler)
            { handler := (writer, cursor.disk) }).mapState
          fun (session, query) =>
            (query.handler.1, { cursor with session, disk := query.handler.2 })

/-- Completes what is recorded, or tells the server to discard its rows. -/
def settle (cursor : Cursor ν) : Outcome Unit (Cursor ν) :=
  match cursor.recorder with
  | some writer =>
    match { cursor with recorder := none }.drain writer with
    | .ok () (writer, cursor) => .ok () { cursor with disk := writer.finish cursor.disk }
    | .error e (writer, cursor) => .error e { cursor with disk := writer.detach cursor.disk }
  | none =>
    match cursor.openAtServer? with
    | none => .ok () cursor
    | some id =>
      (cursor.session.run (Command.abortResultSet id).exchange none).mapState
        fun (session, _) => { cursor with session }

/-- Forgets the result set. -/
def forget (cursor : Cursor ν) : Cursor ν :=
  { cursor with source := none, result := ResultSet.reset cursor.nullsAsEmpty }

/-- Closes the result set.  It is forgotten also if there was an error. -/
def close (cursor : Cursor ν) : Outcome Unit (Cursor ν) :=
  cursor.checkEpoch.settle.mapState forget

/-- Lets go of the session and the disk after closing the result set. -/
def release (cursor : Cursor ν) : Session ν × Disk :=
  let cursor := cursor.close.state
  (cursor.session, cursor.disk)

/-! ### Statements -/

/-- Checks the bind variables, if they are to be checked. -/
def checkBinds (sql : String) (binds : BindSet) (cursor : Cursor ν) : Except Error Unit :=
  if cursor.validates then binds.validate sql else .ok ()

/-- Takes note that a result set was opened in the present epoch. -/
def opened (cursor : Cursor ν) : Cursor ν :=
  { cursor with epoch := cursor.session.connection.epoch }

/-- Runs the statement with the given bind variables. -/
def runStatement (binds : BindSet) (cursor : Cursor ν) : Outcome Unit (Cursor ν) :=
  match cursor.close with
  | .error e cursor => .error e cursor
  | .ok () cursor =>
    let sql := cursor.substitutions.expand cursor.sql
    match cursor.checkBinds sql binds with
    | .error e => .error e cursor
    | .ok () =>
      match cursor.createTarget with
      | .error e cursor => .error e cursor
      | .ok () cursor =>
        match cursor.query (.execute sql binds cursor.executeOptions) with
        | .error e cursor => .error e cursor.abandonRecorder
        | .ok () cursor =>
          .ok () { cursor with session := cursor.session.statementExecuted }.opened

/-- Sets the statement to run. -/
def prepare (sql : String) (cursor : Cursor ν) : Cursor ν :=
  { cursor with sql }

/-- Runs the statement with its bind variables. -/
def execute (cursor : Cursor ν) : Outcome Unit (Cursor ν) :=
  cursor.noting (runStatement cursor.binds)

/-- Runs a statement at once, without bind variables. -/
def send (sql : String) (cursor : Cursor ν) : Outcome Unit (Cursor ν) :=
  (cursor.prepare sql).noting (runStatement {})

/-! ### Parking and attaching -/

/-- Leaves the result set parked at the server.  The page is given up, and the
recorder closed so that it can be continued. -/
def suspendResultSet (cursor : Cursor ν) : Cursor ν :=
  { cursor with result := cursor.result.suspend, source := none }.detachRecorder

/-- Closes the result set, unless it is the parked one that is to be attached to. -/
def closeOther (id : ResultSetId) (cursor : Cursor ν) : Outcome Unit (Cursor ν) :=
  let cursor := cursor.checkEpoch
  if cursor.result.id = some id ∧ cursor.result.suspended then .ok () cursor else cursor.close

/-- Attaches to a parked result set, and records its rows into a file if one is given. -/
def attach (id : ResultSetId) (path : Option String) (cursor : Cursor ν) :
    Outcome Unit (Cursor ν) :=
  match cursor.closeOther id with
  | .error e cursor => .error e cursor
  | .ok () cursor =>
    let cursor := cursor.forget.detachRecorder
    let started := match path with
      | some path => cursor.continueRecorder path
      | none => .ok () cursor
    match started with
    | .error e cursor => .error e cursor
    | .ok () cursor =>
      match cursor.query (.resume id cursor.executeOptions) with
      | .error e cursor => .error e cursor
      | .ok () cursor => .ok () cursor.opened

/-- Attaches to a parked result set. -/
def resumeResultSet (id : ResultSetId) (cursor : Cursor ν) : Outcome Unit (Cursor ν) :=
  cursor.noting (attach id none)

/-- Attaches to a parked result set, and continues its cache file. -/
def resumeCached (id : ResultSetId) (path : String) (cursor : Cursor ν) :
    Outcome Unit (Cursor ν) :=
  cursor.noting (attach id (some path))

/-! ### Cache files -/

/-- Takes the description and the first page of a cache file. -/
def readFirstPage (reader : CacheReader) (cursor : Cursor ν) : Outcome Unit (Cursor ν) :=
  match reader.feedDescribe reception cursor.parts with
  | .error e parts => .error e (cursor.withParts parts)
  | .ok () parts =>
    match reader.fetch reception Reception.disk 0 cursor.bufferSize.toNat parts with
    | .error e (_, parts) => .error e (cursor.withParts parts)
    | .ok () (reader, parts) => .ok () { cursor.withParts parts with source := some reader }

/-- Opens a cache file, which must not be the one that is recorded into. -/
def openFile (path : String) (cursor : Cursor ν) : Outcome Unit (Cursor ν) :=
  if cursor.cacheTarget.any (Disk.samePath path) then .error (.usage .cacheIntoSource) cursor
  else
    match cursor.close with
    | .error e cursor => .error e cursor
    | .ok () cursor =>
      match CacheReader.openNow path cursor.now cursor.disk with
      | .error e => .error e cursor
      | .ok reader =>
        match cursor.createTarget with
        | .error e cursor => .error e cursor
        | .ok () cursor => cursor.readFirstPage reader

/-- Reads a result set from a cache file in place of the server. -/
def openCached (path : String) (cursor : Cursor ν) : Outcome Unit (Cursor ν) :=
  cursor.noting (openFile path)

end ProxyClient.Cursor
