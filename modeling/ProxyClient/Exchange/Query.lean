/-
ProxyClient/Exchange/Query.lean

Requests that are answered by rows.  After a statement, or when a parked
result set is attached to, a description comes first; a fetch continues the
rows of a result set that is known.  A batch end closes the answer, and so
does an error.
-/
import ProxyClient.Exchange.Command

namespace ProxyClient

/-- A request that is answered by rows. -/
inductive QueryRequest where
  /-- Runs a statement. -/
  | execute (sql : String) (binds : BindSet) (options : ExecuteOptions)
  /-- Continues a result set. -/
  | fetch (id : ResultSetId) (skip : UInt64) (limit : UInt32)
  /-- Attaches to a parked result set. -/
  | resume (id : ResultSetId) (options : ExecuteOptions)
  deriving Repr

namespace QueryRequest

/-- The request as it is sent. -/
def request : QueryRequest → Request
  | execute sql binds options => .execute sql binds.entries options
  | fetch id skip limit => .fetch id skip limit
  | resume id options => .resumeResultSet id options

/-- The phase once the request is sent. -/
def firstPhase : QueryRequest → QueryPhase
  | execute .. | resume .. => .waitingDescribe
  | fetch .. => .processingRows

end QueryRequest

/-- How far the answer to a query has come, with the state of its handler. -/
structure Query (η : Type) where
  /-- The phase of the answer. -/
  phase : QueryPhase := .initial
  /-- The number of rows handed over. -/
  rows : Nat := 0
  /-- The state of the handler. -/
  handler : η
  deriving Repr

namespace Query

variable {η : Type}

/-- The event that a frame brings in a phase; an error for a frame out of
place and for one that cannot be read. -/
def eventOf (phase : QueryPhase) (frame : Frame) : Except Error RowEvent :=
  let unexpected : Except Error RowEvent := .error (.wire (.unexpectedInQuery frame.type phase))
  match phase, ServerMessage.Kind.ofByte? frame.type with
  | _, some .error => .error (ErrorReport.errorOf frame.payload)
  | .waitingDescribe, some .describe =>
    (decoded Describe.decoder frame.payload).map .describe
  | .processingRows, some .outputBinds =>
    (decoded OutputBinds.decoder frame.payload).map .outputBinds
  | .processingRows, some .dataRow => (decoded DataRow.decoder frame.payload).map .row
  | .processingRows, some .batchEnd => (decoded BatchEnd.decoder frame.payload).map .batchEnd
  | _, _ => unexpected

/-- The phase after an event was taken. -/
def phaseAfter : RowEvent → QueryPhase
  | .batchEnd _ => .finished
  | _ => .processingRows

/-- Whether an event is the last of an answer. -/
def progressAfter : RowEvent → Progress
  | .batchEnd _ => .done
  | _ => .more

/-- The number of rows in an event. -/
def rowsIn : RowEvent → Nat
  | .row _ => 1
  | _ => 0

/-- Takes a frame.  An error frame ends the answer, whatever the phase. -/
def step (handler : Handler η) (frame : Frame) (query : Query η) : Outcome Progress (Query η) :=
  match eventOf query.phase frame with
  | .error e =>
    let isReport := frame.type = ServerMessage.Kind.error.toByte
    .error e { query with phase := if isReport then .finished else query.phase }
  | .ok event =>
    match handler event query.handler with
    | .error e state => .error e { query with handler := state }
    | .ok () state =>
      .ok (progressAfter event)
        { phase := phaseAfter event, rows := query.rows + rowsIn event, handler := state }

/-- The exchange of a query. -/
def exchange (request : QueryRequest) (handler : Handler η) : Exchange (Query η) where
  start := fun query =>
    match request.request.encode with
    | .ok bytes => .ok bytes { query with phase := request.firstPhase }
    | .error e => .error e query
  step := step handler

end Query

end ProxyClient
