/-
ProxyClient/Exchange/Phase.lean

The vocabulary of request and answer: the commands that are answered by one
frame, and the phases through which opening a session and running a query
pass.
-/
import ProxyClient.Wire.Tag

namespace ProxyClient

/-- A request that is answered by exactly one frame. -/
inductive Command where
  /-- Asks whether the server answers. -/
  | ping
  /-- Asks for the name of the backend. -/
  | identify
  /-- Makes the work of the transaction permanent. -/
  | commit
  /-- Undoes the work of the transaction. -/
  | rollback
  /-- Turns autocommit on or off. -/
  | autocommit (on : Bool)
  /-- Parks the session. -/
  | suspendSession
  /-- Discards a result set. -/
  | abortResultSet (id : ResultSetId)
  deriving DecidableEq, Repr

/-- A command as messages show it. -/
def Command.describe : Command → String
  | ping => "Ping"
  | identify => "Identify"
  | commit => "Commit"
  | rollback => "Rollback"
  | autocommit on => s!"Autocommit({on})"
  | suspendSession => "SuspendSession"
  | abortResultSet id => s!"AbortResultSet({id.toNat})"

/-- How far the opening of a session has come. -/
inductive HandshakePhase where
  /-- Nothing was sent. -/
  | initial
  /-- The request was sent. -/
  | waitingReady
  /-- The session is open. -/
  | ready
  /-- The server refused, or answered something else. -/
  | failed
  deriving DecidableEq, Repr

/-- The name of a phase. -/
def HandshakePhase.name : HandshakePhase → String
  | initial => "Initial"
  | waitingReady => "WaitingReady"
  | ready => "Ready"
  | failed => "Failed"

/-- How far the answer to a query has come. -/
inductive QueryPhase where
  /-- Nothing was sent. -/
  | initial
  /-- The result set is still to be described. -/
  | waitingDescribe
  /-- Rows may arrive. -/
  | processingRows
  /-- The answer is complete. -/
  | finished
  deriving DecidableEq, Repr

/-- The name of a phase. -/
def QueryPhase.name : QueryPhase → String
  | initial => "Initial"
  | waitingDescribe => "WaitingDescribe"
  | processingRows => "ProcessingRows"
  | finished => "Finished"

end ProxyClient
