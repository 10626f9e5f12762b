/-
ProxyClient/Exchange/Handshake.lean

Opening a session, with credentials or with the token of a suspended one.
-/
import ProxyClient.Exchange.Command

namespace ProxyClient

/-- How a session is obtained. -/
inductive Credentials where
  /-- A new session for a user. -/
  | login (user password : String)
  /-- A suspended session. -/
  | token (id : String)
  deriving DecidableEq, Repr

/-- The request for a session. -/
def Credentials.request : Credentials → Request
  | login user password => .startup user password
  | token id => .resumeSession id

/-- What is known of a session while it is opened. -/
structure Handshake where
  /-- How far the opening has come. -/
  phase : HandshakePhase := .initial
  /-- The name of the backend. -/
  serverName : String := ""
  /-- The version of the server. -/
  serverVersion : String := ""
  /-- Autocommit is on. -/
  autocommit : Bool := false
  /-- Whether a transaction is open. -/
  transaction : TransactionStatus := .idle
  deriving DecidableEq, Repr, Inhabited

namespace Handshake

/-- Takes what the server tells about the session. -/
def accept (ready : SessionReady) : Handshake where
  phase := .ready
  serverName := ready.serverName
  serverVersion := ready.serverVersion
  autocommit := ready.autocommit
  transaction := ready.transaction

/-- Takes a frame.  Only the announcement that the session is open is in
place, and only once. -/
def step (frame : Frame) (handshake : Handshake) : Outcome Progress Handshake :=
  let failed := { handshake with phase := .failed }
  let unexpected : Outcome Progress Handshake :=
    .error (.wire (.unexpectedInHandshake frame.type handshake.phase)) failed
  match ServerMessage.Kind.ofByte? frame.type with
  | some .error => .error (ErrorReport.errorOf frame.payload) failed
  | some .sessionReady =>
    match handshake.phase with
    | .waitingReady =>
      match decoded SessionReady.decoder frame.payload with
      | .ok ready => .ok .done (accept ready)
      | .error e => .error e handshake
    | _ => unexpected
  | _ => unexpected

/-- The exchange that opens a session. -/
def exchange (credentials : Credentials) : Exchange Handshake where
  start := fun handshake =>
    match credentials.request.encode with
    | .ok bytes => .ok bytes { handshake with phase := .waitingReady }
    | .error e => .error e handshake
  step := step

end Handshake

end ProxyClient
