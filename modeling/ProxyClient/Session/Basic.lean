/-
ProxyClient/Session/Basic.lean

Sessions.  A connection owns one session of a server: it knows what the
server told about it, whether a transaction is open, and whether the
connection can still be used.  While the session is parked at the server the
connection has no transport.

Nothing is ever tried twice, and after an error that leaves the position in
the input unknown the connection is broken: it sends no more requests.
-/
import ProxyClient.Address.Options
import ProxyClient.Address.SuspendToken
import ProxyClient.Exchange.Handshake
import ProxyClient.Network.Transport

namespace ProxyClient

/-- A connection to a server. -/
structure Connection where
  /-- The link to the server; none while the session is parked. -/
  transport : Option Transport
  /-- The server. -/
  endpoint : Endpoint
  /-- How the connection was made. -/
  options : Options
  /-- The name of the backend. -/
  serverName : String
  /-- The version of the server. -/
  serverVersion : String
  /-- Every statement is a transaction of its own. -/
  autocommit : Bool
  /-- Whether a transaction is open. -/
  transaction : TransactionStatus
  /-- Grows when the session is parked or replaced; a result set of an older
  epoch is out of reach. -/
  epoch : Nat := 0
  /-- The connection cannot be used again. -/
  broken : Bool := false
  deriving DecidableEq, Repr

/-- The session is parked at the server. -/
def Connection.isSuspended (connection : Connection) : Bool :=
  connection.transport.isNone && !connection.broken

/-- A transaction is open. -/
def Connection.inTransaction (connection : Connection) : Bool :=
  connection.transaction == .inTransaction

/-- A connection on its network. -/
structure Session (ν : Type) where
  /-- The connection. -/
  connection : Connection
  /-- The network, with the record of what was done on it. -/
  traffic : Traffic ν
  deriving Repr

namespace Session

variable {ν : Type} [Network ν]

/-! ### Opening -/

/-- Obtains a session over a new link. -/
def handshake (endpoint : Endpoint) (options : Options) (credentials : Credentials)
    (transport : Transport) (traffic : Traffic ν) : Outcome Connection (Traffic ν) :=
  match transport.perform (Handshake.exchange credentials) traffic {} with
  | .error e ((_, traffic), _) => .error e traffic
  | .ok () ((transport, traffic), session) =>
    .ok
      { transport := some transport, endpoint, options
        serverName := session.serverName, serverVersion := session.serverVersion
        autocommit := session.autocommit, transaction := session.transaction }
      traffic

/-- The endpoint that stands for a server reached by a socket. -/
def socketEndpoint : Endpoint := ⟨"localhost", 0⟩

/-- Where one round tries to connect, in order, with the endpoints that the
connections will have. -/
def targets (options : Options) : List (Address × Endpoint) :=
  (options.socket.toList.map fun path => (.socket path, socketEndpoint)) ++
    options.endpoints.map fun endpoint => (.server endpoint, endpoint)

/-- One attempt to connect.  Nothing if the server cannot be reached; a
refusal is an error. -/
def attempt (options : Options) (target : Address × Endpoint) (traffic : Traffic ν) :
    Outcome (Option Connection) (Traffic ν) :=
  match Transport.dial target.1 traffic with
  | (none, traffic) => .ok none traffic
  | (some transport, traffic) =>
    match handshake target.2 options (.login options.user options.password) transport traffic with
    | .ok connection traffic => .ok (some connection) traffic
    | .error (.connect cause) traffic => .error (.connect cause) traffic
    | .error _ traffic => .ok none traffic

/-- One round of attempts, up to the first that succeeds or is refused. -/
def round (options : Options) : List (Address × Endpoint) → Traffic ν →
    Outcome (Option Connection) (Traffic ν)
  | [], traffic => .ok none traffic
  | target :: rest, traffic =>
    match attempt options target traffic with
    | .error e traffic => .error e traffic
    | .ok (some connection) traffic => .ok (some connection) traffic
    | .ok none traffic => round options rest traffic

/-- Rounds of attempts with pauses between them. -/
def rounds (options : Options) : Nat → Traffic ν → Outcome Connection (Traffic ν)
  | 0, traffic => .error (.connect .unreachable) traffic
  | more + 1, traffic =>
    match round options (targets options) traffic with
    | .error e traffic => .error e traffic
    | .ok (some connection) traffic => .ok connection traffic
    | .ok none traffic =>
      rounds options more
        (if more = 0 ∨ options.retryInterval = 0 then traffic
          else traffic.pause options.retryInterval)

theorem rounds_of_idle {options : Options} (nothing : targets options = [])
    (noPause : options.retryInterval = 0) (count : Nat) (traffic : Traffic ν) :
    rounds options count traffic = .error (.connect .unreachable) traffic := by
  induction count with
  | zero => rfl
  | succ more ih => simp [rounds, round, nothing, noPause, ih]

/-- Connects to the first server that grants a session.  Where rounds have nothing to try and
make no pauses, their number does not matter (`rounds_of_idle`). -/
def connect (options : Options) (traffic : Traffic ν) : Outcome Connection (Traffic ν) :=
  if targets options = [] ∧ options.retryInterval = 0 then .error (.connect .unreachable) traffic
  else rounds options (max options.tries 1) traffic

theorem connect_eq_rounds (options : Options) (traffic : Traffic ν) :
    connect options traffic = rounds options (max options.tries 1) traffic := by
  unfold connect
  split
  · rename_i idle
    rw [rounds_of_idle idle.1 idle.2]
  · rfl

/-- Reclaims a parked session in a new connection. -/
def reclaim (options : Options) (token : SuspendToken) (traffic : Traffic ν) :
    Outcome Connection (Traffic ν) :=
  match Transport.dial (.server token.endpoint) traffic with
  | (none, traffic) => .error (.resume .unreachable) traffic
  | (some transport, traffic) =>
    handshake token.endpoint options (.token token.id) transport traffic

/-! ### Exchanges -/

/-- Carries out an exchange on the session.  A broken connection and a parked
session refuse it, and the errors of the transport break the connection. -/
def run {σ : Type} (exchange : Exchange σ) (session : Session ν) (state : σ) :
    Outcome Unit (Session ν × σ) :=
  if session.connection.broken then .error .connectionBroken (session, state)
  else
    match session.connection.transport with
    | none => .error .suspended (session, state)
    | some transport =>
      match transport.perform exchange session.traffic state with
      | .ok () ((transport, traffic), state) =>
        .ok () (⟨{ session.connection with transport := some transport }, traffic⟩, state)
      | .error e ((transport, traffic), state) =>
        .error e
          (⟨{ session.connection with
              transport := some transport, broken := e.breaksConnection }, traffic⟩, state)

/-- Carries out a command. -/
def command (command : Command) (session : Session ν) : Outcome Reply (Session ν) :=
  match session.run command.exchange none with
  | .error e (session, _) => .error e session
  | .ok () (session, reply) =>
    match Command.answer reply with
    | .ok reply => .ok reply session
    | .error e => .error e session

/-- Changes what is known of the connection. -/
def update (change : Connection → Connection) (session : Session ν) : Session ν :=
  { session with connection := change session.connection }

/-- Carries out a command, and changes what is known of the connection if it succeeds. -/
def commandThen (request : Command) (change : Connection → Connection) (session : Session ν) :
    Outcome Unit (Session ν) :=
  match session.command request with
  | .error e session => .error e session
  | .ok _ session => .ok () (session.update change)

/-! ### Commands -/

/-- The server answers. -/
def ping (session : Session ν) : Bool × Session ν :=
  match session.command .ping with
  | .ok _ session => (true, session)
  | .error _ session => (false, session)

/-- The name of the backend. -/
def identify (session : Session ν) : Outcome String (Session ν) :=
  match session.command .identify with
  | .ok (.value text) session => .ok text session
  | .ok _ session => .error (.wire .noReply) session
  | .error e session => .error e session

/-- Makes the work of the open transaction permanent. -/
def commit (session : Session ν) : Outcome Unit (Session ν) :=
  session.commandThen .commit ({ · with transaction := .idle })

/-- Undoes the work of the open transaction. -/
def rollback (session : Session ν) : Outcome Unit (Session ν) :=
  session.commandThen .rollback ({ · with transaction := .idle })

/-- Turns autocommit on or off. -/
def setAutocommit (on : Bool) (session : Session ν) : Outcome Unit (Session ν) :=
  session.commandThen (.autocommit on) ({ · with autocommit := on })

/-- Takes note that a statement ran; outside of autocommit it opens a transaction. -/
def statementExecuted (session : Session ν) : Session ν :=
  session.update fun connection =>
    if connection.autocommit then connection else { connection with transaction := .inTransaction }

/-! ### Parking -/

/-- Parks the session at the server, and gives the link up.  The token names
the host of this connection if the server names none. -/
def suspend (session : Session ν) : Outcome SuspendToken (Session ν) :=
  match session.command .suspendSession with
  | .error e session => .error e session
  | .ok (.suspended parked) session =>
    let host := if parked.host.isEmpty then session.connection.endpoint.host else parked.host
    .ok ⟨host, parked.port, parked.token⟩
      (session.update fun connection =>
        { connection with transport := none, epoch := connection.epoch + 1 })
  | .ok _ session => .error (.wire .noReply) session

/-- Reclaims a parked session on this connection.  The former link is dropped
without a word. -/
def resume (token : SuspendToken) (session : Session ν) : Outcome Unit (Session ν) :=
  match reclaim session.connection.options token session.traffic with
  | .error e traffic => .error e { session with traffic }
  | .ok resumed traffic =>
    .ok ()
      { connection := { resumed with epoch := session.connection.epoch + 1 }, traffic }

/-! ### Ending -/

/-- Ends the session, unless it is parked. -/
def finish (session : Session ν) : Outcome Unit (Traffic ν) :=
  match session.connection.transport with
  | none => .ok () session.traffic
  | some transport =>
    match Request.endSession.encode with
    | .error e => .error e session.traffic
    | .ok bytes => (transport.send bytes session.traffic).mapState Prod.snd

/-- Lets go of the connection.  The session is ended, unless it is parked or
the connection broken. -/
def release (session : Session ν) : Traffic ν :=
  if session.connection.broken then session.traffic else session.finish.state

end Session

end ProxyClient
