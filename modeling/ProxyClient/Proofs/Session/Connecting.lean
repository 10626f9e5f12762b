/-
ProxyClient/Proofs/Session/Connecting.lean

The attempts of a client that connects.  The options alone tell which turns
there may be, and in which order (`Session.schedule`):

    round  pause  round  pause  …  round

where a round calls the socket, if one is set, and then every endpoint.  A
client takes these turns one after another, up to the first attempt at which
a server grants a session or refuses the client for good.  An attempt adds to
the record the call and, if a server takes it, one request to start a
session; so the record is that of the turns that were taken.
-/
import ProxyClient.Proofs.Session.Parking

namespace ProxyClient

/-! ### Turns -/

/-- A turn of a client that connects. -/
inductive Turn where
  /-- Some seconds pass. -/
  | pause (seconds : Nat)
  /-- An address is called, for a connection with this endpoint. -/
  | attempt (target : Address × Endpoint)
  deriving DecidableEq, Repr

/-- What becomes of an attempt. -/
inductive Fate where
  /-- It comes to nothing. -/
  | failed
  /-- The server refuses the client for good. -/
  | refused (cause : ConnectError)
  /-- The server grants a session. -/
  | granted (connection : Connection)
  deriving DecidableEq, Repr

/-- The event that a request to start a session was sent over a link, or was to
be sent. -/
def NetworkEvent.Starts (options : Options) (link : LinkId) (event : NetworkEvent) : Prop :=
  ∃ bytes, (Request.startup options.user options.password).encode = .ok bytes ∧
    (event = .sent link bytes ∨ event = .sendFailed link)

/-- How a client goes on from an attempt. -/
def Fate.result {α : Type} : Fate → α → Outcome (Option Connection) α
  | failed, state => .ok none state
  | refused cause, state => .error (.connect cause) state
  | granted connection, state => .ok (some connection) state

namespace Session

/-- The pause between two rounds. -/
def interlude (options : Options) : List Turn :=
  if options.retryInterval = 0 then [] else [.pause options.retryInterval]

/-- The turns of a client that is never answered: as many rounds as there are
tries, and at least one, with a pause between two of them. -/
def schedule (options : Options) : List Turn :=
  (interlude options).intercalate
    (List.replicate (max options.tries 1) ((targets options).map .attempt))

/-- What an attempt comes to when a server took the call. -/
def fateOf {α : Type} : Outcome Connection α → Fate
  | .ok connection _ => .granted connection
  | .error (.connect cause) _ => .refused cause
  | .error _ _ => .failed

variable {ν : Type} [Network ν] {options : Options}

/-- An attempt, told by what it adds to the record and what it comes to. -/
inductive Attempts (options : Options) (target : Address × Endpoint) (traffic : Traffic ν) :
    Fate → Traffic ν → Prop
  /-- No server takes the call.  An address that cannot be tried is not called. -/
  | unreached {call : List NetworkEvent} {after : Traffic ν} :
      Transport.dial target.1 traffic = (none, after) →
      after.events = traffic.events ++ call →
      (call = [.refused target.1] ∨ target.1.isDialable = false ∧ call = []) →
      Attempts options target traffic .failed after
  /-- A server takes the call, and one request to start a session is made. -/
  | reached {transport : Transport} {called : Traffic ν} {outcome : Outcome Connection (Traffic ν)}
      {request : NetworkEvent} :
      Transport.dial target.1 traffic = (some transport, called) →
      handshake target.2 options (.login options.user options.password) transport called = outcome →
      outcome.state.events = traffic.events ++ [.connected target.1, request] →
      request.Starts options transport.link →
      Attempts options target traffic (fateOf outcome) outcome.state

/-- Turns that come to nothing. -/
inductive Passes (options : Options) : List Turn → Traffic ν → Traffic ν → Prop
  /-- No turn is taken. -/
  | nil {traffic : Traffic ν} : Passes options [] traffic traffic
  /-- Some seconds pass. -/
  | pause {seconds : Nat} {turns : List Turn} {traffic after : Traffic ν} :
      Passes options turns (traffic.pause seconds) after →
      Passes options (.pause seconds :: turns) traffic after
  /-- An attempt fails. -/
  | attempt {target : Address × Endpoint} {turns : List Turn} {traffic middle after : Traffic ν} :
      Attempts options target traffic .failed middle → Passes options turns middle after →
      Passes options (.attempt target :: turns) traffic after

/-- How turns end: they come to nothing, or the first attempt that does not
decides, and no later one is made. -/
def Takes (options : Options) (turns : List Turn) (traffic : Traffic ν)
    (outcome : Outcome (Option Connection) (Traffic ν)) : Prop :=
  (∃ after, Passes options turns traffic after ∧ outcome = .ok none after) ∨
    ∃ earlier target later middle fate after, turns = earlier ++ .attempt target :: later ∧
      Passes options earlier traffic middle ∧ Attempts options target middle fate after ∧
      fate ≠ .failed ∧ outcome = fate.result after

/-! ### An attempt -/

theorem dial_cases (address : Address) (traffic : Traffic ν) :
    (∃ call after, Transport.dial address traffic = (none, after) ∧
      after.events = traffic.events ++ call ∧
      (call = [.refused address] ∨ address.isDialable = false ∧ call = [])) ∨
    ∃ transport after, Transport.dial address traffic = (some transport, after) ∧
      after.events = traffic.events ++ [.connected address] := by
  rw [Transport.dial]
  rw [Traffic.dial]
  by_cases dialable : address.isDialable
  · rw [if_neg (by simp [dialable])]
    rcases Network.dial traffic.network address with ⟨- | link, network⟩
    · exact .inl ⟨_, _, rfl, rfl, .inl rfl⟩
    · exact .inr ⟨_, _, rfl, rfl⟩
  · rw [if_pos (by simp [dialable])]
    exact .inl ⟨[], _, rfl, (List.append_nil _).symm, .inr ⟨by simpa using dialable, rfl⟩⟩

/-- A handshake makes one request, over its own link. -/
theorem state_handshake (endpoint : Endpoint) (options : Options) (credentials : Credentials)
    (transport : Transport) (traffic : Traffic ν) :
    ∃ bytes, credentials.request.encode = .ok bytes ∧
      (handshake endpoint options credentials transport traffic).state =
        (traffic.send transport.link bytes).2 := by
  obtain ⟨bytes, written⟩ : ∃ bytes, credentials.request.encode = .ok bytes := by
    cases credentials <;> exact ⟨_, rfl⟩
  obtain ⟨state, start⟩ := (Handshake.sends_exchange credentials).of_ok written {}
  refine ⟨bytes, written, ?_⟩
  rw [handshake, Transport.perform, start]
  simp only [Transport.send]
  -- whatever is answered, nothing more is sent
  rcases traffic.send transport.link bytes with ⟨- | ⟨reply, reset⟩, after⟩
  · rfl
  · simp only
    rcases readAnswer (Handshake.exchange credentials) (transport.inbox.add reply reset) state with
      ⟨⟨⟩, inbox, state⟩ | ⟨e, inbox, state⟩
    · rfl
    · rfl

theorem endpoint_handshake {endpoint : Endpoint} {credentials : Credentials}
    {transport : Transport} {traffic after : Traffic ν} {connection : Connection}
    (h : handshake endpoint options credentials transport traffic = .ok connection after) :
    connection.endpoint = endpoint := by
  rw [handshake] at h
  split at h
  · cases h
  · obtain ⟨rfl, -⟩ := EStateM.Result.ok.inj h
    rfl

/-- The connection has the endpoint that was called. -/
theorem Attempts.endpoint_eq {target : Address × Endpoint} {traffic after : Traffic ν}
    {connection : Connection} (h : Attempts options target traffic (.granted connection) after) :
    connection.endpoint = target.2 := by
  generalize granted : Fate.granted connection = fate at h
  cases h with
  | unreached => cases granted
  | @reached transport called outcome request dialled opened events starts =>
    rcases outcome with ⟨other, after⟩ | ⟨e, after⟩
    · cases granted
      exact endpoint_handshake opened
    · cases e <;> cases granted

theorem attempt_spec (options : Options) (target : Address × Endpoint) (traffic : Traffic ν) :
    ∃ fate after, Attempts options target traffic fate after ∧
      attempt options target traffic = fate.result after := by
  rcases dial_cases target.1 traffic with
    ⟨call, after, dialled, events, called⟩ | ⟨transport, called, dialled, events⟩
  · -- nobody is there
    refine ⟨.failed, after, .unreached dialled events called, ?_⟩
    rw [attempt, dialled]
    rfl
  · -- somebody is, and is sent the credentials
    obtain ⟨bytes, written, sent⟩ := state_handshake target.2 options
      (.login options.user options.password) transport called
    obtain ⟨request, which, requested⟩ := called.events_send transport.link bytes
    rw [← sent, events, List.append_assoc] at requested
    refine ⟨_, _, .reached dialled rfl requested ⟨bytes, written, which⟩, ?_⟩
    rw [attempt, dialled]
    simp only
    rcases handshake target.2 options (.login options.user options.password) transport called with
      ⟨connection, after⟩ | ⟨e, after⟩
    · rfl
    · cases e <;> rfl

/-! ### Turns one after another -/

theorem Passes.append {first second : List Turn} {traffic middle after : Traffic ν}
    (h : Passes options first traffic middle) (h' : Passes options second middle after) :
    Passes options (first ++ second) traffic after := by
  induction h with
  | nil => exact h'
  | pause _ ih => exact .pause (ih h')
  | attempt failed _ ih => exact .attempt failed (ih h')

namespace Takes

variable {first second : List Turn} {traffic middle after : Traffic ν}
  {outcome : Outcome (Option Connection) (Traffic ν)}

/-- Turns that are left over came to nothing. -/
theorem passes (h : Takes options first traffic (.ok none after)) :
    Passes options first traffic after := by
  rcases h with ⟨_, passes, ended⟩ | ⟨_, _, _, _, fate, _, _, _, _, decides, ended⟩
  · cases ended
    exact passes
  · cases fate with
    | failed => exact absurd rfl decides
    | refused => cases ended
    | granted => cases ended

/-- After turns that come to nothing the next ones count. -/
theorem of_passes (h : Passes options first traffic middle)
    (h' : Takes options second middle outcome) : Takes options (first ++ second) traffic outcome := by
  rcases h' with ⟨after, passes, ended⟩ |
    ⟨earlier, target, later, between, fate, after, rfl, passes, attempts, decides, ended⟩
  · exact .inl ⟨after, h.append passes, ended⟩
  · exact .inr ⟨first ++ earlier, target, later, between, fate, after,
      (List.append_assoc ..).symm, h.append passes, attempts, decides, ended⟩

/-- After an attempt that decides nothing is done. -/
theorem append (h : Takes options first traffic outcome) (decided : ∀ after, outcome ≠ .ok none after)
    (second : List Turn) : Takes options (first ++ second) traffic outcome := by
  rcases h with ⟨after, _, ended⟩ |
    ⟨earlier, target, later, between, fate, after, rfl, passes, attempts, decides, ended⟩
  · exact absurd ended (decided after)
  · exact .inr ⟨earlier, target, later ++ second, between, fate, after,
      by rw [List.append_assoc, List.cons_append], passes, attempts, decides, ended⟩

end Takes

theorem takes_round (options : Options) (targets : List (Address × Endpoint))
    (traffic : Traffic ν) :
    Takes options (targets.map .attempt) traffic (round options targets traffic) := by
  induction targets generalizing traffic with
  | nil => exact .inl ⟨traffic, .nil, rfl⟩
  | cons target targets ih =>
    obtain ⟨fate, after, attempts, result⟩ := attempt_spec options target traffic
    rw [round, result]
    cases fate with
    | failed => exact .of_passes (.attempt attempts .nil) (ih after)
    | refused cause =>
      exact .inr ⟨[], target, _, traffic, _, after, rfl, .nil, attempts, Fate.noConfusion, rfl⟩
    | granted connection =>
      exact .inr ⟨[], target, _, traffic, _, after, rfl, .nil, attempts, Fate.noConfusion, rfl⟩

/-! ### Rounds -/

theorem passes_interlude (options : Options) (traffic : Traffic ν) :
    Passes options (interlude options) traffic
      (if options.retryInterval = 0 then traffic else traffic.pause options.retryInterval) := by
  rw [interlude]
  split
  · exact .nil
  · exact .pause .nil

/-- What a client makes of the outcome of all turns. -/
def conclude {α : Type} : Outcome (Option Connection) α → Outcome Connection α
  | .ok none state => .error (.connect .unreachable) state
  | .ok (some connection) state => .ok connection state
  | .error e state => .error e state

/-- Rounds are the turns of a round, over and over, with a pause in between. -/
theorem takes_rounds (options : Options) (more : Nat) (traffic : Traffic ν) :
    ∃ outcome, Takes options
        ((interlude options).intercalate
          (List.replicate (more + 1) ((targets options).map .attempt))) traffic outcome ∧
      rounds options (more + 1) traffic = conclude outcome := by
  induction more generalizing traffic with
  | zero =>
    refine ⟨round options (targets options) traffic, ?_, ?_⟩
    · have taken := takes_round options (targets options) traffic
      simpa using taken
    · rw [rounds]
      rcases round options (targets options) traffic with ⟨- | connection, after⟩ | ⟨e, after⟩
      · rfl
      · rfl
      · rfl
  | succ more ih =>
    have taken := takes_round options (targets options) traffic
    -- the first round, and the others behind the pause
    have turns : (interlude options).intercalate
        (List.replicate (more + 1 + 1) ((targets options).map Turn.attempt)) =
      (targets options).map .attempt ++ (interlude options ++ (interlude options).intercalate
        (List.replicate (more + 1) ((targets options).map .attempt))) := by
      simp [List.replicate_succ, List.intercalate]
    rw [turns, rounds]
    generalize round options (targets options) traffic = ended at taken
    rcases ended with ⟨- | connection, after⟩ | ⟨e, after⟩
    · -- in vain
      obtain ⟨outcome, taken', concluded⟩ := ih
        (if options.retryInterval = 0 then after else after.pause options.retryInterval)
      refine ⟨outcome, .of_passes taken.passes (.of_passes (passes_interlude options after) taken'),
        ?_⟩
      simpa using concluded
    · -- a server has greeted
      exact ⟨_, taken.append (fun _ => by simp) _, rfl⟩
    · -- one has refused the credentials
      exact ⟨_, taken.append (fun _ => by simp) _, rfl⟩

/-- **Connecting follows the schedule**: on any network a client either takes
all its turns, which come to nothing, and finds the server out of reach; or it
takes them up to an attempt at which a server grants a session, which becomes
the connection with the endpoint of that attempt, or refuses the client, which
is the error, and takes no turn after it. -/
theorem connect_follows_schedule (options : Options) (traffic : Traffic ν) :
    (∃ after, Passes options (schedule options) traffic after ∧
      connect options traffic = .error (.connect .unreachable) after) ∨
    ∃ earlier target later middle fate after,
      schedule options = earlier ++ .attempt target :: later ∧
      Passes options earlier traffic middle ∧ Attempts options target middle fate after ∧
      ((∃ connection, fate = .granted connection ∧ connection.endpoint = target.2 ∧
          connect options traffic = .ok connection after) ∨
        ∃ cause, fate = .refused cause ∧
          connect options traffic = .error (.connect cause) after) := by
  -- there is one round at least
  obtain ⟨more, tries⟩ : ∃ more, max options.tries 1 = more + 1 :=
    Nat.exists_eq_succ_of_ne_zero (by omega)
  obtain ⟨outcome, taken, concluded⟩ := takes_rounds options more traffic
  rw [← tries] at taken concluded
  rw [connect_eq_rounds, concluded]
  rcases taken with ⟨after, passes, rfl⟩ |
    ⟨earlier, target, later, middle, fate, after, turns, passes, attempts, decides, rfl⟩
  · exact .inl ⟨after, passes, rfl⟩
  · refine .inr ⟨earlier, target, later, middle, fate, after, turns, passes, attempts, ?_⟩
    cases fate with
    | failed => exact absurd rfl decides
    | refused cause => exact .inr ⟨cause, rfl, rfl⟩
    | granted connection => exact .inl ⟨connection, rfl, attempts.endpoint_eq, rfl⟩

/-- The socket is tried first in every round. -/
example :
    schedule { endpoints := [⟨"a", 1⟩], socket := some "s", retryInterval := 5, tries := 2 } =
      [.attempt (.socket "s", socketEndpoint), .attempt (.server ⟨"a", 1⟩, ⟨"a", 1⟩), .pause 5,
        .attempt (.socket "s", socketEndpoint), .attempt (.server ⟨"a", 1⟩, ⟨"a", 1⟩)] := by
  decide

end Session

end ProxyClient
