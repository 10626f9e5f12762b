/-
ProxyClient/Proofs/Session/Moves.lean

How a session goes on.  Most of what is done with a session is to send requests
and to read answers; then nothing changes but what is unread, and whether the
connection is broken (`Session.Talks`).  Beyond that there is what a milestone
brings with it:

    settled   →  no transaction is open          (commit, rollback)
    toggled   →  autocommit is on, or off
    executed  →  a transaction is open, unless autocommit is on
    parked    →  the link is gone
    greeted   →  everything is as another server tells, over a new link

and there is a session that could not be reclaimed, and stays as it was
(`Session.Moves`).  So what a connection tells of its session
(`Connection.standing`) is what its milestones make of it (`Moves.standing_eq`).

A server greets by the frame with which it answers the request for a session
(`Transport.greeting`); there is a connection if it does, and only then.
-/
import ProxyClient.Proofs.Session.Connecting

namespace ProxyClient

variable {ν : Type} [Network ν]

/-- The link over which something was sent, or was to be sent. -/
def NetworkEvent.link? : NetworkEvent → Option LinkId
  | sent link _ | sendFailed link => some link
  | connected _ | refused _ | paused _ => none

/-! ### Greetings -/

/-- What a frame tells of a session that is ready. -/
def SessionReady.ofFrame? (frame : Frame) : Option SessionReady :=
  if ServerMessage.Kind.ofByte? frame.type = some .sessionReady then
    (decoded SessionReady.decoder frame.payload).toOption
  else none

/-- What arrived tells of a session that is ready, by its first frame. -/
def Inbox.greeting (inbox : Inbox) : Option SessionReady :=
  match readFrame inbox with
  | (.frame frame, _) => SessionReady.ofFrame? frame
  | _ => none

/-- What the answer to a request for a session tells of it. -/
def Transport.greeting (credentials : Credentials) (transport : Transport) (traffic : Traffic ν) :
    Option SessionReady :=
  match credentials.request.encode with
  | .error _ => none
  | .ok bytes =>
    match transport.send bytes traffic with
    | .error _ _ => none
    | .ok () (transport, _) => transport.inbox.greeting

/-- A handshake that waits takes the frame of a greeting, and no other. -/
theorem Handshake.step_waiting (frame : Frame) {handshake : Handshake}
    (waits : handshake.phase = .waitingReady) :
    (∃ ready, SessionReady.ofFrame? frame = some ready ∧
      step frame handshake = .ok .done (accept ready)) ∨
    (SessionReady.ofFrame? frame = none ∧ ∃ e after, step frame handshake = .error e after) := by
  unfold step SessionReady.ofFrame?
  simp only [waits]
  generalize ServerMessage.Kind.ofByte? frame.type = kind
  by_cases ready : kind = some .sessionReady
  · subst ready
    simp only [if_true]
    rcases decoded SessionReady.decoder frame.payload with e | ready
    · exact .inr ⟨rfl, e, handshake, rfl⟩
    · exact .inl ⟨ready, rfl, rfl⟩
  · -- any other frame is an error
    rw [if_neg ready]
    refine .inr ⟨rfl, ?_⟩
    rcases kind with - | kind
    · exact ⟨_, _, rfl⟩
    · cases kind <;> first | exact absurd rfl ready | exact ⟨_, _, rfl⟩

/-- So the first frame that arrives decides. -/
theorem Handshake.readAnswer_waiting (credentials : Credentials) (inbox : Inbox)
    (handshake : Handshake) (waits : handshake.phase = .waitingReady) :
    (∃ ready inbox', inbox.greeting = some ready ∧
      readAnswer (exchange credentials) inbox handshake = .ok () (inbox', accept ready)) ∨
    (inbox.greeting = none ∧
      ∃ e after, readAnswer (exchange credentials) inbox handshake = .error e after) := by
  rw [Inbox.greeting]
  rcases read : readFrame inbox with ⟨frame | - | ⟨t, e⟩, inbox'⟩
  · -- a frame comes
    rw [readAnswer_of_frame _ _ read]
    rcases step_waiting frame waits with ⟨ready, greeted, step⟩ | ⟨silent, e, after, step⟩
    · simp only [exchange, step]
      exact .inl ⟨ready, inbox', greeted, rfl⟩
    · simp only [exchange, step]
      exact .inr ⟨silent, _, _, rfl⟩
  · -- the source has ended
    obtain ⟨e, -, stopped⟩ := readAnswer_of_no_frame (exchange credentials) handshake (.inl read)
    exact .inr ⟨rfl, e, _, stopped⟩
  · -- the frame is torn
    obtain ⟨e, -, stopped⟩ := readAnswer_of_no_frame (exchange credentials) handshake
      (.inr ⟨t, e, read, (FaithfulSource.readFrame_failed read).1⟩)
    exact .inr ⟨rfl, e, _, stopped⟩

namespace Session

/-- What the server that is called to reclaim a session tells of it. -/
def greeting (token : SuspendToken) (session : Session ν) : Option SessionReady :=
  match Transport.dial (.server token.endpoint) session.traffic with
  | (none, _) => none
  | (some transport, traffic) => transport.greeting (.token token.id) traffic

/-- **A session is opened exactly if it is greeted**, and is what the greeting tells. -/
theorem handshake_cases (endpoint : Endpoint) (options : Options) (credentials : Credentials)
    (transport : Transport) (traffic : Traffic ν) :
    (∃ ready inbox after, transport.greeting credentials traffic = some ready ∧
      handshake endpoint options credentials transport traffic =
        .ok
          { transport := some { transport with inbox }, endpoint, options
            serverName := ready.serverName, serverVersion := ready.serverVersion
            autocommit := ready.autocommit, transaction := ready.transaction } after) ∨
    (transport.greeting credentials traffic = none ∧
      ∃ e after, handshake endpoint options credentials transport traffic = .error e after) := by
  obtain ⟨bytes, written⟩ : ∃ bytes, credentials.request.encode = .ok bytes := by
    cases credentials <;> exact ⟨_, rfl⟩
  have start : (Handshake.exchange credentials).start {} =
      .ok bytes { phase := .waitingReady } := by
    simp only [Handshake.exchange, written]
  simp only [handshake, Transport.perform, Transport.greeting, written, start, Transport.send]
  rcases traffic.send transport.link bytes with ⟨- | ⟨reply, reset⟩, called⟩
  · -- the credentials could not be sent
    exact .inr ⟨rfl, _, _, rfl⟩
  · rcases Handshake.readAnswer_waiting credentials (transport.inbox.add reply reset)
      { phase := .waitingReady } rfl with
      ⟨ready, inbox, greeted, answer⟩ | ⟨silent, e, after, answer⟩
    · simp only [answer]
      exact .inl ⟨ready, inbox, called, greeted, rfl⟩
    · simp only [answer]
      exact .inr ⟨silent, e, _, rfl⟩

/-- The server of an endpoint greeted, and so opened the session of a connection. -/
def Opens (endpoint : Endpoint) (ready : SessionReady) (connection : Connection)
    (after : Traffic ν) : Prop :=
  ∃ options credentials transport called,
    Transport.greeting credentials transport (called : Traffic ν) = some ready ∧
      handshake endpoint options credentials transport called = .ok connection after

section

variable {options : Options} {credentials : Credentials} {endpoint : Endpoint}
  {connection : Connection} {transport : Transport} {traffic after : Traffic ν}

theorem exists_opens_of_handshake
    (opened : handshake endpoint options credentials transport traffic = .ok connection after) :
    ∃ ready, Opens endpoint ready connection after := by
  rcases handshake_cases endpoint options credentials transport traffic with
    ⟨ready, -, -, greeted, -⟩ | ⟨-, e, after', failed⟩
  · exact ⟨ready, options, credentials, transport, traffic, greeted, opened⟩
  · rw [failed] at opened
    contradiction

theorem exists_opens_of_attempt {target : Address × Endpoint}
    (opened : attempt options target traffic = .ok (some connection) after) :
    ∃ endpoint ready, Opens endpoint ready connection after := by
  unfold attempt at opened
  split at opened
  · cases opened
  · split at opened
    · next granted =>
      obtain ⟨same, rfl⟩ := EStateM.Result.ok.inj opened
      obtain rfl := Option.some.inj same
      exact ⟨_, exists_opens_of_handshake granted⟩
    · cases opened
    · cases opened

theorem exists_opens_of_round {targets : List (Address × Endpoint)}
    (opened : round options targets traffic = .ok (some connection) after) :
    ∃ endpoint ready, Opens endpoint ready connection after := by
  induction targets generalizing traffic with
  | nil =>
    rw [round] at opened
    cases opened
  | cons target targets ih =>
    unfold round at opened
    split at opened
    · contradiction
    · -- this target has greeted
      next granted =>
      obtain ⟨same, rfl⟩ := EStateM.Result.ok.inj opened
      obtain rfl := Option.some.inj same
      exact exists_opens_of_attempt granted
    · -- the next one is tried
      exact ih opened

/-- **Every connection that is made was greeted.** -/
theorem exists_opens_of_connect (opened : connect options traffic = .ok connection after) :
    ∃ endpoint ready, Opens endpoint ready connection after := by
  rw [connect_eq_rounds] at opened
  generalize max options.tries 1 = count at opened
  induction count generalizing traffic with
  | zero => contradiction
  | succ more ih =>
    unfold rounds at opened
    split at opened
    · contradiction
    · -- this round has opened a connection
      next granted =>
      obtain ⟨rfl, rfl⟩ := EStateM.Result.ok.inj opened
      exact exists_opens_of_round granted
    · -- the next one has
      exact ih opened

/-- So was every one to which a parked session was handed over. -/
theorem exists_opens_of_reclaim {token : SuspendToken}
    (opened : reclaim options token traffic = .ok connection after) :
    ∃ endpoint ready, Opens endpoint ready connection after := by
  unfold reclaim at opened
  split at opened
  · contradiction
  · exact ⟨_, exists_opens_of_handshake opened⟩

end

/-- So is one that is reclaimed, over a new link and in a later epoch; else
the session stays as it was. -/
theorem resume_cases (token : SuspendToken) (session : Session ν) :
    (∃ ready transport called inbox later, session.greeting token = some ready ∧
      Transport.dial (.server token.endpoint) session.traffic = (some transport, called) ∧
      session.resume token = .ok () later ∧
      later.connection =
        { transport := some { transport with inbox }, endpoint := token.endpoint
          options := session.connection.options
          serverName := ready.serverName, serverVersion := ready.serverVersion
          autocommit := ready.autocommit, transaction := ready.transaction
          epoch := session.connection.epoch + 1 }) ∨
    (session.greeting token = none ∧
      ∃ e traffic, session.resume token = .error e { session with traffic }) := by
  rw [greeting, resume, reclaim]
  rcases Transport.dial (.server token.endpoint) session.traffic with ⟨- | transport, called⟩
  · exact .inr ⟨rfl, _, _, rfl⟩
  · rcases handshake_cases token.endpoint session.connection.options (.token token.id) transport
      called with ⟨ready, inbox, after, greeted, opened⟩ | ⟨silent, e, after, failed⟩
    · simp only [opened]
      exact .inl ⟨ready, transport, called, inbox, _, greeted, rfl, rfl, rfl⟩
    · simp only [failed]
      exact .inr ⟨silent, e, after, rfl⟩

/-- What is done on the network to reclaim a session: a server is called, and if it takes
the call it is asked for the session over the new link. -/
theorem traffic_resume (token : SuspendToken) (session : Session ν) :
    (∃ after, Transport.dial (.server token.endpoint) session.traffic = (none, after) ∧
      (session.resume token).state.traffic = after) ∨
    ∃ transport called bytes,
      Transport.dial (.server token.endpoint) session.traffic = (some transport, called) ∧
      (Request.resumeSession token.id).encode = .ok bytes ∧
      (session.resume token).state.traffic = (called.send transport.link bytes).2 := by
  rw [resume, reclaim]
  rcases Transport.dial (.server token.endpoint) session.traffic with ⟨- | transport, called⟩
  · -- nobody is there
    exact .inl ⟨called, rfl, rfl⟩
  · -- somebody is, and is sent the token
    obtain ⟨bytes, written, sent⟩ := state_handshake token.endpoint session.connection.options
      (.token token.id) transport called
    refine .inr ⟨transport, called, bytes, rfl, written, ?_⟩
    rw [← sent]
    simp only
    rcases handshake token.endpoint session.connection.options (.token token.id) transport called
      with ⟨connection, after⟩ | ⟨e, after⟩
    · rfl
    · rfl

/-- To end a session that has a link is to say so over it. -/
theorem state_finish {session : Session ν} {transport : Transport}
    (there : session.connection.transport = some transport) :
    ∃ bytes, Request.endSession.encode = .ok bytes ∧
      session.finish.state = (session.traffic.send transport.link bytes).2 := by
  obtain ⟨bytes, written⟩ : ∃ bytes, Request.endSession.encode = .ok bytes := ⟨_, rfl⟩
  refine ⟨bytes, written, ?_⟩
  rw [finish, there, written]
  simp only [Outcome.state_mapState, Transport.send]
  rcases session.traffic.send transport.link bytes with ⟨- | ⟨reply, reset⟩, after⟩
  · rfl
  · rfl

/-! ### Requests and answers -/

/-- The session has gone on by requests and answers alone: bytes were sent over
the link of a connection that could be used, and of the connection there may be
others unread, or it may be broken. -/
inductive Talks (session : Session ν) : Session ν → Prop
  /-- Nothing was sent. -/
  | refl : Talks session session
  /-- Something was sent. -/
  | send {later : Session ν} {transport : Transport} (bytes : Bytes) (inbox : Inbox)
      (broken : Bool) :
      Talks session later → later.connection.broken = false →
      later.connection.transport = some transport →
      Talks session
        ⟨{ later.connection with transport := some { transport with inbox }, broken },
          (later.traffic.send transport.link bytes).2⟩

variable {session later last : Session ν}

theorem Talks.trans (h : session.Talks later) (h' : later.Talks last) : session.Talks last := by
  induction h' with
  | refl => exact h
  | send bytes inbox broken _ usable there ih => exact .send bytes inbox broken ih usable there

/-- That is what an exchange does. -/
theorem talks_run {σ : Type} {exchange : Exchange σ} {request : Request}
    (sends : exchange.Sends request) (session : Session ν) (state : σ) :
    session.Talks (session.run exchange state).state.1 := by
  by_cases refuses : session.Refuses
  · -- nothing can be sent
    obtain ⟨e, ran⟩ := run_of_refuses refuses exchange state
    rw [ran]
    exact .refl
  · obtain ⟨whole, linked⟩ := not_or.mp refuses
    have usable : session.connection.broken = false := by simpa using whole
    obtain ⟨transport, there⟩ := Option.ne_none_iff_exists'.mp linked
    rcases written : request.encode with e | bytes
    · -- the request cannot be written
      rw [run_of_unwritten usable there (sends.of_error written state)
        (Request.usable_of_encode_error written)]
      exact .refl
    · obtain ⟨state', start⟩ := sends.of_ok written state
      rcases sent : session.traffic.send transport.link bytes with ⟨- | ⟨reply, reset⟩, traffic⟩
      · -- it could not be sent
        have talks := Talks.send bytes transport.inbox true .refl usable there
        rw [sent, ← there] at talks
        rw [run_of_failed usable there start sent]
        exact talks
      · -- it was, and whatever was answered is read
        have talks := fun inbox broken => Talks.send bytes inbox broken .refl usable there
        rw [sent] at talks
        rw [run_of_accepted usable there start sent, Outcome.state_mapState]
        exact talks ..

namespace Talks

/-- A session that refuses does not talk. -/
theorem eq_of_refuses (h : session.Talks later) (refuses : session.Refuses) : later = session := by
  induction h with
  | refl => rfl
  | send bytes inbox broken _ usable there ih =>
    rw [ih] at usable there
    rcases refuses with whole | linked
    · rw [usable] at whole
      contradiction
    · rw [there] at linked
      contradiction

/-- So a connection that is broken stays so. -/
theorem broken_of_broken (h : session.Talks later) (broken : session.connection.broken = true) :
    later.connection.broken = true := by
  rw [h.eq_of_refuses (.inl broken)]
  exact broken

theorem sameBut (h : session.Talks later) : session.SameBut later := by
  induction h with
  | refl => rfl
  | send bytes inbox broken _ usable there ih =>
    rw [SameBut]
    simp only
    rw [ih]

/-- The link is the same. -/
theorem link_eq (h : session.Talks later) :
    later.connection.transport.map Transport.link =
      session.connection.transport.map Transport.link := by
  induction h with
  | refl => rfl
  | send bytes inbox broken _ usable there ih =>
    rw [← ih, there]
    rfl

/-- Everything was sent over that link. -/
theorem events (h : session.Talks later) :
    ∃ events, later.traffic.events = session.traffic.events ++ events ∧
      ∀ event ∈ events, ∃ link, session.connection.transport.map Transport.link = some link ∧
        event.link? = some link := by
  induction h with
  | refl => exact ⟨[], (List.append_nil _).symm, fun _ never => by contradiction⟩
  | @send later transport bytes inbox broken talks usable there ih =>
    obtain ⟨events, eq, linked⟩ := ih
    obtain ⟨event, which, sent⟩ := later.traffic.events_send transport.link bytes
    refine ⟨events ++ [event], ?_, ?_⟩
    · rw [sent, eq, List.append_assoc]
    · intro other mem
      rcases List.mem_append.mp mem with former | last
      · exact linked other former
      · obtain rfl := List.mem_singleton.mp last
        refine ⟨transport.link, ?_, by rcases which with rfl | rfl <;> rfl⟩
        rw [← talks.link_eq, there]
        rfl

/-- What holds of a network holds on, if it does whatever is sent. -/
theorem network {P : ν → Prop} (h : session.Talks later)
    (sends : ∀ network link bytes, P network → P (Network.send network link bytes).2)
    (holds : P session.traffic.network) : P later.traffic.network := by
  induction h with
  | refl => exact holds
  | send bytes inbox broken _ usable there ih =>
    rw [Traffic.network_send]
    exact sends _ _ _ ih

end Talks

/-- After an exchange that succeeds the session can be used. -/
theorem usable_of_run_ok {σ : Type} {exchange : Exchange σ} {state state' : σ}
    (ran : session.run exchange state = .ok () (later, state')) : ¬ later.Refuses := by
  rw [run] at ran
  split at ran
  · contradiction
  · next usable =>
    split at ran
    · contradiction
    · split at ran
      · -- an exchange that succeeds keeps its transport
        obtain ⟨-, same⟩ := EStateM.Result.ok.inj ran
        obtain ⟨rfl, -⟩ := Prod.mk.inj same
        rintro (broken | gone)
        · exact usable broken
        · contradiction
      · contradiction

/-- A command is an exchange, and the session can be used if it succeeds. -/
theorem command_cases (command : Command) (session : Session ν) :
    ∃ later, session.Talks later ∧
      ((∃ reply, session.command command = .ok reply later ∧ ¬ later.Refuses) ∨
        ∃ e, session.command command = .error e later) := by
  have talks := talks_run command.sends_exchange session none
  rw [Session.command]
  rcases ran : session.run command.exchange none with ⟨⟨⟩, later, reply⟩ | ⟨e, later, reply⟩
  · rw [ran] at talks
    have usable := usable_of_run_ok ran
    rcases answer : Command.answer reply with e | reply'
    · exact ⟨later, talks, .inr ⟨e, by simp only [answer]⟩⟩
    · exact ⟨later, talks, .inl ⟨reply', by simp only [answer], usable⟩⟩
  · rw [ran] at talks
    exact ⟨later, talks, .inr ⟨e, rfl⟩⟩

end Session

/-! ### Milestones -/

/-- Whether something succeeded, and what it left. -/
def Outcome.report {α σ : Type} (outcome : Outcome α σ) : Bool × σ :=
  (outcome.toExcept.toBool, outcome.state)

/-- What changes what is known of a session. -/
inductive Milestone where
  /-- A server that is known under an endpoint opened the session, or handed it over. -/
  | greeted (endpoint : Endpoint) (ready : SessionReady)
  /-- The transaction was committed, or rolled back. -/
  | settled
  /-- Autocommit was turned on or off. -/
  | toggled (on : Bool)
  /-- A statement ran. -/
  | executed
  /-- The session was parked. -/
  | parked
  deriving DecidableEq, Repr

/-- What a connection tells of its session. -/
structure Standing where
  /-- The name of the backend. -/
  serverName : String
  /-- The version of the server. -/
  serverVersion : String
  /-- The server. -/
  endpoint : Endpoint
  /-- Every statement is a transaction of its own. -/
  autocommit : Bool
  /-- Whether a transaction is open. -/
  transaction : TransactionStatus
  /-- It has a link. -/
  attached : Bool
  deriving DecidableEq, Repr

/-- What the connection tells. -/
def Connection.standing (connection : Connection) : Standing where
  serverName := connection.serverName
  serverVersion := connection.serverVersion
  endpoint := connection.endpoint
  autocommit := connection.autocommit
  transaction := connection.transaction
  attached := connection.transport.isSome

/-- What it tells after a milestone. -/
def Standing.after (standing : Standing) : Milestone → Standing
  | .greeted endpoint ready =>
    ⟨ready.serverName, ready.serverVersion, endpoint, ready.autocommit, ready.transaction, true⟩
  | .settled => { standing with transaction := .idle }
  | .toggled on => { standing with autocommit := on }
  | .executed =>
    if standing.autocommit then standing else { standing with transaction := .inTransaction }
  | .parked => { standing with attached := false }

/-- A connection that was greeted tells what the greeting told. -/
theorem Session.Opens.standing_eq {endpoint : Endpoint} {ready : SessionReady}
    {connection : Connection} {after : Traffic ν} (opens : Opens endpoint ready connection after)
    (former : Standing) : connection.standing = former.after (.greeted endpoint ready) := by
  obtain ⟨options, credentials, transport, called, greeted, opened⟩ := opens
  rcases handshake_cases endpoint options credentials transport called with
    ⟨ready', inbox, after', greeted', opened'⟩ | ⟨-, e, after', failed⟩
  · obtain rfl := Option.some.inj (greeted.symm.trans greeted')
    obtain ⟨rfl, -⟩ := EStateM.Result.ok.inj (opened.symm.trans opened')
    rfl
  · rw [failed] at opened
    contradiction

namespace Session

variable {session later : Session ν}

/-- How a session may go on, and the milestone that it comes to. -/
inductive Moves (session : Session ν) : Option Milestone → Session ν → Prop
  /-- There are requests and answers. -/
  | talks {later : Session ν} : session.Talks later → Moves session none later
  /-- A commit or a rollback succeeds. -/
  | settled {later : Session ν} : session.Talks later → ¬ later.Refuses →
      Moves session (some .settled) (later.update ({ · with transaction := .idle }))
  /-- Autocommit is turned on or off. -/
  | toggled {later : Session ν} (on : Bool) : session.Talks later → ¬ later.Refuses →
      Moves session (some (.toggled on)) (later.update ({ · with autocommit := on }))
  /-- A statement succeeds. -/
  | executed {later : Session ν} : session.Talks later → ¬ later.Refuses →
      Moves session (some .executed) later.statementExecuted
  /-- The session is parked. -/
  | parked {later : Session ν} : session.Talks later → ¬ later.Refuses →
      Moves session (some .parked)
        (later.update fun connection =>
          { connection with transport := none, epoch := connection.epoch + 1 })
  /-- A session is reclaimed: it is that of the server that greets, over a new link. -/
  | greeted {later : Session ν} (token : SuspendToken) {ready : SessionReady}
      {transport : Transport} {called : Traffic ν} {inbox : Inbox} :
      session.greeting token = some ready →
      Transport.dial (.server token.endpoint) session.traffic = (some transport, called) →
      session.resume token = .ok () later →
      later.connection =
        { transport := some { transport with inbox }, endpoint := token.endpoint
          options := session.connection.options
          serverName := ready.serverName, serverVersion := ready.serverVersion
          autocommit := ready.autocommit, transaction := ready.transaction
          epoch := session.connection.epoch + 1 } →
      Moves session (some (.greeted token.endpoint ready)) later
  /-- A session is not reclaimed. -/
  | ungreeted (token : SuspendToken) {e : Error} {traffic : Traffic ν} :
      session.greeting token = none →
      session.resume token = .error e { session with traffic } →
      Moves session none { session with traffic }

omit [Network ν] in
/-- Beyond the link and whether it can be used, requests change nothing that a connection
tells. -/
theorem SameBut.standing_eq (same : session.SameBut later)
    (linked : later.connection.transport.isSome = session.connection.transport.isSome) :
    later.connection.standing = session.connection.standing := by
  rw [Connection.standing, linked, same]
  rfl

theorem Talks.attached_eq (h : session.Talks later) :
    later.connection.transport.isSome = session.connection.transport.isSome := by
  have same := congrArg Option.isSome h.link_eq
  rwa [Option.isSome_map, Option.isSome_map] at same

theorem Talks.standing_eq (h : session.Talks later) :
    later.connection.standing = session.connection.standing :=
  h.sameBut.standing_eq h.attached_eq

namespace Moves

variable {milestone? : Option Milestone}

/-- **What a connection tells is what its milestone makes of it.** -/
theorem standing_eq (h : session.Moves milestone? later) :
    later.connection.standing =
      milestone?.toList.foldl Standing.after session.connection.standing := by
  cases h with
  | talks talks => exact talks.standing_eq
  | settled talks usable | toggled on talks usable | parked talks usable =>
    rw [Option.toList_some, List.foldl_cons, List.foldl_nil, ← talks.standing_eq]
    rfl
  | @executed middle talks usable =>
    rw [Option.toList_some, List.foldl_cons, List.foldl_nil, ← talks.standing_eq]
    show (if middle.connection.autocommit then middle.connection
      else { middle.connection with transaction := .inTransaction }).standing =
        if middle.connection.autocommit then _ else _
    split
    · rfl
    · rfl
  | greeted token greeted dialled resumed known =>
    rw [known]
    rfl
  | ungreeted token silent failed => rfl

/-- Without a milestone a broken connection stays broken. -/
theorem broken_of_broken (h : session.Moves none later)
    (broken : session.connection.broken = true) : later.connection.broken = true := by
  cases h with
  | talks talks => exact talks.broken_of_broken broken
  | ungreeted => exact broken

/-- And one is parked if it was. -/
theorem isSuspended_eq (h : session.Moves none later) :
    later.connection.isSuspended = session.connection.isSuspended := by
  cases h with
  | talks talks =>
    rcases linked : session.connection.transport with - | transport
    · rw [talks.eq_of_refuses (.inr linked)]
    · have attached := talks.attached_eq
      rw [linked] at attached
      rw [Connection.isSuspended, Connection.isSuspended, linked]
      rw [← Option.not_isSome, attached]
      rfl
  | ungreeted => rfl

/-- The epoch grows as the session is parked or replaced. -/
theorem epoch_le (h : session.Moves milestone? later) :
    session.connection.epoch ≤ later.connection.epoch := by
  -- only parking and reclaiming move the epoch, and by one
  cases h with
  | talks talks => exact Nat.le_of_eq talks.sameBut.epoch_eq.symm
  | settled talks usable | toggled on talks usable =>
    exact Nat.le_of_eq talks.sameBut.epoch_eq.symm
  | @executed middle talks usable =>
    obtain ⟨transaction, same⟩ := middle.statementExecuted_connection
    rw [same]
    exact Nat.le_of_eq talks.sameBut.epoch_eq.symm
  | @parked middle talks usable =>
    show _ ≤ middle.connection.epoch + 1
    rw [talks.sameBut.epoch_eq]
    exact Nat.le_succ _
  | greeted token greeted dialled resumed known =>
    rw [known]
    exact Nat.le_succ _
  | ungreeted => exact Nat.le_refl _

end Moves

/-! ### Calls -/

/-- What may be done with a session alone, but for parking it. -/
inductive Call where
  /-- The server is asked whether it answers. -/
  | pings
  /-- It is asked for the name of the backend. -/
  | identifies
  /-- The transaction is committed. -/
  | commits
  /-- The transaction is rolled back. -/
  | rollsBack
  /-- Autocommit is turned on or off. -/
  | toggles (on : Bool)
  deriving DecidableEq, Repr

/-- Whether it succeeds, and the session after it. -/
def Call.perform (session : Session ν) : Call → Bool × Session ν
  | pings => session.ping
  | identifies => session.identify.report
  | commits => session.commit.report
  | rollsBack => session.rollback.report
  | toggles on => (session.setAutocommit on).report

/-- What it comes to if it succeeds. -/
def Call.aim? : Call → Option Milestone
  | pings | identifies => none
  | commits | rollsBack => some .settled
  | toggles on => some (.toggled on)

/-- A command with a change brings its milestone if it succeeds, and only then. -/
theorem moves_commandThen {change : Connection → Connection} {milestone : Milestone}
    (session : Session ν) (command : Command)
    (moves : ∀ {later}, session.Talks later → ¬ later.Refuses →
      session.Moves (some milestone) (later.update change)) :
    session.Moves (if (session.commandThen command change).report.1 then some milestone else none)
      (session.commandThen command change).report.2 := by
  obtain ⟨later, talks, ⟨reply, done, usable⟩ | ⟨e, failed⟩⟩ := command_cases command session
  · rw [commandThen, done]
    exact moves talks usable
  · rw [commandThen, failed]
    exact .talks talks

/-- **A call brings its milestone if it succeeds**, and only then. -/
theorem moves_call (session : Session ν) (call : Call) :
    session.Moves (if (call.perform session).1 then call.aim? else none)
      (call.perform session).2 := by
  -- a call that fails is talk; one that succeeds may be a milestone
  cases call with
  | pings =>
    obtain ⟨later, talks, ⟨reply, done, -⟩ | ⟨e, failed⟩⟩ := command_cases .ping session
    · simp only [Call.perform, ping, done]
      exact .talks talks
    · simp only [Call.perform, ping, failed]
      exact .talks talks
  | identifies =>
    obtain ⟨later, talks, ⟨reply, done, -⟩ | ⟨e, failed⟩⟩ := command_cases .identify session
    · simp only [Call.perform, identify, done]
      cases reply <;> exact .talks talks
    · simp only [Call.perform, identify, failed]
      exact .talks talks
  | commits => exact moves_commandThen session .commit .settled
  | rollsBack => exact moves_commandThen session .rollback .settled
  | toggles on => exact moves_commandThen session (.autocommit on) (.toggled on)

theorem moves_suspend (session : Session ν) :
    session.Moves (if session.suspend.report.1 then some .parked else none)
      session.suspend.report.2 := by
  obtain ⟨later, talks, ⟨reply, done, usable⟩ | ⟨e, failed⟩⟩ :=
    command_cases .suspendSession session
  · rw [suspend, done]
    cases reply with
    | suspended => exact .parked talks usable
    | ok | value => exact .talks talks
  · rw [suspend, failed]
    exact .talks talks

theorem moves_resume (token : SuspendToken) (session : Session ν) :
    session.Moves
      (if (session.resume token).report.1 then
        (session.greeting token).map (.greeted token.endpoint) else none)
      (session.resume token).report.2 := by
  rcases session.resume_cases token with
    ⟨ready, transport, called, inbox, later, greeted, dialled, resumed, known⟩ |
    ⟨silent, e, traffic, failed⟩
  · rw [resumed, greeted]
    exact .greeted token greeted dialled resumed known
  · rw [failed]
    exact .ungreeted token silent failed

end Session

end ProxyClient
