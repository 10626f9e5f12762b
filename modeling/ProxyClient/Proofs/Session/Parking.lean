/-
ProxyClient/Proofs/Session/Parking.lean

Parking a session and reclaiming it, where every request is answered by one
frame.  A parked session has no link (`Session.IsParked`), a reclaimed one is
ready over a new link; neither comes about but by the frame that tells of it.

The epoch of a connection grows with both.  So what a cursor remembers of a
result set that was opened before is known to be out of date.
-/
import ProxyClient.Proofs.Paging.Server

namespace ProxyClient

variable {ν σ : Type} [Network ν]

/-! ### One frame in return -/

/-- An exchange that ends with every frame takes the one that it is given. -/
theorem Transport.perform_of_replies (transport : Transport) {exchange : Exchange σ}
    {request : Request} {traffic : Traffic ν} (sends : exchange.Sends request)
    (once : ∀ frame s s', exchange.step frame s ≠ .ok .more s')
    (empty : transport.inbox.bytes = []) {bytes : Bytes} (written : request.encode = .ok bytes)
    {after : Frame → ν → Prop}
    (replies : Network.Replies traffic.network transport.link request after) (state : σ) :
    ∃ (frame : Frame) (inbox : Inbox) (traffic' : Traffic ν) (state' last : σ),
      inbox.bytes = [] ∧ after frame traffic'.network ∧
      (exchange.step frame state' = .ok .done last ∧
          transport.perform exchange traffic state =
            .ok () (({ transport with inbox }, traffic'), last) ∨
        ∃ e, exchange.step frame state' = .error e last ∧
          transport.perform exchange traffic state =
            .error e (({ transport with inbox }, traffic'), last)) := by
  obtain ⟨frame, reset, fits, accepted, told⟩ := replies bytes written
  obtain ⟨traffic', sent, network⟩ := Traffic.send_of_accepted accepted
  obtain ⟨state', start⟩ := sends.of_ok written state
  have front : (transport.inbox.add frame.encode reset).bytes = frame.encode ++ [] := by
    show transport.inbox.bytes ++ _ = _
    rw [empty, List.nil_append, List.append_nil]
  obtain ⟨behind, read, unread, -⟩ := Query.readFrame_of_arrived fits front
  -- the one frame decides, whether it is taken or not
  have answer := readAnswer_of_frame exchange state' read
  rw [← network] at told
  rcases step : exchange.step frame state' with ⟨progress, last⟩ | ⟨e, last⟩
  · cases progress with
    | more => exact absurd step (once frame state' last)
    | done =>
      refine ⟨frame, behind, traffic', state', last, unread, told, .inl ⟨step, ?_⟩⟩
      simp only [perform, start, send, sent, answer, step]
      rfl
  · refine ⟨frame, behind, traffic', state', last, unread, told, .inr ⟨e, step, ?_⟩⟩
    simp only [perform, start, send, sent, answer, step]
    rfl

theorem Command.step_exchange_ne_more (command : Command) (frame : Frame) (s s' : Option Reply) :
    command.exchange.step frame s ≠ .ok .more s' := by
  intro more
  simp only [exchange] at more
  split at more <;> simp at more

/-- The opening of a session succeeds with one frame, and that tells of it. -/
theorem Handshake.step_ok {frame : Frame} {progress : Progress} {s s' : Handshake}
    (h : step frame s = .ok progress s') :
    progress = .done ∧ frame.type = ServerMessage.Kind.sessionReady.toByte := by
  unfold step at h
  simp only at h
  split at h
  · contradiction
  · -- only the greeting is let through
    next ready =>
    have type := (ServerMessage.Kind.toByte_of_ofByte? ready).symm
    split at h
    · split at h
      · exact ⟨(EStateM.Result.ok.inj h).1.symm, type⟩
      · contradiction
    · contradiction
  · contradiction

theorem Handshake.sends_exchange (credentials : Credentials) :
    (exchange credentials).Sends credentials.request where
  of_ok := fun h s => ⟨{ s with phase := .waitingReady }, by simp only [exchange, h]⟩
  of_error := fun h s => by simp only [exchange, h]

/-- The only frame that answers the parking of a session and is no error. -/
theorem Command.type_of_replyOf_suspendSession {frame : Frame} {reply : Reply}
    (h : replyOf suspendSession frame = .ok reply) :
    frame.type = ServerMessage.Kind.suspended.toByte := by
  unfold replyOf at h
  simp only at h
  split at h
  · contradiction
  · contradiction
  · next parked => exact (ServerMessage.Kind.toByte_of_ofByte? parked).symm
  · contradiction
  · contradiction

namespace Session

variable {session session' : Session ν} {link : LinkId} {after : Frame → ν → Prop}

/-! ### Parking -/

omit [Network ν] in
/-- The session is parked at the server. -/
structure IsParked (session : Session ν) : Prop where
  /-- The connection can be used again. -/
  usable : session.connection.broken = false
  /-- It has no link. -/
  gone : session.connection.transport = none

omit [Network ν] in
theorem IsParked.refuses (isParked : session.IsParked) : session.Refuses :=
  .inr isParked.gone

/-- It cannot be parked again. -/
theorem IsParked.suspend_ne_ok (isParked : session.IsParked) (token : SuspendToken) :
    session.suspend ≠ .ok token session' := by
  obtain ⟨e, refused⟩ := run_of_refuses isParked.refuses Command.suspendSession.exchange none
  rw [suspend, Session.command]
  rw [refused]
  simp

/-- To let go of it says nothing to the server. -/
theorem IsParked.release_eq (isParked : session.IsParked) : session.release = session.traffic := by
  rw [release, finish]
  rw [if_neg (by simp [isParked.usable]), isParked.gone]
  rfl

/-- What is left of a command that succeeded. -/
theorem command_ok {command : Command} {reply : Reply} (ready : session.Ready link)
    (replies : Network.Replies session.traffic.network link (.command command) after)
    (h : session.command command = .ok reply session') :
    session'.Ready link ∧ session.SameBut session' ∧
      ∃ frame, command.replyOf frame = .ok reply ∧ after frame session'.traffic.network := by
  obtain ⟨usable, inbox, there, empty⟩ := ready
  obtain ⟨frame, behind, traffic, state, last, unread, told, ⟨step, performed⟩ |
    ⟨e, step, performed⟩⟩ :=
      Transport.perform_of_replies { link, inbox } command.sends_exchange
        command.step_exchange_ne_more empty rfl replies none
  · -- the frame was taken as the reply that is returned
    unfold Session.command run at h
    rw [if_neg (by simp [usable])] at h
    simp only [there, performed] at h
    unfold Command.exchange at step
    simp only at step
    split at step
    · next answer answered =>
      obtain ⟨-, rfl⟩ := EStateM.Result.ok.inj step
      obtain ⟨rfl, rfl⟩ := EStateM.Result.ok.inj h
      refine ⟨⟨usable, behind, rfl, unread⟩, ?_, frame, answered, told⟩
      rfl
    · contradiction
  · unfold Session.command run at h
    rw [if_neg (by simp [usable])] at h
    simp only [there, performed] at h
    contradiction

/-- A session that was parked has no link, and the server told that it is parked. -/
theorem suspend_ok {token : SuspendToken} (ready : session.Ready link)
    (replies : Network.Replies session.traffic.network link (.command .suspendSession) after)
    (h : session.suspend = .ok token session') :
    session'.IsParked ∧ session'.connection.epoch = session.connection.epoch + 1 ∧
      ∃ frame, frame.type = ServerMessage.Kind.suspended.toByte ∧
        after frame session'.traffic.network := by
  unfold suspend at h
  split at h
  · contradiction
  · next parked mid asked =>
    obtain ⟨-, rfl⟩ := EStateM.Result.ok.inj h
    obtain ⟨ready', same, frame, answered, told⟩ := command_ok ready replies asked
    refine ⟨⟨ready'.usable, rfl⟩, ?_, frame, Command.type_of_replyOf_suspendSession answered, told⟩
    show mid.connection.epoch + 1 = _
    rw [same.epoch_eq]
  · contradiction

/-! ### Reclaiming -/

/-- A session that was opened is ready, and the server told that it is open. -/
theorem handshake_ok {endpoint : Endpoint} {options : Options} {credentials : Credentials}
    {traffic traffic' : Traffic ν} {connection : Connection}
    (replies : Network.Replies traffic.network link credentials.request after)
    (h : handshake endpoint options credentials { link } traffic = .ok connection traffic') :
    (∀ epoch, (Session.mk { connection with epoch } traffic').Ready link) ∧
      ∃ frame, frame.type = ServerMessage.Kind.sessionReady.toByte ∧
        after frame traffic'.network := by
  have written : ∃ bytes, credentials.request.encode = .ok bytes := by
    cases credentials <;> exact ⟨_, rfl⟩
  obtain ⟨bytes, written⟩ := written
  obtain ⟨frame, behind, traffic₁, state, last, unread, told, ⟨step, performed⟩ |
    ⟨e, step, performed⟩⟩ :=
      Transport.perform_of_replies { link } (Handshake.sends_exchange credentials)
        (fun frame s s' more => Progress.noConfusion (Handshake.step_ok more).1) rfl written replies
        {}
  · unfold handshake at h
    simp only [performed] at h
    obtain ⟨rfl, rfl⟩ := EStateM.Result.ok.inj h
    exact ⟨fun _ => ⟨rfl, behind, rfl, unread⟩, frame, (Handshake.step_ok step).2, told⟩
  · unfold handshake at h
    simp only [performed] at h
    contradiction

/-- A session is reclaimed over a link that the server took. -/
theorem reclaim_ok {options : Options} {token : SuspendToken} {traffic traffic' : Traffic ν}
    {connection : Connection} {after : LinkId → Frame → ν → Prop}
    (replies : ∀ link, Network.Replies
      (Network.dial traffic.network (.server token.endpoint)).2 link (.resumeSession token.id)
      (after link))
    (h : reclaim options token traffic = .ok connection traffic') :
    ∃ link, (∀ epoch, (Session.mk { connection with epoch } traffic').Ready link) ∧
      ∃ frame, frame.type = ServerMessage.Kind.sessionReady.toByte ∧
        after link frame traffic'.network := by
  unfold reclaim Transport.dial Traffic.dial at h
  simp only at h
  split at h
  · contradiction
  · next transport mid dialled =>
    split at dialled
    · simp at dialled
    · rcases called : Network.dial traffic.network (.server token.endpoint) with ⟨- | link, network⟩
      · simp [called] at dialled
      · simp only [called, Option.map_some, Prod.mk.injEq, Option.some.injEq] at dialled
        obtain ⟨rfl, rfl⟩ := dialled
        rw [called] at replies
        exact ⟨link, handshake_ok (replies link) h⟩

end Session

/-! ### Servers that keep a result set -/

namespace ResumableServer

variable {store : RowStore} {sql : String} {binds : List Bind}
  {stands : LinkId → Option Nat → ν → Prop} {parked : Nat → ν → Prop} {position : Nat}
  {session session' : Session ν} {token : SuspendToken}

/-- The server keeps its place for a session that is parked. -/
theorem suspend {link : LinkId} (server : ResumableServer store sql binds stands parked)
    (ready : session.Ready link) (at_ : stands link (some position) session.traffic.network)
    (h : session.suspend = .ok token session') :
    session'.IsParked ∧ session'.connection.epoch = session.connection.epoch + 1 ∧
      parked position session'.traffic.network := by
  obtain ⟨isParked, epoch, frame, type, told⟩ := Session.suspend_ok ready (server.parks at_) h
  exact ⟨isParked, epoch, told type⟩

/-- It stands there again once the session is reclaimed, whatever is made of the epoch. -/
theorem reclaim (server : ResumableServer store sql binds stands parked) {options : Options}
    {traffic traffic' : Traffic ν} {connection : Connection} (kept : parked position traffic.network)
    (h : Session.reclaim options token traffic = .ok connection traffic') :
    ∃ link, (∀ epoch, (Session.mk { connection with epoch } traffic').Ready link) ∧
      stands link (some position) traffic'.network := by
  have replies (link : LinkId) := server.reclaims (server.dials kept (.server token.endpoint)) link
    token.id
  obtain ⟨link, ready, frame, type, told⟩ := Session.reclaim_ok replies h
  exact ⟨link, ready, told type⟩

/-- So it does when the connection goes on with the session. -/
theorem resume (server : ResumableServer store sql binds stands parked)
    (kept : parked position session.traffic.network)
    (h : session.resume token = .ok () session') :
    ∃ link, session'.Ready link ∧
      session'.connection.epoch = session.connection.epoch + 1 ∧
      stands link (some position) session'.traffic.network := by
  unfold Session.resume at h
  split at h
  · contradiction
  · next resumed traffic reclaimed =>
    obtain ⟨-, rfl⟩ := EStateM.Result.ok.inj h
    obtain ⟨link, ready, at_⟩ := server.reclaim kept reclaimed
    exact ⟨link, ready _, rfl, at_⟩

end ResumableServer

end ProxyClient
