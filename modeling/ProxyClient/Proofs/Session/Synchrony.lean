/-
ProxyClient/Proofs/Session/Synchrony.lean

Request and answer stay in step.  A session that refuses a request does
nothing at all.  Else the one frame of the request is sent, and then there
are two cases only:

    the connection is usable  →  one answer was read, to its last byte
    anything else             →  the connection is broken

so that the next request of a usable connection begins at the border of a
frame, with nothing of the former answer in front of it.  Nothing is assumed
of the bytes that arrive: they may be torn, out of place or no frames at all.

What is needed of an exchange are three facts: which request it sends, that
it stops at final frames only, and that its handler fails safely.
-/
import ProxyClient.Cursor.Basic
import ProxyClient.Network.Script
import ProxyClient.Proofs.Exchange.Answer

namespace ProxyClient

/-! ### Consumers -/

/-- A writer on a disk that may fail: `fault` tells when, in which way, and
what the writer and the disk are then. -/
def CacheWriter.handlerWith (fault : RowEvent → CacheWriter × Disk →
    Option (IoError × (CacheWriter × Disk))) : Handler (CacheWriter × Disk) :=
  fun event state =>
    match fault event state with
    | some (e, state) => .error (.io e) state
    | none => CacheWriter.handler event state

/-- What takes the answers to queries: a page, a writer, and several of them
one after the other. -/
inductive IsConsumer : {η : Type} → Handler η → Prop
  | page : IsConsumer ResultSet.handler
  | writer (fault : RowEvent → CacheWriter × Disk → Option (IoError × (CacheWriter × Disk))) :
      IsConsumer (CacheWriter.handlerWith fault)
  | recorder : IsConsumer CacheWriter.optionalHandler
  | optional {α : Type} {handler : Handler α} :
      IsConsumer handler → IsConsumer (Handler.optional handler)
  | tee {α β : Type} {first : Handler α} {second : Handler β} :
      IsConsumer first → IsConsumer second → IsConsumer (Handler.tee first second)

theorem CacheWriter.isConsumer_handler : IsConsumer CacheWriter.handler :=
  .writer fun _ _ => none

theorem Cursor.isConsumer_reception : IsConsumer Cursor.reception :=
  .tee .page .recorder

/-- A consumer that fails breaks the connection. -/
theorem IsConsumer.failsSafely {η : Type} {handler : Handler η} (h : IsConsumer handler) :
    handler.FailsSafely := by
  induction h with
  | page =>
    intro event s s' e failed
    simp [ResultSet.handler] at failed
  | writer fault =>
    intro event s s' e failed
    unfold CacheWriter.handlerWith at failed
    split at failed
    · simp only [EStateM.Result.error.injEq] at failed
      rw [← failed.1]
      rfl
    · simp [CacheWriter.handler] at failed
  | recorder =>
    intro event s s' e failed
    unfold CacheWriter.optionalHandler at failed
    split at failed <;> simp at failed
  | optional _ ih =>
    intro event s s' e failed
    cases s with
    | none => contradiction
    | some a =>
      obtain ⟨a', taken, -⟩ := Outcome.exists_of_mapState_eq_error failed
      exact ih taken
  | tee _ _ ih₁ ih₂ =>
    rename_i first second _ _
    intro event s s' e failed
    obtain ⟨a, b⟩ := s
    -- the second is asked only if the first took the event
    rcases taken : first event a with ⟨⟨⟩, a'⟩ | ⟨e', a'⟩
    · rcases taken' : second event b with ⟨⟨⟩, b'⟩ | ⟨e', b'⟩
      · rw [Handler.tee_of_ok taken taken'] at failed
        contradiction
      · rw [Handler.tee_of_ok_error taken taken'] at failed
        cases failed
        exact ih₂ taken'
    · rw [Handler.tee_of_error taken] at failed
      cases failed
      exact ih₁ taken

/-! ### Requests -/

/-- An exchange begins with a given request, or fails as the request does. -/
structure Exchange.Sends {σ : Type} (exchange : Exchange σ) (request : Request) : Prop where
  /-- The bytes of the request are sent. -/
  of_ok : ∀ {bytes : Bytes}, request.encode = .ok bytes →
    ∀ state, ∃ state', exchange.start state = .ok bytes state'
  /-- A request that cannot be written changes nothing. -/
  of_error : ∀ {e : Error}, request.encode = .error e →
    ∀ state, exchange.start state = .error e state

theorem Command.sends_exchange (command : Command) :
    command.exchange.Sends (.command command) where
  of_ok := fun h state => ⟨state, by simp only [exchange, h]⟩
  of_error := fun h state => by simp only [exchange, h]

theorem Query.sends_exchange {η : Type} (request : QueryRequest) (handler : Handler η) :
    (Query.exchange request handler).Sends request.request where
  of_ok := fun h query => ⟨{ query with phase := request.firstPhase }, by simp only [exchange, h]⟩
  of_error := fun h query => by simp only [exchange, h]

/-- That a request cannot be written does no harm to the connection. -/
theorem Request.usable_of_encode_error {request : Request} {e : Error}
    (h : request.encode = .error e) : e.breaksConnection = false := by
  cases request with
  | execute sql binds options =>
    simp only [encode, frame] at h
    split at h
    · simp [Except.map] at h
    · obtain rfl := Except.error.inj h
      rfl
  | _ => simp [encode, frame, Except.map] at h

/-! ### Sessions -/

variable {ν σ : Type} [Network ν]

namespace Session

variable {exchange : Exchange σ} {session : Session ν} {transport : Transport} {bytes : Bytes}
  {state state' : σ}

/-- A request that is not taken breaks the connection. -/
theorem run_of_failed {traffic : Traffic ν} (usable : session.connection.broken = false)
    (there : session.connection.transport = some transport)
    (start : exchange.start state = .ok bytes state')
    (sent : session.traffic.send transport.link bytes = (.failed, traffic)) :
    session.run exchange state =
      .error (.io .brokenPipe) (⟨{ session.connection with broken := true }, traffic⟩, state') := by
  obtain ⟨connection, former⟩ := session
  simp only at usable there sent
  rw [run, if_neg (by simp [usable])]
  simp only [there, Transport.perform, start, Transport.send, sent]
  rfl

/-- The answer to a request that is taken is read from what had arrived and
what arrives in return. -/
theorem run_of_accepted {reply : Bytes} {reset : Bool} {traffic : Traffic ν}
    (usable : session.connection.broken = false)
    (there : session.connection.transport = some transport)
    (start : exchange.start state = .ok bytes state')
    (sent : session.traffic.send transport.link bytes = (.accepted reply reset, traffic)) :
    session.run exchange state =
      (readAnswer exchange (transport.inbox.add reply reset) state').mapState fun (inbox, last) =>
        (⟨{ session.connection with
            transport := some { transport with inbox }
            broken := (readAnswer exchange (transport.inbox.add reply reset) state').breaks },
          traffic⟩, last) := by
  obtain ⟨connection, former⟩ := session
  simp only at usable there sent
  rw [run, if_neg (by simp [usable])]
  simp only [there, Transport.perform, start, Transport.send, sent]
  rcases readAnswer exchange (transport.inbox.add reply reset) state' with
    ⟨u, inbox, last⟩ | ⟨e, inbox, last⟩
  · simp only [Outcome.mapState, Outcome.breaks, usable]
  · simp only [Outcome.mapState, Outcome.breaks]

/-- A request that cannot be written changes nothing. -/
theorem run_of_unwritten {e : Error} (usable : session.connection.broken = false)
    (there : session.connection.transport = some transport)
    (start : exchange.start state = .error e state) (harmless : e.breaksConnection = false) :
    session.run exchange state = .error e (session, state) := by
  obtain ⟨connection, traffic⟩ := session
  simp only at usable there
  rw [run, if_neg (by simp [usable])]
  simp only [there, Transport.perform, start, harmless]
  rw [← there, ← usable]

/-- A request that can be written is taken or not. -/
theorem run_cases {request : Request} {frame : Frame} (sends : exchange.Sends request)
    (usable : session.connection.broken = false)
    (there : session.connection.transport = some transport) (asked : request.frame = .ok frame)
    (state : σ) :
    (∃ traffic, session.traffic.send transport.link frame.encode = (.failed, traffic) ∧
        ∃ state', session.run exchange state =
          .error (.io .brokenPipe)
            (⟨{ session.connection with broken := true }, traffic⟩, state')) ∨
      ∃ reply reset traffic state',
        session.traffic.send transport.link frame.encode = (.accepted reply reset, traffic) ∧
        session.run exchange state =
          (readAnswer exchange (transport.inbox.add reply reset) state').mapState
            fun (inbox, last) =>
              (⟨{ session.connection with
                  transport := some { transport with inbox }
                  broken := (readAnswer exchange (transport.inbox.add reply reset) state').breaks },
                traffic⟩, last) := by
  have encoded : request.encode = .ok frame.encode := by
    rw [Request.encode, asked]
    rfl
  obtain ⟨state', start⟩ := sends.of_ok encoded state
  rcases sent : session.traffic.send transport.link frame.encode with
    ⟨- | ⟨reply, reset⟩, traffic⟩
  · exact .inl ⟨traffic, rfl, state', run_of_failed usable there start sent⟩
  · exact .inr ⟨reply, reset, traffic, state', rfl, run_of_accepted usable there start sent⟩

end Session

/-- What an exchange may do to a session: `outcome` is what becomes of a
request and its answer, `final` tells the last frame of an answer. -/
structure Synchronised (request : Request) (final : Frame → Prop) (session : Session ν)
    (state : σ) (outcome : Outcome Unit (Session ν × σ)) : Prop where
  /-- A broken connection, a parked session and a request that cannot be
  written: nothing is sent or read, and nothing changes. -/
  refused : (session.connection.broken = true ∨ session.connection.transport = none ∨
      ∃ e, request.frame = .error e) → ∃ e, outcome = .error e (session, state)
  /-- Else the frame of the request is sent, and nothing but that. -/
  written : ∀ {transport : Transport} {frame : Frame}, session.connection.broken = false →
    session.connection.transport = some transport → request.frame = .ok frame →
      outcome.state.1.traffic = (session.traffic.send transport.link frame.encode).2
  /-- If the connection is usable then, the request was taken, and of the
  bytes that had arrived one answer was read.  The rest stays for the next
  request, and of the connection nothing else has changed. -/
  settled : ∀ {transport : Transport} {frame : Frame}, session.connection.broken = false →
    session.connection.transport = some transport → request.frame = .ok frame →
    outcome.breaks = false →
      ∃ reply reset frames inbox,
        (session.traffic.send transport.link frame.encode).1 = .accepted reply reset ∧
        IsAnswer final frames ∧ (∀ frame ∈ frames, frame.Fits) ∧
        transport.inbox.bytes ++ reply = frames.flatMap Frame.encode ++ inbox.bytes ∧
        outcome.state.1.connection =
          { session.connection with transport := some { transport with inbox } }
  /-- In every other case the connection is broken. -/
  broken : ∀ {transport : Transport} {frame : Frame}, session.connection.broken = false →
    session.connection.transport = some transport → request.frame = .ok frame →
    outcome.breaks = true → outcome.state.1.connection.broken = true

/-- An exchange that sends its request and stops at final frames stays in step. -/
theorem Session.synchronised_run {exchange : Exchange σ} {request : Request}
    {final : Frame → Prop} (sends : exchange.Sends request) (ends : exchange.EndsWith final)
    (session : Session ν) (state : σ) :
    Synchronised request final session state (session.run exchange state) where
  refused := by
    rintro (broken | parked | ⟨e, unwritten⟩)
    · exact ⟨.connectionBroken, by rw [run, if_pos broken]⟩
    · rw [run]
      split
      · exact ⟨.connectionBroken, rfl⟩
      · exact ⟨.suspended, by rw [parked]⟩
    · -- the request is looked at only on a connection that can be used
      have fault : request.encode = .error e := by
        rw [Request.encode, unwritten]
        rfl
      rcases usable : session.connection.broken with - | -
      · rcases there : session.connection.transport with - | transport
        · exact ⟨.suspended, by rw [run, if_neg (by simp [usable]), there]⟩
        · exact ⟨e, run_of_unwritten usable there (sends.of_error fault state)
            (Request.usable_of_encode_error fault)⟩
      · exact ⟨.connectionBroken, by rw [run, if_pos usable]⟩
  written := by
    intro transport frame usable there asked
    rcases run_cases sends usable there asked state with
      ⟨traffic, sent, _, ran⟩ | ⟨reply, reset, traffic, state', sent, ran⟩
    · rw [ran, sent]
      rfl
    · rw [ran, sent, Outcome.state_mapState]
  settled := by
    intro transport frame usable there asked settled
    rcases run_cases sends usable there asked state with
      ⟨traffic, sent, _, ran⟩ | ⟨reply, reset, traffic, state', sent, ran⟩
    · -- a request that is not taken breaks the connection
      rw [ran] at settled
      contradiction
    · rw [ran, Outcome.breaks_mapState] at settled
      obtain ⟨frames, answer, fit, front⟩ := settled_readAnswer ends _ _ settled
      refine ⟨reply, reset, frames, _, by rw [sent], answer, fit, front, ?_⟩
      rw [ran, Outcome.state_mapState, settled, ← usable]
  broken := by
    intro transport frame usable there asked breaks
    rcases run_cases sends usable there asked state with
      ⟨traffic, sent, _, ran⟩ | ⟨reply, reset, traffic, state', sent, ran⟩
    · rw [ran]
      rfl
    · rw [ran, Outcome.breaks_mapState] at breaks
      rw [ran, Outcome.state_mapState]
      exact breaks

/-- **Request and answer stay in step**, for every command and for every query
whose answer is taken by a page, a writer or several of them, whatever bytes
arrive. -/
theorem Session.synchronised (session : Session ν) :
    (∀ (command : Command) (reply : Option Reply),
      Synchronised (.command command) (fun _ => True) session reply
        (session.run command.exchange reply)) ∧
    ∀ (request : QueryRequest) {η : Type} {handler : Handler η} (query : Query η),
      IsConsumer handler →
        Synchronised request.request Query.IsFinal session query
          (session.run (Query.exchange request handler) query) := by
  constructor
  · intro command reply
    exact synchronised_run command.sends_exchange command.endsWith_exchange session reply
  · intro request η handler query consumer
    exact synchronised_run (Query.sends_exchange request handler)
      (Query.endsWith_exchange request consumer.failsSafely) session query

/-- A session whose server answers once, by the end of a batch. -/
def Session.answeredOnce : Session ScriptedNetwork where
  connection :=
    { transport := some { link := 0 }, endpoint := ⟨"h", 1⟩, options := {}, serverName := ""
      serverVersion := "", autocommit := true, transaction := .idle }
  traffic := { network := { waiting := [], links := [[.bytes (BatchEnd.frame ⟨true, 0⟩).encode]] } }

/-- What is known of a fetch on this session, which leaves it usable, and of the
next one, which does not. -/
theorem Session.synchronised_answeredOnce :
    IsConsumer Cursor.reception ∧
      (let query : Query Cursor.Reception := { handler := ({}, none, {}) }
      let exchange := Query.exchange (.fetch 7 0 0) Cursor.reception
      let first := answeredOnce.run exchange query
      let second := first.state.1.run exchange first.state.2
      first.breaks = false ∧ second.breaks = true ∧
        Synchronised (.fetch 7 0 0) Query.IsFinal answeredOnce query first ∧
        Synchronised (.fetch 7 0 0) Query.IsFinal first.state.1 first.state.2 second) :=
  ⟨Cursor.isConsumer_reception, by decide +kernel, by decide +kernel,
    (Session.synchronised answeredOnce).2 (.fetch 7 0 0) _ Cursor.isConsumer_reception,
    (Session.synchronised _).2 (.fetch 7 0 0) _ Cursor.isConsumer_reception⟩

end ProxyClient
