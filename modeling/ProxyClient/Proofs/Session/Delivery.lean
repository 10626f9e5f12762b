/-
ProxyClient/Proofs/Session/Delivery.lean

What becomes of a query when the network delivers its answer, and when it
does not.  Either all of the answer arrives (`Network.Delivers`): then every
event is taken, and the session is ready for the next request.  If the answer
ends with an error, those in front of it are taken (`Session.run_of_refused`).
Or the request is not taken, or some bytes of the answer are lost
(`Network.Loses`): then the connection is broken, and a beginning of the
answer was taken, which may be empty.
-/
import ProxyClient.Proofs.Exchange.Events
import ProxyClient.Proofs.Session.Synchrony

namespace ProxyClient

variable {ν : Type} [Network ν]

/-! ### Networks -/

/-- A request brings all of a reply, and leaves the network as `after` tells. -/
def Network.Delivers (network : ν) (link : LinkId) (request : Request) (reply : Bytes)
    (after : ν → Prop) : Prop :=
  ∀ bytes, request.encode = .ok bytes →
    ∃ reset, (Network.send network link bytes).1 = .accepted reply reset ∧
      after (Network.send network link bytes).2

/-- A request is not taken, or does not bring all of a reply. -/
def Network.Loses (network : ν) (link : LinkId) (request : Request) (reply : Bytes) : Prop :=
  ∀ bytes, request.encode = .ok bytes →
    (Network.send network link bytes).1 = .failed ∨
      ∃ arrived lost reset, reply = arrived ++ lost ∧ lost ≠ [] ∧
        (Network.send network link bytes).1 = .accepted arrived reset

theorem Network.Delivers.imp {network : ν} {link : LinkId} {request : Request} {reply : Bytes}
    {after after' : ν → Prop} (delivers : Network.Delivers network link request reply after)
    (h : ∀ network, after network → after' network) :
    Network.Delivers network link request reply after' := by
  intro bytes written
  obtain ⟨reset, accepted, stands⟩ := delivers bytes written
  exact ⟨reset, accepted, h _ stands⟩

/-- A request is answered by one frame, and `after` tells how the network is left
by the answer that is given. -/
def Network.Replies (network : ν) (link : LinkId) (request : Request) (after : Frame → ν → Prop) :
    Prop :=
  ∀ bytes, request.encode = .ok bytes →
    ∃ frame reset, frame.Fits ∧
      (Network.send network link bytes).1 = .accepted frame.encode reset ∧
      after frame (Network.send network link bytes).2

theorem Traffic.send_of_failed {traffic : Traffic ν} {link : LinkId} {bytes : Bytes}
    (h : (Network.send traffic.network link bytes).1 = .failed) :
    ∃ traffic', traffic.send link bytes = (.failed, traffic') ∧
      traffic'.network = (Network.send traffic.network link bytes).2 := by
  rcases e : Network.send traffic.network link bytes with ⟨result, network⟩
  rw [e] at h
  obtain rfl : result = .failed := h
  exact ⟨({ traffic with network }).note (.sendFailed link), by rw [Traffic.send, e], rfl⟩

theorem Traffic.send_of_accepted {traffic : Traffic ν} {link : LinkId} {bytes reply : Bytes}
    {reset : Bool} (h : (Network.send traffic.network link bytes).1 = .accepted reply reset) :
    ∃ traffic', traffic.send link bytes = (.accepted reply reset, traffic') ∧
      traffic'.network = (Network.send traffic.network link bytes).2 := by
  rcases e : Network.send traffic.network link bytes with ⟨result, network⟩
  rw [e] at h
  obtain rfl : result = .accepted reply reset := h
  exact ⟨({ traffic with network }).note (.sent link bytes), by rw [Traffic.send, e], rfl⟩

/-- A request was sent, or was to be sent. -/
def NetworkEvent.IsRequest : NetworkEvent → Prop
  | .sent _ _ | .sendFailed _ => True
  | _ => False

theorem Traffic.events_send (traffic : Traffic ν) (link : LinkId) (bytes : Bytes) :
    ∃ event : NetworkEvent, (event = .sent link bytes ∨ event = .sendFailed link) ∧
      (traffic.send link bytes).2.events = traffic.events ++ [event] := by
  rw [send]
  rcases Network.send traffic.network link bytes with ⟨- | ⟨reply, reset⟩, network⟩
  · exact ⟨.sendFailed link, .inr rfl, rfl⟩
  · exact ⟨.sent link bytes, .inl rfl, rfl⟩

theorem Traffic.network_send (traffic : Traffic ν) (link : LinkId) (bytes : Bytes) :
    (traffic.send link bytes).2.network = (Network.send traffic.network link bytes).2 := by
  rw [send]
  rcases Network.send traffic.network link bytes with ⟨- | ⟨reply, reset⟩, network⟩
  · rfl
  · rfl

/-- A query that can be written asks for its answer, and waits for it. -/
theorem Query.start_exchange {η : Type} {request : QueryRequest} {bytes : Bytes}
    (handler : Handler η) (query : Query η) (written : request.request.encode = .ok bytes) :
    (exchange request handler).start query =
      .ok bytes { query with phase := request.firstPhase } := by
  simp only [exchange, written]

namespace Session

/-! ### Ready sessions -/

/-- The session can be used over a link, and nothing of an answer is left. -/
structure Ready (session : Session ν) (link : LinkId) : Prop where
  /-- The connection can be used. -/
  usable : session.connection.broken = false
  /-- It has the link, and everything that arrived on it was read. -/
  there : ∃ inbox : Inbox, session.connection.transport = some { link, inbox } ∧ inbox.bytes = []

omit [Network ν] in
/-- The session sends no requests: its connection is broken, or it is parked. -/
def Refuses (session : Session ν) : Prop :=
  session.connection.broken = true ∨ session.connection.transport = none

theorem run_of_refuses {σ : Type} {session : Session ν} (refuses : session.Refuses)
    (exchange : Exchange σ) (state : σ) :
    ∃ e, session.run exchange state = .error e (session, state) := by
  rw [run]
  split
  · exact ⟨.connectionBroken, rfl⟩
  · next usable =>
    rw [refuses.resolve_left usable]
    exact ⟨.suspended, rfl⟩

/-- An exchange on a session that can be used sends its request. -/
theorem events_run {σ : Type} {session : Session ν} {exchange : Exchange σ}
    {request : Request} {frame : Frame} (sends : exchange.Sends request)
    (asked : request.frame = .ok frame) (usable : ¬ session.Refuses) (state : σ) :
    ∃ event : NetworkEvent, event.IsRequest ∧
      (session.run exchange state).state.1.traffic.events = session.traffic.events ++ [event] := by
  obtain ⟨whole, linked⟩ := not_or.mp usable
  obtain ⟨transport, there⟩ := Option.ne_none_iff_exists'.mp linked
  obtain ⟨event, which, events⟩ := session.traffic.events_send transport.link frame.encode
  refine ⟨event, by rcases which with rfl | rfl <;> trivial, ?_⟩
  rcases run_cases sends (by simpa using whole) there asked state with
    ⟨traffic, sent, _, ran⟩ | ⟨reply, reset, traffic, state', sent, ran⟩
  · rw [sent] at events
    rw [ran]
    exact events
  · rw [sent] at events
    rw [ran, Outcome.state_mapState]
    exact events

/-- It sends nothing else. -/
theorem network_run {σ : Type} {session : Session ν} {link : LinkId} {exchange : Exchange σ}
    {request : Request} {frame : Frame} (sends : exchange.Sends request)
    (asked : request.frame = .ok frame) (ready : session.Ready link) (state : σ) :
    (session.run exchange state).state.1.traffic.network =
      (Network.send session.traffic.network link frame.encode).2 := by
  obtain ⟨usable, inbox, there, -⟩ := ready
  have network := session.traffic.network_send link frame.encode
  rcases run_cases sends usable there asked state with
    ⟨traffic, sent, _, ran⟩ | ⟨reply, reset, traffic, state', sent, ran⟩
  · rw [sent] at network
    rw [ran]
    exact network
  · rw [sent] at network
    rw [ran, Outcome.state_mapState]
    exact network

omit [Network ν] in
/-- Another session differs only in its link and in whether it can be used. -/
def SameBut (session session' : Session ν) : Prop :=
  session'.connection =
    { session.connection with
      transport := session'.connection.transport
      broken := session'.connection.broken }

omit [Network ν] in
theorem SameBut.epoch_eq {session session' : Session ν} (h : session.SameBut session') :
    session'.connection.epoch = session.connection.epoch := by
  rw [h]

omit [Network ν] in
/-- That a statement ran does no harm to the connection. -/
theorem statementExecuted_connection (session : Session ν) :
    ∃ transaction, session.statementExecuted.connection =
      { session.connection with transaction } := by
  show ∃ transaction, (if session.connection.autocommit then session.connection
    else { session.connection with transaction := .inTransaction }) = _
  split
  · exact ⟨session.connection.transaction, rfl⟩
  · exact ⟨.inTransaction, rfl⟩

omit [Network ν] in
theorem Ready.statementExecuted {session : Session ν} {link : LinkId} (ready : session.Ready link) :
    session.statementExecuted.Ready link := by
  obtain ⟨transaction, e⟩ := session.statementExecuted_connection
  obtain ⟨usable, inbox, there, empty⟩ := ready
  refine ⟨?_, inbox, ?_, empty⟩
  · rw [e]
    exact usable
  · rw [e]
    exact there

section

variable {η : Type} {handler : Handler η} {take : η → RowEvent → η} {session : Session ν}
  {link : LinkId} {request : QueryRequest} {events : List RowEvent} {batch : BatchEnd}

/-- **A delivered answer is taken whole**, and the session is ready again. -/
theorem run_of_delivered (takes : handler.Takes take) (ready : session.Ready link)
    {bytes : Bytes} (written : request.request.encode = .ok bytes)
    (orderly : Orderly request.firstPhase (events ++ [RowEvent.batchEnd batch]))
    {after : ν → Prop}
    (delivers : Network.Delivers session.traffic.network link request.request
      (RowEvent.encodeAll (events ++ [RowEvent.batchEnd batch])) after) (query : Query η) :
    ∃ (session' : Session ν) (query' : Query η),
      session.run (Query.exchange request handler) query = .ok () (session', query') ∧
      session'.Ready link ∧ session.SameBut session' ∧ after session'.traffic.network ∧
      query'.handler = (events ++ [RowEvent.batchEnd batch]).foldl take query.handler := by
  obtain ⟨usable, inbox, there, empty⟩ := ready
  obtain ⟨reset, accepted, stands⟩ := delivers bytes written
  obtain ⟨traffic', sent, network⟩ := Traffic.send_of_accepted accepted
  have start := Query.start_exchange handler query written
  -- nothing of a former answer stands in front of this one
  have front : (inbox.add (RowEvent.encodeAll (events ++ [RowEvent.batchEnd batch])) reset).bytes =
      RowEvent.encodeAll (events ++ [RowEvent.batchEnd batch]) ++ [] := by
    show inbox.bytes ++ _ = _
    rw [empty, List.nil_append, List.append_nil]
  obtain ⟨behind, query', read, unread, -, taken⟩ :=
    Query.readAnswer_of_arrived request takes
      (show Orderly { query with phase := request.firstPhase }.phase _ from orderly) front
  refine ⟨⟨{ session.connection with transport := some { link, inbox := behind }, broken := false },
    traffic'⟩, query', ?_, ⟨rfl, behind, rfl, unread⟩, rfl, ?_, taken⟩
  · rw [run_of_accepted usable there start sent, read]
    rfl
  · rw [network]
    exact stands

/-- A request that is not taken hands over nothing, and breaks the connection. -/
theorem run_of_untaken (handler : Handler η) (ready : session.Ready link) {bytes : Bytes}
    (written : request.request.encode = .ok bytes)
    (failed : (Network.send session.traffic.network link bytes).1 = .failed) (query : Query η) :
    ∃ (e : Error) (session' : Session ν) (query' : Query η),
      session.run (Query.exchange request handler) query = .error e (session', query') ∧
      session'.connection.broken = true ∧ session.SameBut session' ∧
      session'.traffic.network = (Network.send session.traffic.network link bytes).2 ∧
      query'.handler = query.handler := by
  obtain ⟨usable, inbox, there, -⟩ := ready
  obtain ⟨traffic', sent, network⟩ := Traffic.send_of_failed failed
  have start := Query.start_exchange handler query written
  exact ⟨.io .brokenPipe, ⟨{ session.connection with broken := true }, traffic'⟩,
    { query with phase := request.firstPhase }, run_of_failed usable there start sent, rfl, rfl,
    network, rfl⟩

/-- Of events with a torn frame behind them the events are taken, and the
connection is broken. -/
theorem run_of_torn (takes : handler.Takes take) (ready : session.Ready link) {bytes : Bytes}
    (written : request.request.encode = .ok bytes) {front : List RowEvent} {torn : Bytes}
    (orderly : Orderly request.firstPhase front)
    (more : ∀ event ∈ front, Query.progressAfter event = .more) (tail : Frame.Torn torn)
    {reset : Bool}
    (accepted : (Network.send session.traffic.network link bytes).1 =
      .accepted (RowEvent.encodeAll front ++ torn) reset) (query : Query η) :
    ∃ (e : Error) (session' : Session ν) (query' : Query η),
      session.run (Query.exchange request handler) query = .error e (session', query') ∧
      session'.connection.broken = true ∧ session.SameBut session' ∧
      session'.traffic.network = (Network.send session.traffic.network link bytes).2 ∧
      query'.handler = front.foldl take query.handler := by
  obtain ⟨usable, inbox, there, empty⟩ := ready
  obtain ⟨traffic', sent, network⟩ := Traffic.send_of_accepted accepted
  have start := Query.start_exchange handler query written
  -- nothing was left in front of the answer
  have arrived : (inbox.add (RowEvent.encodeAll front ++ torn) reset).bytes =
      RowEvent.encodeAll front ++ torn := by
    show inbox.bytes ++ _ = _
    rw [empty, List.nil_append]
  obtain ⟨e, behind, query', breaks, read, taken⟩ :=
    Query.readAnswer_of_torn request takes
      (show Orderly { query with phase := request.firstPhase }.phase _ from orderly) more tail
      arrived
  refine ⟨e, ⟨{ session.connection with transport := some { link, inbox := behind }
                                        broken := true }, traffic'⟩,
    query', ?_, rfl, rfl, network, taken⟩
  rw [run_of_accepted usable there start sent, read]
  simp only [Outcome.mapState, Outcome.breaks, breaks]

/-- **Of an answer that is lost** a beginning was taken, without the end of the
batch, and the connection is broken. -/
theorem run_of_lost (takes : handler.Takes take) (ready : session.Ready link)
    {bytes : Bytes} (written : request.request.encode = .ok bytes)
    (orderly : Orderly request.firstPhase (events ++ [RowEvent.batchEnd batch]))
    (loses : Network.Loses session.traffic.network link request.request
      (RowEvent.encodeAll (events ++ [RowEvent.batchEnd batch]))) (query : Query η) :
    ∃ (e : Error) (session' : Session ν) (query' : Query η) (front : List RowEvent),
      session.run (Query.exchange request handler) query = .error e (session', query') ∧
      session'.connection.broken = true ∧ session.SameBut session' ∧ front <+: events ∧
      query'.handler = front.foldl take query.handler := by
  rcases loses bytes written with failed | ⟨arrived, lost, reset, split, nonempty, accepted⟩
  · obtain ⟨e, session', query', run, broken, same, -, taken⟩ :=
      run_of_untaken handler ready written failed query
    exact ⟨e, session', query', [], run, broken, same, List.nil_prefix, taken⟩
  · -- what arrived are some frames, and a part of the next
    obtain ⟨front, event, back, torn, cut, rfl, tail⟩ := orderly.exists_of_cut split nonempty
    -- the frame that is cut off may be that of the batch end
    have before : front <+: events := by
      have lengths := congrArg List.length cut
      simp only [List.length_append, List.length_cons, List.length_nil] at lengths
      exact List.prefix_of_prefix_length_le ⟨event :: back, cut.symm⟩
        (List.prefix_append events [RowEvent.batchEnd batch]) (by omega)
    rw [cut] at orderly
    obtain ⟨e, session', query', run, broken, same, -, taken⟩ :=
      run_of_torn takes ready written (orderly_append.mp orderly).1
        (orderly.more_of_append (by simp)) tail accepted query
    exact ⟨e, session', query', front, run, broken, same, before, taken⟩

/-- **Of an answer that ends with an error** the events in front of it are taken.  The
connection can be used as before, unless the error breaks it. -/
theorem run_of_refused (takes : handler.Takes take) (ready : session.Ready link) {bytes : Bytes}
    (written : request.request.encode = .ok bytes) {front : List RowEvent}
    (orderly : Orderly request.firstPhase front)
    (more : ∀ event ∈ front, Query.progressAfter event = .more) {frame : Frame} (fits : frame.Fits)
    (type : frame.type = ServerMessage.Kind.error.toByte) {after : ν → Prop}
    (delivers : Network.Delivers session.traffic.network link request.request
      (RowEvent.encodeAll front ++ frame.encode) after) (query : Query η) :
    ∃ (e : Error) (session' : Session ν) (query' : Query η),
      session.run (Query.exchange request handler) query = .error e (session', query') ∧
      (session'.Refuses ∨ session'.Ready link) ∧ session.SameBut session' ∧
      after session'.traffic.network ∧ query'.handler = front.foldl take query.handler := by
  obtain ⟨usable, inbox, there, empty⟩ := ready
  obtain ⟨reset, accepted, stands⟩ := delivers bytes written
  obtain ⟨traffic', sent, network⟩ := Traffic.send_of_accepted accepted
  have start := Query.start_exchange handler query written
  have arrived : (inbox.add (RowEvent.encodeAll front ++ frame.encode) reset).bytes =
      RowEvent.encodeAll front ++ (frame.encode ++ []) := by
    show inbox.bytes ++ _ = _
    rw [empty, List.nil_append, List.append_nil]
  -- the error comes behind the events
  obtain ⟨inbox₁, query₁, e₁, front₁, -, -, taken⟩ :=
    Query.readAnswer_append request takes
      (show Orderly { query with phase := request.firstPhase }.phase _ from orderly) more arrived
  obtain ⟨behind, read, unread, -⟩ := Query.readFrame_of_arrived fits front₁
  have step : (Query.exchange request handler).step frame query₁ =
      .error (ErrorReport.errorOf frame.payload) { query₁ with phase := .finished } := by
    show Query.step handler frame _ = _
    rw [Query.step, Query.eventOf_of_error _ type]
    simp only [type, if_true]
  refine ⟨ErrorReport.errorOf frame.payload,
    ⟨{ session.connection with
        transport := some { link, inbox := behind }
        broken := (ErrorReport.errorOf frame.payload).breaksConnection }, traffic'⟩,
    { query₁ with phase := .finished }, ?_, ?_, rfl, ?_, taken⟩
  · rw [run_of_accepted usable there start sent, e₁, readAnswer_of_frame _ _ read, step]
    rfl
  · cases (ErrorReport.errorOf frame.payload).breaksConnection with
    | true => exact .inl (.inl rfl)
    | false => exact .inr ⟨rfl, behind, rfl, unread⟩
  · rw [network]
    exact stands

end

end Session

end ProxyClient
