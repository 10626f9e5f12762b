/-
ProxyClient/Proofs/Exchange/Journal.lean

What the answer to a query brings does not depend on who takes it.  A journal
takes every event and keeps it; what a journal has kept after a query is what
the session was told (`Session.ask`), and a handler that takes everything ends
with what it makes of that:

    session.run (Query.exchange request handler) { handler := state }
      =  session.ask request, with  events.foldl take state

Nothing is supposed of the network: the answer may be lost, refused or
senseless.  It is still in place: a description comes first where one is
expected, and nowhere else, and nothing comes behind the end of a batch.
-/
import ProxyClient.Proofs.Paging.Server

namespace ProxyClient

/-! ### Exchanges with other states -/

section

variable {σ τ : Type} {f : σ → τ} {exchange : Exchange σ} {image : Exchange τ}

/-- An exchange does with the images of states what another one does with the
states. -/
structure Exchange.Commutes (f : σ → τ) (exchange : Exchange σ) (image : Exchange τ) : Prop where
  /-- It begins alike. -/
  start : ∀ state, image.start (f state) = (exchange.start state).mapState f
  /-- It takes every frame alike. -/
  step : ∀ frame state, image.step frame (f state) = (exchange.step frame state).mapState f

/-- The answer is read alike. -/
theorem readAnswer_map {ι : Type} [ByteSource ι] (commutes : exchange.Commutes f image)
    (input : ι) (state : σ) :
    readAnswer image input (f state) =
      (readAnswer exchange input state).mapState (Prod.map id f) := by
  -- the induction follows the frames of the answer
  fun_induction readAnswer exchange input state with
  | case1 input state input' e =>
    rw [readAnswer]
    split <;> simp_all [Outcome.mapState]
  | case2 input state t err input' e =>
    rw [readAnswer]
    split <;> simp_all [Outcome.mapState]
  | case3 input state frame input' e err state' step =>
    rw [readAnswer_of_frame image _ e, commutes.step, step]
    rfl
  | case4 input state frame input' e state' step =>
    rw [readAnswer_of_frame image _ e, commutes.step, step]
    rfl
  | case5 input state frame input' e state' step _ ih =>
    rw [readAnswer_of_frame image _ e, commutes.step, step]
    exact ih

variable {ν : Type} [Network ν]

theorem Transport.perform_map (commutes : exchange.Commutes f image) (transport : Transport)
    (traffic : Traffic ν) (state : σ) :
    transport.perform image traffic (f state) =
      (transport.perform exchange traffic state).mapState (Prod.map id f) := by
  rw [perform, perform, commutes.start]
  rcases exchange.start state with ⟨bytes, state'⟩ | ⟨e, state'⟩
  · simp only [Outcome.mapState]
    rcases transport.send bytes traffic with ⟨-, transport', traffic'⟩ | ⟨e, ends⟩
    · simp only [readAnswer_map commutes]
      rcases readAnswer exchange transport'.inbox state' with ⟨-, inbox, last⟩ | ⟨e, inbox, last⟩
      · rfl
      · rfl
    · rfl
  · rfl

/-- An exchange on a session ends alike. -/
theorem Session.run_map (commutes : exchange.Commutes f image) (session : Session ν) (state : σ) :
    session.run image (f state) = (session.run exchange state).mapState (Prod.map id f) := by
  rw [run, run]
  split
  · rfl
  · split
    · rfl
    · next transport _ =>
      simp only [Transport.perform_map commutes]
      rcases transport.perform exchange session.traffic state with
        ⟨-, ⟨transport', traffic⟩, last⟩ | ⟨e, ⟨transport', traffic⟩, last⟩
      · rfl
      · rfl

/-- An exchange changes of the connection its link at most, and whether it can be used. -/
theorem Session.sameBut_run (session : Session ν) (exchange : Exchange σ) (state : σ) :
    session.SameBut (session.run exchange state).state.1 := by
  rw [run]
  split
  · rfl
  · split
    · rfl
    · split <;> rfl

end

/-! ### Journals -/

/-- Takes every event and keeps it. -/
def Handler.journal : Handler (List RowEvent) :=
  fun event events => .ok () (events ++ [event])

theorem Handler.takes_journal : Handler.journal.Takes fun events event => events ++ [event] :=
  fun _ _ => rfl

namespace Query

variable {η : Type} {handler : Handler η} {take : η → RowEvent → η}

/-- The query for a handler that has taken what the journal has kept. -/
def told (take : η → RowEvent → η) (start : η) (query : Query (List RowEvent)) : Query η :=
  { phase := query.phase, rows := query.rows, handler := query.handler.foldl take start }

/-- A handler that takes everything goes along with the journal. -/
theorem commutes_journal (request : QueryRequest) (takes : handler.Takes take) (start : η) :
    (exchange request Handler.journal).Commutes (told take start) (exchange request handler) where
  start := by
    intro query
    simp only [exchange]
    rcases request.request.encode with e | bytes
    · rfl
    · rfl
  step := by
    intro frame query
    show step handler frame (told take start query) =
      (step Handler.journal frame query).mapState (told take start)
    have same : (told take start query).phase = query.phase := rfl
    rw [step, step, same]
    -- the handler refuses no event, and neither does the journal
    rcases eventOf query.phase frame with e | event
    · rfl
    · simp only [takes event, Handler.takes_journal event]
      simp only [Outcome.mapState, told, List.foldl_append, List.foldl_cons, List.foldl_nil]

end Query

/-! ### Answers as events -/

/-- Events each of which is in place in an answer that has come to a phase. -/
def InPlace : QueryPhase → List RowEvent → Prop
  | _, [] => True
  | phase, event :: rest => event.phase = phase ∧ InPlace (Query.phaseAfter event) rest

namespace InPlace

variable {events : List RowEvent}

/-- Nothing comes behind the end of a batch. -/
theorem eq_nil_of_finished (h : InPlace .finished events) : events = [] := by
  cases events with
  | nil => rfl
  | cons event events =>
    have place : event.phase = .finished := h.1
    cases event <;> contradiction

/-- Where a description is expected, it comes first. -/
theorem eq_nil_or_describe (h : InPlace .waitingDescribe events) :
    events = [] ∨ ∃ describe rest, events = .describe describe :: rest ∧
      InPlace .processingRows rest := by
  cases events with
  | nil => exact .inl rfl
  | cons event rest =>
    cases event with
    | describe d => exact .inr ⟨d, rest, rfl, h.2⟩
    | outputBinds | row | batchEnd =>
      have place : QueryPhase.processingRows = .waitingDescribe := h.1
      contradiction

/-- Rows are in place in front of what may follow them. -/
theorem rows (rows : List DataRow) {rest : List RowEvent} (h : InPlace .processingRows rest) :
    InPlace .processingRows (rows.map .row ++ rest) := by
  induction rows with
  | nil => exact h
  | cons row rows ih => exact ⟨rfl, ih⟩

/-- Among rows the identifier of the result set stays. -/
theorem foldl_apply (h : InPlace .processingRows events) (rs : ResultSet) :
    (events.foldl ResultSet.apply rs).id = rs.id ∧
      (events.foldl ResultSet.apply rs).suspended = rs.suspended := by
  -- in its place no event brings another result set
  induction events generalizing rs with
  | nil => exact ⟨rfl, rfl⟩
  | cons event events ih =>
    obtain ⟨place, rest⟩ := h
    cases event with
    | describe d =>
      have place : QueryPhase.waitingDescribe = .processingRows := place
      contradiction
    | outputBinds binds => exact ih rest { rs with outputs := binds }
    | row row => exact ih rest (rs.addRow row.values)
    | batchEnd batch =>
      obtain rfl := rest.eq_nil_of_finished
      exact ⟨rfl, rfl⟩

end InPlace

/-- A journal keeps the event of a frame, or the answer fails. -/
theorem Query.step_journal (request : QueryRequest) (frame : Frame) (query : Query (List RowEvent)) :
    (∃ e phase, (exchange request Handler.journal).step frame query =
      .error e { query with phase }) ∨
    ∃ event, event.phase = query.phase ∧
      (exchange request Handler.journal).step frame query =
        .ok (progressAfter event)
          { phase := phaseAfter event, rows := query.rows + rowsIn event
            handler := query.handler ++ [event] } := by
  rcases found : eventOf query.phase frame with e | event
  · refine .inl ⟨e,
      if frame.type = ServerMessage.Kind.error.toByte then .finished else query.phase, ?_⟩
    show step Handler.journal frame query = _
    rw [step, found]
  · refine .inr ⟨event, (eventOf_eq_ok_iff.mp found).2, ?_⟩
    show step Handler.journal frame query = _
    rw [step, found]
    rfl

/-- What a journal keeps of an answer is in place, and the end of a batch is the
last of it if the answer is complete. -/
theorem Query.readAnswer_journal {ι : Type} [ByteSource ι] (request : QueryRequest) (input : ι)
    (query : Query (List RowEvent)) :
    ∃ events : List RowEvent,
      (readAnswer (exchange request Handler.journal) input query).state.2.handler =
        query.handler ++ events ∧
      InPlace query.phase events ∧
      ((readAnswer (exchange request Handler.journal) input query).toExcept = .ok () →
        ∃ front batch, events = front ++ [RowEvent.batchEnd batch]) := by
  -- the induction follows the frames of the answer
  fun_induction readAnswer (exchange request Handler.journal) input query with
  | case1 | case2 =>
    exact ⟨[], (List.append_nil _).symm, trivial, fun ok => by contradiction⟩
  | case3 input query frame input' _ err query' step =>
    rcases step_journal request frame query with ⟨e, phase, step'⟩ | ⟨event, -, step'⟩
    · obtain ⟨-, rfl⟩ := EStateM.Result.error.inj (step.symm.trans step')
      exact ⟨[], (List.append_nil _).symm, trivial, fun ok => by contradiction⟩
    · rw [step] at step'
      contradiction
  | case4 input query frame input' _ query' step =>
    rcases step_journal request frame query with ⟨e, phase, step'⟩ | ⟨event, place, step'⟩
    · rw [step] at step'
      contradiction
    · obtain ⟨done, rfl⟩ := EStateM.Result.ok.inj (step.symm.trans step')
      refine ⟨[event], rfl, ⟨place, trivial⟩, fun _ => ?_⟩
      cases event with
      | batchEnd batch => exact ⟨[], batch, rfl⟩
      | describe | outputBinds | row => contradiction
  | case5 input query frame input' _ query' step _ ih =>
    rcases step_journal request frame query with ⟨e, phase, step'⟩ | ⟨event, place, step'⟩
    · rw [step] at step'
      contradiction
    · obtain ⟨-, rfl⟩ := EStateM.Result.ok.inj (step.symm.trans step')
      obtain ⟨events, kept, places, closed⟩ := ih
      refine ⟨event :: events, ?_, ⟨place, places⟩, fun ok => ?_⟩
      · rw [kept, List.append_assoc]
        rfl
      · obtain ⟨front, batch, rfl⟩ := closed ok
        exact ⟨event :: front, batch, rfl⟩

/-! ### Sessions -/

namespace Session

variable {ν : Type} [Network ν]

/-- Asks a query, and keeps the events of the answer. -/
def ask (request : QueryRequest) (session : Session ν) :
    Outcome Unit (Session ν × List RowEvent) :=
  (session.run (Query.exchange request Handler.journal) { handler := [] }).mapState
    fun (after, query) => (after, query.handler)

/-- A handler that takes everything ends with what it makes of these events. -/
theorem run_eq_ask {η : Type} {handler : Handler η} {take : η → RowEvent → η}
    (takes : handler.Takes take) (request : QueryRequest) (session : Session ν) (state : η) :
    (session.run (Query.exchange request handler) { handler := state }).mapState
        (fun (after, query) => (after, query.handler)) =
      (session.ask request).mapState fun (after, events) => (after, events.foldl take state) := by
  have along : session.run (Query.exchange request handler) { handler := state } = _ :=
    run_map (Query.commutes_journal request takes state) session { handler := [] }
  rw [along, ask]
  rcases session.run (Query.exchange request Handler.journal) { handler := [] } with
    ⟨-, after, query⟩ | ⟨e, after, query⟩
  · rfl
  · rfl

theorem sameBut_ask (request : QueryRequest) (session : Session ν) :
    session.SameBut (session.ask request).state.1 := by
  rw [ask, Outcome.state_mapState]
  exact sameBut_run ..

/-- What a session that sends no requests answers does not depend on the request. -/
theorem exists_ask_of_refuses {session : Session ν} (refuses : session.Refuses) :
    ∃ e, ∀ request, session.ask request = .error e (session, []) := by
  by_cases broken : session.connection.broken = true
  · refine ⟨.connectionBroken, fun request => ?_⟩
    rw [ask, run, if_pos broken]
    rfl
  · refine ⟨.suspended, fun request => ?_⟩
    rw [ask, run, if_neg broken, refuses.resolve_left broken]
    rfl

/-- No answer is read, or it is read by the journal. -/
theorem ask_cases (request : QueryRequest) (session : Session ν) :
    (∃ e after, session.ask request = .error e (after, [])) ∨
      ∃ input : Inbox,
        let answer := readAnswer (Query.exchange request Handler.journal) input
          { phase := request.firstPhase, handler := [] }
        (session.ask request).toExcept = answer.toExcept ∧
          (session.ask request).state.2 = answer.state.2.handler := by
  by_cases refuses : session.Refuses
  · -- nothing can be sent
    obtain ⟨e, ran⟩ :=
      run_of_refuses refuses (Query.exchange request Handler.journal) { handler := [] }
    rw [ask, ran]
    exact .inl ⟨e, session, rfl⟩
  · obtain ⟨whole, linked⟩ := not_or.mp refuses
    have usable : session.connection.broken = false := by simpa using whole
    obtain ⟨transport, there⟩ := Option.ne_none_iff_exists'.mp linked
    rcases written : request.request.encode with e | bytes
    · -- the request cannot be written
      have start : (Query.exchange request Handler.journal).start { handler := [] } =
          .error e { handler := [] } := by
        simp only [Query.exchange, written]
      rw [ask, run_of_unwritten usable there start (Request.usable_of_encode_error written)]
      exact .inl ⟨e, session, rfl⟩
    · have start := Query.start_exchange Handler.journal { handler := [] } written
      rcases sent : session.traffic.send transport.link bytes with ⟨- | ⟨reply, reset⟩, traffic⟩
      · -- it could not be sent
        rw [ask, run_of_failed usable there start sent]
        exact .inl ⟨_, _, rfl⟩
      · -- an answer is awaited
        refine .inr ⟨transport.inbox.add reply reset, ?_⟩
        rw [ask, run_of_accepted usable there start sent]
        rcases readAnswer (Query.exchange request Handler.journal)
            (transport.inbox.add reply reset) { phase := request.firstPhase, handler := [] } with
          ⟨⟨⟩, inbox, last⟩ | ⟨e, inbox, last⟩
        · exact ⟨rfl, rfl⟩
        · exact ⟨rfl, rfl⟩

/-- The events of an answer are in place, and the end of a batch is the last of
them if the answer is complete. -/
theorem ask_inPlace (request : QueryRequest) (session : Session ν) :
    InPlace request.firstPhase (session.ask request).state.2 ∧
      ((session.ask request).toExcept = .ok () →
        ∃ front batch, (session.ask request).state.2 = front ++ [RowEvent.batchEnd batch]) := by
  rcases session.ask_cases request with ⟨e, after, asked⟩ | ⟨input, ends, kept⟩
  · rw [asked]
    exact ⟨trivial, fun ok => by contradiction⟩
  · obtain ⟨events, same, places, closed⟩ := Query.readAnswer_journal request input
      { phase := request.firstPhase, handler := [] }
    rw [List.nil_append] at same
    rw [ends, kept, same]
    exact ⟨places, closed⟩

end Session

namespace Cursor

variable {ν : Type} [Network ν]

/-- The page and the recorder of a cursor take these events. -/
theorem query_eq_ask (request : QueryRequest) (cursor : Cursor ν) :
    cursor.query request =
      (cursor.session.ask request).mapState fun (after, events) => cursor.taking after events := by
  have along := Session.run_eq_ask takes_reception request cursor.session cursor.parts
  have put := congrArg (Outcome.mapState fun (session, parts) =>
    { cursor with session }.withParts parts) along
  rw [Outcome.mapState_mapState, Outcome.mapState_mapState] at put
  exact put

/-- So it is with a page from the server. -/
theorem fetchPage_eq_ask {cursor : Cursor ν} (live : cursor.source = none) {id : ResultSetId}
    (known : cursor.result.id = some id) (skip : Nat) :
    cursor.fetchPage skip =
      match cursor.session.ask (.fetch id (UInt64.ofNat skip) cursor.bufferSize) with
      | .ok () (session, events) =>
        .ok (cursor.begun.taking session events).result.rows.length
          (cursor.begun.taking session events)
      | .error e (session, events) => .error e (cursor.begun.taking session events) := by
  rw [fetchPage_eq_query live known, query_eq_ask]
  have session_eq : cursor.begun.session = cursor.session := rfl
  rw [session_eq]
  rcases cursor.session.ask (.fetch id (UInt64.ofNat skip) cursor.bufferSize) with
    ⟨⟨⟩, session, events⟩ | ⟨e, session, events⟩
  · rfl
  · rfl

end Cursor

end ProxyClient
