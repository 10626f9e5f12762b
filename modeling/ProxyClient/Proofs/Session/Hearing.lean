/-
ProxyClient/Proofs/Session/Hearing.lean

What a client hears of the answers to its queries.  A network that is tapped
is the same network, and keeps every byte that it brings to the client
(`Tapped`); which frames arrived whole can be told from these bytes
(`framesIn`).  A query to a server that answers as documented
(`Network.Answers`) ends in one of three ways (`QueryEnd`):

    the answer arrives      →  all of its events are handed over
    it ends with an error   →  those in front of the error are
    it is lost              →  those whose frames were heard whole are, and
                               the connection is broken
-/
import ProxyClient.Proofs.Cache.Recording
import ProxyClient.Proofs.Paging.Server

namespace ProxyClient

/-! ### Frames that arrived whole -/

/-- The frames that are complete, from the front of some bytes. -/
def framesIn (bytes : Bytes) : List Frame :=
  match h : CacheWriter.nextFrame? bytes with
  | none => []
  | some (frame, rest) =>
    have := CacheWriter.length_lt_of_nextFrame? h
    frame :: framesIn rest
termination_by bytes.length

theorem framesIn_of_nextFrame?_eq_none {bytes : Bytes} (h : CacheWriter.nextFrame? bytes = none) :
    framesIn bytes = [] := by
  rw [framesIn]
  split
  · rfl
  · next next_ =>
    rw [h] at next_
    contradiction

theorem framesIn_encode {frame : Frame} (fits : frame.Fits) (rest : Bytes) :
    framesIn (frame.encode ++ rest) = frame :: framesIn rest := by
  rw [framesIn]
  split
  · next none_ =>
    rw [CacheWriter.nextFrame?_encode fits] at none_
    contradiction
  · next next_ =>
    rw [CacheWriter.nextFrame?_encode fits] at next_
    obtain ⟨rfl, rfl⟩ := Prod.mk.inj (Option.some.inj next_)
    rfl

/-- Frames are found again, whether or not a torn one stands behind them. -/
theorem framesIn_append {frames : List Frame} (fit : ∀ frame ∈ frames, frame.Fits) {torn : Bytes}
    (tail : torn = [] ∨ Frame.Torn torn) :
    framesIn (frames.flatMap Frame.encode ++ torn) = frames := by
  induction frames with
  | nil =>
    apply framesIn_of_nextFrame?_eq_none
    rcases tail with rfl | torn
    · rfl
    · exact CacheWriter.nextFrame?_of_torn torn
  | cons frame frames ih =>
    rw [List.flatMap_cons, List.append_assoc, framesIn_encode (fit frame (by simp))]
    rw [ih fun f mem => fit f (List.mem_cons_of_mem _ mem)]

/-- The frame says that something was done, or that it was not. -/
def Frame.IsNotice (frame : Frame) : Prop :=
  frame.type = ServerMessage.Kind.ok.toByte ∨ frame.type = ServerMessage.Kind.error.toByte

/-! ### Networks that are tapped -/

/-- A network that keeps what it has brought to the client. -/
structure Tapped (ν : Type) where
  /-- The network. -/
  network : ν
  /-- The bytes that it has brought, over all links. -/
  heard : Bytes := []

namespace Tapped

variable {ν : Type} [Network ν]

/-- Sends the bytes of a request, and keeps the reply. -/
def send (tapped : Tapped ν) (link : LinkId) (bytes : Bytes) : SendResult × Tapped ν :=
  match Network.send tapped.network link bytes with
  | (.failed, network) => (.failed, { tapped with network })
  | (.accepted reply reset, network) =>
    (.accepted reply reset, { network, heard := tapped.heard ++ reply })

instance : Network (Tapped ν) where
  dial tapped address :=
    let (link, network) := Network.dial tapped.network address
    (link, { tapped with network })
  send := send

variable {tapped : Tapped ν} {link : LinkId} {bytes reply : Bytes} {reset : Bool}

theorem send_of_failed (h : (Network.send tapped.network link bytes).1 = .failed) :
    (Network.send tapped link bytes).1 = .failed ∧
      (Network.send tapped link bytes).2.heard = tapped.heard := by
  show (send tapped link bytes).1 = .failed ∧ (send tapped link bytes).2.heard = _
  rw [send]
  rcases e : Network.send tapped.network link bytes with ⟨result, network⟩
  rw [e] at h
  obtain rfl : result = .failed := h
  exact ⟨rfl, rfl⟩

theorem send_of_accepted (h : (Network.send tapped.network link bytes).1 = .accepted reply reset) :
    Network.send tapped link bytes =
      (.accepted reply reset,
        ⟨(Network.send tapped.network link bytes).2, tapped.heard ++ reply⟩) := by
  show send tapped link bytes = _
  rw [send]
  rcases e : Network.send tapped.network link bytes with ⟨result, network⟩
  rw [e] at h
  obtain rfl : result = .accepted reply reset := h
  rfl

/-- What a network delivers is delivered and kept. -/
theorem delivers {request : Request} {after : ν → Prop}
    (h : Network.Delivers tapped.network link request reply after) :
    Network.Delivers tapped link request reply fun tapped' =>
      after tapped'.network ∧ tapped'.heard = tapped.heard ++ reply := by
  intro bytes written
  obtain ⟨reset, accepted, stands⟩ := h bytes written
  rw [send_of_accepted accepted]
  exact ⟨reset, rfl, stands, rfl⟩

end Tapped

/-! ### Answers -/

/-- The documented answers to a query, as events and the error that may end them.
If all rows were asked for, the end of the batch says that no rows are left. -/
inductive QueryRequest.IsReply (request : QueryRequest) : List RowEvent → Option Frame → Prop
  /-- What was asked for, up to the end of the batch. -/
  | batch {events : List RowEvent} {batch : BatchEnd}
      (orderly : Orderly request.firstPhase (events ++ [.batchEnd batch]))
      (rest : ∀ id skip, request = .fetch id skip 0 → batch.endOfResultSet = true) :
      IsReply request (events ++ [.batchEnd batch]) none
  /-- An error, in front of the end. -/
  | error {events : List RowEvent} {frame : Frame} (orderly : Orderly request.firstPhase events)
      (more : ∀ event ∈ events, Query.progressAfter event = .more) (fits : frame.Fits)
      (type : frame.type = ServerMessage.Kind.error.toByte) : IsReply request events (some frame)

/-- The frames of an answer. -/
def replyFrames (events : List RowEvent) (error? : Option Frame) : List Frame :=
  events.map RowEvent.frame ++ error?.toList

@[simp] theorem replyFrames_none (events : List RowEvent) :
    replyFrames events none = events.map RowEvent.frame :=
  List.append_nil _

theorem flatMap_replyFrames_some (events : List RowEvent) (frame : Frame) :
    (replyFrames events (some frame)).flatMap Frame.encode =
      RowEvent.encodeAll events ++ frame.encode := by
  rw [replyFrames, List.flatMap_append, ← RowEvent.encodeAll_eq_flatMap]
  exact congrArg _ (List.flatMap_singleton ..)

/-- A query is answered as documented, over a link that may be lost at any byte.
`after` tells how the network is left if the whole answer arrives. -/
def Network.Answers {ν : Type} [Network ν] (network : ν) (link : LinkId) (request : QueryRequest)
    (events : List RowEvent) (error? : Option Frame) (after : ν → Prop) : Prop :=
  request.IsReply events error? ∧
    (Network.Delivers network link request.request
        ((replyFrames events error?).flatMap Frame.encode) after ∨
      Network.Loses network link request.request ((replyFrames events error?).flatMap Frame.encode))

/-- A command is done or refused, over a link that may be lost at any byte. -/
def Network.Acknowledges {ν : Type} [Network ν] (network : ν) (link : LinkId) (command : Command) :
    Prop :=
  ∃ frame : Frame, frame.Fits ∧ frame.IsNotice ∧
    (Network.Delivers network link (.command command) frame.encode (fun _ => True) ∨
      Network.Loses network link (.command command) frame.encode)

/-- The beginning of an answer is the frames of some events and a torn frame. -/
theorem QueryRequest.IsReply.cut {request : QueryRequest} {events : List RowEvent}
    {error? : Option Frame} (reply : request.IsReply events error?) {arrived lost : Bytes}
    (split : (replyFrames events error?).flatMap Frame.encode = arrived ++ lost)
    (nonempty : lost ≠ []) :
    ∃ front torn, front <+: events ∧ arrived = RowEvent.encodeAll front ++ torn ∧
      Frame.Torn torn ∧ Orderly request.firstPhase front ∧
      ∀ event ∈ front, Query.progressAfter event = .more := by
  cases reply with
  | batch orderly rest =>
    rw [replyFrames_none, ← RowEvent.encodeAll_eq_flatMap] at split
    obtain ⟨front, event, back, torn, cut, rfl, tail⟩ := orderly.exists_of_cut split nonempty
    have before : front <+: _ := ⟨event :: back, cut.symm⟩
    rw [cut] at orderly
    exact ⟨front, torn, before, rfl, tail, (orderly_append.mp orderly).1,
      orderly.more_of_append (by simp)⟩
  | @error _ frame orderly more fits type =>
    rw [flatMap_replyFrames_some] at split
    rcases List.append_eq_append_iff.mp split with ⟨torn, rfl, rest⟩ | ⟨torn, whole, -⟩
    · -- the cut stands inside of the error
      exact ⟨_, torn, List.prefix_rfl, rfl, ⟨frame, lost, fits, nonempty, rest⟩, orderly, more⟩
    · by_cases complete : torn = []
      · rw [complete, List.append_nil] at whole
        exact ⟨_, [], List.prefix_rfl, by rw [← whole, List.append_nil],
          ⟨frame, frame.encode, fits, frame.encode_ne_nil, rfl⟩, orderly, more⟩
      · obtain ⟨front, event, back, torn', rfl, rfl, tail⟩ := orderly.exists_of_cut whole complete
        exact ⟨front, torn', ⟨event :: back, rfl⟩, rfl, tail, (orderly_append.mp orderly).1,
          fun event mem => more event (List.mem_append_left _ mem)⟩

/-! ### Ends of queries -/

variable {ν : Type}

/-- How a query ends that is answered by given events and a given error: whether it
fails, which events were handed over, which error frame was heard whole, and
which bytes behind it. -/
inductive QueryEnd (request : QueryRequest) (link : LinkId) (after : ν → Prop)
    (session : Session (Tapped ν)) :
    List RowEvent → Option Frame → Option Error → List RowEvent → Option Frame → Bytes → Prop
  /-- The answer arrived. -/
  | arrived {events : List RowEvent} {batch : BatchEnd}
      (orderly : Orderly request.firstPhase (events ++ [.batchEnd batch]))
      (rest : ∀ id skip, request = .fetch id skip 0 → batch.endOfResultSet = true)
      (ready : session.Ready link) (stands : after session.traffic.network.network) :
      QueryEnd request link after session (events ++ [.batchEnd batch]) none none
        (events ++ [.batchEnd batch]) none []
  /-- It ended with an error. -/
  | refused {events : List RowEvent} {frame : Frame} {e : Error}
      (orderly : Orderly request.firstPhase events)
      (more : ∀ event ∈ events, Query.progressAfter event = .more) (fits : frame.Fits)
      (type : frame.type = ServerMessage.Kind.error.toByte)
      (left : session.Refuses ∨
        session.Ready link ∧ after session.traffic.network.network) :
      QueryEnd request link after session events (some frame) (some e) events (some frame) []
  /-- It was lost, or the request. -/
  | lost {events front : List RowEvent} {error? : Option Frame} {e : Error} {torn : Bytes}
      (before : front <+: events) (orderly : Orderly request.firstPhase front)
      (more : ∀ event ∈ front, Query.progressAfter event = .more)
      (tail : torn = [] ∨ Frame.Torn torn) (refuses : session.Refuses) :
      QueryEnd request link after session events error? (some e) front none torn

/-- Since a given time a session has heard some frames whole.  It is ready, and the
network stands as said; or it sends no requests any more, and may have heard a
part of another frame. -/
inductive Session.HasHeard (link : LinkId) (stands : ν → Prop) (before : Bytes)
    (frames : List Frame) (session : Session (Tapped ν)) : Prop
  /-- It is ready. -/
  | ready (fit : ∀ frame ∈ frames, frame.Fits) (ready : session.Ready link)
      (at_ : stands session.traffic.network.network)
      (heard_eq : session.traffic.network.heard = before ++ frames.flatMap Frame.encode)
  /-- It is lost. -/
  | lost {torn : Bytes} (fit : ∀ frame ∈ frames, frame.Fits) (refuses : session.Refuses)
      (tail : torn = [] ∨ Frame.Torn torn)
      (heard_eq : session.traffic.network.heard =
        before ++ (frames.flatMap Frame.encode ++ torn))

section

variable {request : QueryRequest} {link : LinkId} {stands after : ν → Prop}
  {session session' : Session (Tapped ν)} {before : Bytes} {frames : List Frame}
  {events front : List RowEvent} {error? refusal? : Option Frame} {e? : Option Error} {torn : Bytes}

namespace QueryEnd

/-- The events that were handed over are the first of the answer. -/
theorem front_prefix
    (ended : QueryEnd request link after session events error? e? front refusal? torn) :
    front <+: events := by
  cases ended with
  | arrived => exact List.prefix_rfl
  | refused => exact List.prefix_rfl
  | lost before => exact before

/-- They are in order. -/
theorem orderly (ended : QueryEnd request link after session events error? e? front refusal? torn) :
    Orderly request.firstPhase front := by
  cases ended with
  | arrived orderly => exact orderly
  | refused orderly => exact orderly
  | lost _ orderly => exact orderly

/-- Behind them an error was heard, or nothing. -/
theorem isNotice (ended : QueryEnd request link after session events error? e? front refusal? torn) :
    ∀ frame ∈ refusal?, frame.Fits ∧ frame.IsNotice := by
  cases ended with
  | arrived => simp
  | refused orderly more fits type =>
    rintro _ ⟨⟩
    exact ⟨fits, .inr type⟩
  | lost => simp

theorem fit (ended : QueryEnd request link after session events error? e? front refusal? torn) :
    ∀ frame ∈ replyFrames front refusal?, frame.Fits := by
  intro frame mem
  rcases List.mem_append.mp mem with mem | mem
  · obtain ⟨event, there, rfl⟩ := List.mem_map.mp mem
    exact (ended.orderly.legible event there).fits
  · exact (ended.isNotice frame (Option.mem_toList.mp mem)).1

/-- Behind a query, the frames of the answer were heard as well. -/
theorem hasHeard
    (ended : QueryEnd request link after session' events error? e? front refusal? torn)
    (fit : ∀ frame ∈ frames, frame.Fits)
    (heard_eq : session.traffic.network.heard = before ++ frames.flatMap Frame.encode)
    (more_eq : session'.traffic.network.heard = session.traffic.network.heard ++
      ((replyFrames front refusal?).flatMap Frame.encode ++ torn)) :
    session'.HasHeard link after before (frames ++ replyFrames front refusal?) := by
  have all : session'.traffic.network.heard =
      before ++ ((frames ++ replyFrames front refusal?).flatMap Frame.encode ++ torn) := by
    rw [more_eq, heard_eq]
    simp only [List.flatMap_append, List.append_assoc]
  have fit' : ∀ frame ∈ frames ++ replyFrames front refusal?, frame.Fits := fun frame mem =>
    (List.mem_append.mp mem).elim (fit frame) (ended.fit frame)
  -- only an answer that was cut off can leave torn bytes
  cases ended with
  | arrived _ _ ready at_ =>
    rw [List.append_nil] at all
    exact .ready fit' ready at_ all
  | refused _ _ _ _ left =>
    rcases left with refuses | ⟨ready, at_⟩
    · exact .lost fit' refuses (.inl rfl) all
    · rw [List.append_nil] at all
      exact .ready fit' ready at_ all
  | lost _ _ _ tail refuses => exact .lost fit' refuses tail all

end QueryEnd

theorem Session.HasHeard.imp (heard : session.HasHeard link stands before frames)
    (h : ∀ network, stands network → after network) : session.HasHeard link after before frames := by
  cases heard with
  | ready fit ready at_ heard_eq => exact .ready fit ready (h _ at_) heard_eq
  | lost fit refuses tail heard_eq => exact .lost fit refuses tail heard_eq

/-- That a statement ran makes no difference. -/
theorem Session.HasHeard.statementExecuted (heard : session.HasHeard link stands before frames) :
    session.statementExecuted.HasHeard link stands before frames := by
  cases heard with
  | ready fit ready at_ heard_eq => exact .ready fit ready.statementExecuted at_ heard_eq
  | lost fit refuses tail heard_eq =>
    refine .lost fit ?_ tail heard_eq
    obtain ⟨transaction, connection_eq⟩ := session.statementExecuted_connection
    rw [Session.Refuses, connection_eq]
    exact refuses

/-- In any case it may have heard a part of another frame. -/
theorem Session.HasHeard.exists_torn (heard : session.HasHeard link stands before frames) :
    (∀ frame ∈ frames, frame.Fits) ∧ ∃ torn, (torn = [] ∨ Frame.Torn torn) ∧
      session.traffic.network.heard = before ++ (frames.flatMap Frame.encode ++ torn) := by
  cases heard with
  | ready fit _ _ heard_eq => exact ⟨fit, [], .inl rfl, by rw [List.append_nil, heard_eq]⟩
  | lost fit _ tail heard_eq => exact ⟨fit, _, tail, heard_eq⟩

/-- Of a session that sends no requests it does not matter how the network stands. -/
theorem Session.HasHeard.of_refuses (heard : session.HasHeard link stands before frames)
    (refuses : session.Refuses) : session.HasHeard link after before frames := by
  obtain ⟨fit, torn, tail, heard_eq⟩ := heard.exists_torn
  exact .lost fit refuses tail heard_eq

end

/-! ### Queries -/

/-- What is left of an action: its error, if there is one, and the state. -/
def Outcome.ending {σ : Type} (error? : Option Error) (state : σ) : Outcome Unit σ :=
  match error? with
  | none => .ok () state
  | some e => .error e state

@[simp] theorem Outcome.state_ending {σ : Type} (error? : Option Error) (state : σ) :
    (Outcome.ending error? state).state = state := by
  cases error? <;> rfl

variable [Network ν]

/-- A query of a cursor is one whose answer is taken by the page and the recorder. -/
theorem Cursor.query_eq_ending {cursor : Cursor ν} {request : QueryRequest} {session : Session ν}
    {query : Query Reception} {e? : Option Error} {front : List RowEvent}
    (run : cursor.session.run (Query.exchange request reception) { handler := cursor.parts } =
      Outcome.ending e? (session, query))
    (taken : query.handler = front.foldl Reception.take cursor.parts) :
    cursor.query request = Outcome.ending e? (cursor.taking session front) := by
  rw [Cursor.query, run, taking, ← taken]
  cases e? <;> rfl

section

variable {request : QueryRequest} {link : LinkId} {after : ν → Prop}
  {session : Session (Tapped ν)} {events : List RowEvent} {error? : Option Frame} {bytes : Bytes}

/-- **A query that is answered as documented** ends in one of the three ways. -/
theorem Session.run_of_answers {η : Type} {handler : Handler η} {take : η → RowEvent → η}
    (takes : handler.Takes take) (ready : session.Ready link)
    (written : request.request.encode = .ok bytes)
    (answers : Network.Answers session.traffic.network.network link request events error? after)
    (query : Query η) :
    ∃ (session' : Session (Tapped ν)) (query' : Query η) (e? : Option Error)
        (front : List RowEvent) (refusal? : Option Frame) (torn : Bytes),
      session.run (Query.exchange request handler) query = Outcome.ending e? (session', query') ∧
      session.SameBut session' ∧ query'.handler = front.foldl take query.handler ∧
      session'.traffic.network.heard = session.traffic.network.heard ++
        ((replyFrames front refusal?).flatMap Frame.encode ++ torn) ∧
      QueryEnd request link after session' events error? e? front refusal? torn := by
  obtain ⟨reply, delivers | loses⟩ := answers
  · cases reply with
    | batch orderly rest =>
      rw [replyFrames_none, ← RowEvent.encodeAll_eq_flatMap] at delivers
      obtain ⟨session', query', run, ready', same, ⟨stands, heard⟩, taken⟩ :=
        run_of_delivered takes ready written orderly (Tapped.delivers delivers) query
      refine ⟨session', query', none, _, none, [], run, same, taken, ?_,
        .arrived orderly rest ready' stands⟩
      rw [heard, List.append_nil, replyFrames_none, RowEvent.encodeAll_eq_flatMap]
    | @error _ frame orderly more fits type =>
      rw [flatMap_replyFrames_some] at delivers
      obtain ⟨e, session', query', run, left, same, ⟨stands, heard⟩, taken⟩ :=
        run_of_refused takes ready written orderly more fits type (Tapped.delivers delivers) query
      refine ⟨session', query', some e, events, some frame, [], run, same, taken, ?_,
        .refused orderly more fits type (left.imp_right fun ready' => ⟨ready', stands⟩)⟩
      rw [heard, List.append_nil, flatMap_replyFrames_some]
  · rcases loses bytes written with failed | ⟨arrived, lost, reset, split, nonempty, accepted⟩
    · -- the request is not taken
      obtain ⟨failed', heard⟩ := Tapped.send_of_failed failed
      obtain ⟨e, session', query', run, broken, same, network, taken⟩ :=
        run_of_untaken handler ready written failed' query
      refine ⟨session', query', some e, [], none, [], run, same, taken, ?_,
        .lost List.nil_prefix trivial (List.forall_mem_nil _) (.inl rfl) (.inl broken)⟩
      rw [network, heard]
      exact (List.append_nil _).symm
    · -- the reply is cut off
      obtain ⟨front, torn, before, rfl, tail, orderly, more⟩ := reply.cut split nonempty
      have accepted' := Tapped.send_of_accepted accepted
      obtain ⟨e, session', query', run, broken, same, network, taken⟩ :=
        run_of_torn takes ready written orderly more tail (congrArg Prod.fst accepted') query
      refine ⟨session', query', some e, front, none, torn, run, same, taken, ?_,
        .lost before orderly more (.inr tail) (.inl broken)⟩
      rw [network, accepted', replyFrames_none, RowEvent.encodeAll_eq_flatMap]

/-- **A query of a session that may be lost.**  If the session sends no requests,
the query fails, and nothing is heard. -/
theorem Session.HasHeard.run {η : Type} {handler : Handler η} {take : η → RowEvent → η}
    {stands : ν → Prop} {before : Bytes} {frames : List Frame}
    (heard : session.HasHeard link stands before frames) (takes : handler.Takes take)
    (written : request.request.encode = .ok bytes)
    (answers : ∀ {network}, stands network → ∃ events error?,
      Network.Answers network link request events error? stands) (query : Query η) :
    ∃ (session' : Session (Tapped ν)) (query' : Query η) (e? : Option Error)
        (events front : List RowEvent) (error? refusal? : Option Frame) (torn : Bytes),
      session.run (Query.exchange request handler) query = Outcome.ending e? (session', query') ∧
      session.SameBut session' ∧ query'.handler = front.foldl take query.handler ∧
      session'.HasHeard link stands before (frames ++ replyFrames front refusal?) ∧
      QueryEnd request link stands session' events error? e? front refusal? torn := by
  cases heard with
  | ready fit ready at_ heard_eq =>
    obtain ⟨events, error?, answered⟩ := answers at_
    obtain ⟨session', query', e?, front, refusal?, torn, run, same, taken, more_eq, ended⟩ :=
      run_of_answers takes ready written answered query
    exact ⟨session', query', e?, events, front, error?, refusal?, torn, run, same, taken,
      ended.hasHeard fit heard_eq more_eq, ended⟩
  | lost fit refuses tail heard_eq =>
    obtain ⟨e, run⟩ := run_of_refuses refuses (Query.exchange request handler) query
    have nothing : frames ++ replyFrames [] none = frames := List.append_nil frames
    refine ⟨session, query, some e, [], [], none, none, [], run, rfl, rfl, ?_,
      .lost List.nil_prefix trivial (List.forall_mem_nil _) (.inl rfl) refuses⟩
    rw [nothing]
    exact .lost fit refuses tail heard_eq

end

/-! ### Commands -/

/-- Of a command at most the frame is heard that answers it. -/
theorem Session.heard_of_acknowledges {session : Session (Tapped ν)} {link : LinkId}
    {command : Command} (ready : session.Ready link)
    (acknowledges : Network.Acknowledges session.traffic.network.network link command)
    (state : Option Reply) :
    ∃ (frames : List Frame) (torn : Bytes),
      (∀ frame ∈ frames, frame.Fits ∧ frame.IsNotice) ∧
      (torn = [] ∨ Frame.Torn torn) ∧
      (session.run command.exchange state).state.1.traffic.network.heard =
        session.traffic.network.heard ++ (frames.flatMap Frame.encode ++ torn) := by
  obtain ⟨frame, fits, notice, answered⟩ := acknowledges
  have asked : (Request.command command).encode = .ok (Request.commandFrame command).encode := rfl
  rw [network_run (Command.sends_exchange command) rfl ready state]
  rcases answered with delivers | loses
  · -- the acknowledgement arrives
    obtain ⟨reset, accepted, -⟩ := delivers _ asked
    refine ⟨[frame], [], by simpa using ⟨fits, notice⟩, .inl rfl, ?_⟩
    rw [Tapped.send_of_accepted accepted, List.flatMap_singleton, List.append_nil]
  · rcases loses _ asked with failed | ⟨arrived, lost, reset, split, nonempty, accepted⟩
    · -- the command is not taken
      refine ⟨[], [], List.forall_mem_nil _, .inl rfl, ?_⟩
      rw [(Tapped.send_of_failed failed).2]
      exact (List.append_nil _).symm
    · -- a part of the frame arrives
      refine ⟨[], arrived, List.forall_mem_nil _, .inr ⟨frame, lost, fits, nonempty, split⟩, ?_⟩
      rw [Tapped.send_of_accepted accepted]
      rfl

end ProxyClient
