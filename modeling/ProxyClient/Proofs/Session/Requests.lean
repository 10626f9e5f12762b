/-
ProxyClient/Proofs/Session/Requests.lean

Which requests stand in the record of what a client did on a network
(`Carried`), and which of them an action of a session adds (`Traffic.Asks`):

    an exchange   →  its request, if it can be written and the session is
                     neither broken nor parked
    suspend       →  the request to park the session
    resume        →  the request to reclaim one, if a server takes the call

A request that was sent stands there with its bytes, and nothing else does.
-/
import ProxyClient.Proofs.Exchange.Journal
import ProxyClient.Proofs.Session.Parking

namespace ProxyClient

/-! ### Records -/

/-- This is what the record says of a request: its bytes were sent, or they could
not be. -/
def NetworkEvent.Carries (event : NetworkEvent) (request : Request) : Prop :=
  ∃ bytes link, request.encode = .ok bytes ∧ (event = .sent link bytes ∨ event = .sendFailed link)

/-- These are the requests in a part of the record, in order. -/
inductive Carried : List NetworkEvent → List Request → Prop
  /-- Nothing was done. -/
  | nil : Carried [] []
  /-- A call, or a pause. -/
  | beside {event : NetworkEvent} {events : List NetworkEvent} {requests : List Request} :
      ¬ event.IsRequest → Carried events requests → Carried (event :: events) requests
  /-- A request. -/
  | request {event : NetworkEvent} {request : Request} {events : List NetworkEvent}
      {requests : List Request} :
      event.Carries request → Carried events requests →
      Carried (event :: events) (request :: requests)

theorem Carried.append {events events' : List NetworkEvent} {requests requests' : List Request}
    (h : Carried events requests) (h' : Carried events' requests') :
    Carried (events ++ events') (requests ++ requests') := by
  induction h with
  | nil => exact h'
  | beside other _ ih => exact .beside other ih
  | request carries _ ih => exact .request carries ih

/-- The request, if it can be written. -/
def Request.written (request : Request) : List Request :=
  match request.encode with
  | .ok _ => [request]
  | .error _ => []

namespace Traffic

variable {ν : Type} {traffic traffic' traffic'' : Traffic ν} {requests requests' : List Request}

/-- Since a given time these requests were sent, or were to be sent, and no others. -/
def Asks (traffic : Traffic ν) (requests : List Request) (traffic' : Traffic ν) : Prop :=
  ∃ events, traffic'.events = traffic.events ++ events ∧ Carried events requests

theorem Asks.refl (traffic : Traffic ν) : traffic.Asks [] traffic :=
  ⟨[], (List.append_nil _).symm, .nil⟩

theorem Asks.trans (h : traffic.Asks requests traffic') (h' : traffic'.Asks requests' traffic'') :
    traffic.Asks (requests ++ requests') traffic'' := by
  obtain ⟨events, eq, carried⟩ := h
  obtain ⟨events', eq', carried'⟩ := h'
  refine ⟨events ++ events', ?_, carried.append carried'⟩
  rw [eq', eq, List.append_assoc]

variable [Network ν]

theorem asks_send {request : Request} {bytes : Bytes} (encoded : request.encode = .ok bytes)
    (traffic : Traffic ν) (link : LinkId) :
    traffic.Asks [request] (traffic.send link bytes).2 := by
  rw [send]
  rcases Network.send traffic.network link bytes with ⟨- | ⟨reply, reset⟩, network⟩
  · exact ⟨[.sendFailed link], rfl, .request ⟨bytes, link, encoded, .inr rfl⟩ .nil⟩
  · exact ⟨[.sent link bytes], rfl, .request ⟨bytes, link, encoded, .inl rfl⟩ .nil⟩

/-- A call is no request. -/
theorem asks_dial (traffic : Traffic ν) (address : Address) :
    traffic.Asks [] (Transport.dial address traffic).2 := by
  show traffic.Asks [] (traffic.dial address).2
  rw [dial]
  split
  · exact .refl traffic
  · rcases Network.dial traffic.network address with ⟨- | link, network⟩
    · exact ⟨[.refused address], rfl, .beside id .nil⟩
    · exact ⟨[.connected address], rfl, .beside id .nil⟩

end Traffic

/-! ### Exchanges -/

section

variable {ν σ : Type} [Network ν] {exchange : Exchange σ} {request : Request}

theorem Transport.asks_perform (sends : exchange.Sends request) (transport : Transport)
    (traffic : Traffic ν) (state : σ) :
    traffic.Asks request.written (transport.perform exchange traffic state).state.1.2 := by
  rw [perform, Request.written]
  rcases encoded : request.encode with e | bytes
  · -- a request that cannot be written is not sent
    rw [sends.of_error encoded]
    exact .refl traffic
  · obtain ⟨state', start⟩ := sends.of_ok encoded state
    have sent := Traffic.asks_send encoded traffic transport.link
    simp only [start, send]
    generalize traffic.send transport.link bytes = result at sent ⊢
    rcases result with ⟨- | ⟨reply, reset⟩, traffic'⟩
    · exact sent
    · simp only [Outcome.state_mapState]
      exact sent

namespace Session

instance (session : Session ν) : Decidable session.Refuses :=
  inferInstanceAs (Decidable (_ ∨ _))

/-- What an exchange with a given request sends. -/
def requests (request : Request) (session : Session ν) : List Request :=
  if session.Refuses then [] else request.written

omit [Network ν] in
theorem eq_of_mem_requests {request other : Request} {session : Session ν}
    (mem : other ∈ session.requests request) : other = request := by
  unfold requests Request.written at mem
  split at mem
  · contradiction
  · split at mem
    · exact List.mem_singleton.mp mem
    · contradiction

omit [Network ν] in
/-- An exchange sends its request, or nothing. -/
theorem length_requests_le (request : Request) (session : Session ν) :
    (session.requests request).length ≤ 1 := by
  rw [requests, Request.written]
  split
  · exact Nat.zero_le 1
  · split
    · exact Nat.le_refl 1
    · exact Nat.zero_le 1

theorem asks_run (sends : exchange.Sends request) (session : Session ν) (state : σ) :
    session.traffic.Asks (session.requests request) (session.run exchange state).state.1.traffic := by
  rw [requests]
  split
  · -- nothing can be sent
    next refuses =>
    obtain ⟨e, ran⟩ := run_of_refuses refuses exchange state
    rw [ran]
    exact .refl session.traffic
  · -- the request is sent once
    next usable =>
    obtain ⟨whole, linked⟩ := not_or.mp usable
    obtain ⟨transport, there⟩ := Option.ne_none_iff_exists'.mp linked
    have asks := transport.asks_perform sends session.traffic state
    rw [run, if_neg whole, there]
    simp only
    generalize transport.perform exchange session.traffic state = outcome at asks ⊢
    rcases outcome with ⟨⟨⟩, ⟨transport', traffic⟩, state'⟩ | ⟨e, ⟨transport', traffic⟩, state'⟩
    · exact asks
    · exact asks

/-! ### Commands -/

theorem state_command (command : Command) (session : Session ν) :
    (session.command command).state = (session.run command.exchange none).state.1 := by
  rw [Session.command]
  rcases session.run command.exchange none with ⟨⟨⟩, after, reply⟩ | ⟨e, after, reply⟩
  · simp only
    rcases Command.answer reply with e | answer
    · rfl
    · rfl
  · rfl

theorem asks_command (command : Command) (session : Session ν) :
    session.traffic.Asks (session.requests (.command command))
      (session.command command).state.traffic := by
  rw [state_command]
  exact asks_run command.sends_exchange session none

theorem epoch_command (command : Command) (session : Session ν) :
    (session.command command).state.connection.epoch = session.connection.epoch := by
  rw [state_command]
  exact (sameBut_run session command.exchange none).epoch_eq

/-! ### Parking -/

theorem asks_suspend (session : Session ν) :
    session.traffic.Asks (session.requests (.command .suspendSession))
      session.suspend.state.traffic := by
  have asks := asks_command .suspendSession session
  rw [Session.suspend]
  generalize session.command .suspendSession = outcome at asks ⊢
  rcases outcome with ⟨- | text | parked, after⟩ | ⟨e, after⟩
  · exact asks
  · exact asks
  · exact asks
  · exact asks

/-- The connection is in another epoch if its session was parked, and only then. -/
theorem epoch_suspend (session : Session ν) :
    session.suspend.state.connection.epoch =
      session.connection.epoch + if session.suspend.toExcept.toBool then 1 else 0 := by
  have same := epoch_command .suspendSession session
  rw [Session.suspend]
  generalize session.command .suspendSession = outcome at same ⊢
  rcases outcome with ⟨- | text | parked, after⟩ | ⟨e, after⟩
  · exact same
  · exact same
  · exact congrArg (· + 1) same
  · exact same

/-- What is sent to reclaim a session. -/
def reclaimRequests (token : SuspendToken) (session : Session ν) : List Request :=
  match (Transport.dial (.server token.endpoint) session.traffic).1 with
  | none => []
  | some _ => [.resumeSession token.id]

theorem eq_of_mem_reclaimRequests {token : SuspendToken} {session : Session ν} {request : Request}
    (mem : request ∈ session.reclaimRequests token) : request = .resumeSession token.id := by
  unfold reclaimRequests at mem
  split at mem
  · contradiction
  · exact List.mem_singleton.mp mem

theorem asks_resume (token : SuspendToken) (session : Session ν) :
    session.traffic.Asks (session.reclaimRequests token)
      (session.resume token).state.traffic := by
  have dialled := session.traffic.asks_dial (.server token.endpoint)
  rw [reclaimRequests, Session.resume, reclaim]
  generalize Transport.dial (.server token.endpoint) session.traffic = called at dialled ⊢
  rcases called with ⟨- | transport, traffic⟩
  · exact dialled
  · have asks := transport.asks_perform (Handshake.sends_exchange (.token token.id)) traffic {}
    simp only [handshake]
    generalize transport.perform (Handshake.exchange (.token token.id)) traffic {} = outcome
      at asks ⊢
    rcases outcome with ⟨⟨⟩, ⟨transport', traffic'⟩, state⟩ | ⟨e, ⟨transport', traffic'⟩, state⟩
    · exact dialled.trans asks
    · exact dialled.trans asks

theorem epoch_resume (token : SuspendToken) (session : Session ν) :
    (session.resume token).state.connection.epoch =
      session.connection.epoch + if (session.resume token).toExcept.toBool then 1 else 0 := by
  rw [Session.resume]
  rcases reclaim session.connection.options token session.traffic with
    ⟨resumed, traffic⟩ | ⟨e, traffic⟩
  · rfl
  · rfl

end Session

end

end ProxyClient
