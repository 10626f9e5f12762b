/-
ProxyClient/Proofs/Cursor/Silence.lean

A broken connection is silent.  A link whose connection is broken may have stopped
in the middle of an answer, so nothing may be sent over it any more.  Exchanges
refuse a broken connection, and a session that is reclaimed goes over another link:

    connection over link 3 breaks  →  …  →  reclaimed over link 4  →  …
    nothing over 3 …………………………………………………………………………………………

and nothing is said when the connection is let go of.  All of that holds of every
run (`Cursor.broken_sends_nothing`).  There is one deed that does not look at the
flag: the session that is ended by word of mouth (`Session.finish`) is ended over
the broken link, too.
-/
import ProxyClient.Client
import ProxyClient.Proofs.Cursor.Deeds

namespace ProxyClient

variable {ν : Type} [Network ν]

/-- A network does not hand a link out again once it is spent. -/
structure Network.Spends (link : LinkId) (spent : ν → Prop) : Prop where
  /-- A call brings another link. -/
  fresh : ∀ network address, spent network → (Network.dial network address).1 ≠ some link
  /-- The link stays spent, whoever is called. -/
  dials : ∀ network address, spent network → spent (Network.dial network address).2
  /-- And whatever is sent. -/
  sends : ∀ network other bytes, spent network → spent (Network.send network other bytes).2

namespace Traffic

variable {link : LinkId} {traffic traffic' traffic'' : Traffic ν}

omit [Network ν] in
/-- Since a given time nothing was sent over a link, nor was to be sent. -/
def Spares (link : LinkId) (traffic traffic' : Traffic ν) : Prop :=
  ∃ events, traffic'.events = traffic.events ++ events ∧ ∀ event ∈ events, event.link? ≠ some link

omit [Network ν] in
theorem Spares.refl (traffic : Traffic ν) : traffic.Spares link traffic :=
  ⟨[], (List.append_nil _).symm, by simp⟩

omit [Network ν] in
theorem Spares.trans (h : traffic.Spares link traffic') (h' : traffic'.Spares link traffic'') :
    traffic.Spares link traffic'' := by
  obtain ⟨events, eq, spared⟩ := h
  obtain ⟨events', eq', spared'⟩ := h'
  refine ⟨events ++ events', ?_, List.forall_mem_append.mpr ⟨spared, spared'⟩⟩
  rw [eq', eq, List.append_assoc]

theorem spares_send {other : LinkId} (apart : other ≠ link) (traffic : Traffic ν) (bytes : Bytes) :
    traffic.Spares link (traffic.send other bytes).2 := by
  obtain ⟨event, which, events⟩ := traffic.events_send other bytes
  refine ⟨[event], events, List.forall_mem_singleton.mpr ?_⟩
  rcases which with rfl | rfl <;> exact fun same => apart (Option.some.inj same)

/-- A call is nothing that is sent, and does not bring a spent link. -/
theorem spares_dial {spent : ν → Prop} (spends : Network.Spends link spent) (address : Address)
    (traffic : Traffic ν) (isSpent : spent traffic.network) :
    traffic.Spares link (Transport.dial address traffic).2 ∧
      spent (Transport.dial address traffic).2.network ∧
      ∀ transport, (Transport.dial address traffic).1 = some transport → transport.link ≠ link := by
  show traffic.Spares link (traffic.dial address).2 ∧ spent (traffic.dial address).2.network ∧
    ∀ transport, (traffic.dial address).1.map (fun link => ({ link } : Transport)) =
      some transport → transport.link ≠ link
  rw [dial]
  split
  · -- an address that cannot be tried
    exact ⟨.refl traffic, isSpent, by simp⟩
  · -- a link that was taken up before is not taken up again
    have fresh := spends.fresh traffic.network address isSpent
    have stays := spends.dials traffic.network address isSpent
    generalize Network.dial traffic.network address = outcome at fresh stays ⊢
    rcases outcome with ⟨- | called, network⟩
    · exact ⟨⟨[.refused address], rfl, by simp [NetworkEvent.link?]⟩, stays, by simp⟩
    · refine ⟨⟨[.connected address], rfl, by simp [NetworkEvent.link?]⟩, stays, ?_⟩
      rintro transport taken same
      obtain rfl := Option.some.inj taken
      exact fresh (congrArg some same)

end Traffic

namespace Session

variable {link : LinkId} {spent : ν → Prop} {session later : Session ν}
  {milestone? : Option Milestone}

omit [Network ν] in
/-- The session sends nothing over a link: it has another one, or is broken. -/
structure KeepsOff (link : LinkId) (spent : ν → Prop) (session : Session ν) : Prop where
  /-- No call brings the link. -/
  spent : spent session.traffic.network
  /-- With this link the connection cannot be used. -/
  broken_of : session.connection.transport.map Transport.link = some link →
    session.connection.broken = true

theorem Talks.spares (h : session.Talks later) (spends : Network.Spends link spent)
    (off : session.KeepsOff link spent) :
    session.traffic.Spares link later.traffic ∧ later.KeepsOff link spent := by
  by_cases refuses : session.Refuses
  · rw [h.eq_of_refuses refuses]
    exact ⟨.refl _, off⟩
  · -- a session that talks has another link
    have apart : session.connection.transport.map Transport.link ≠ some link := fun same =>
      refuses (.inl (off.broken_of same))
    obtain ⟨events, eq, linked⟩ := h.events
    refine ⟨⟨events, eq, fun event mem same => ?_⟩, h.network spends.sends off.spent, ?_⟩
    · obtain ⟨other, there, is⟩ := linked event mem
      rw [is] at same
      exact apart (there.trans same)
    · rw [h.link_eq]
      exact fun same => absurd same apart

/-- Nor is it used to reclaim a session. -/
theorem spares_resume (spends : Network.Spends link spent) (token : SuspendToken)
    (off : session.KeepsOff link spent) :
    session.traffic.Spares link (session.resume token).state.traffic ∧
      spent (session.resume token).state.traffic.network := by
  obtain ⟨spared, isSpent, apart⟩ := session.traffic.spares_dial spends (.server token.endpoint)
    off.spent
  rcases session.traffic_resume token with
    ⟨after, dialled, traffic_eq⟩ | ⟨transport, called, bytes, dialled, -, traffic_eq⟩
  · rw [dialled] at spared isSpent
    rw [traffic_eq]
    exact ⟨spared, isSpent⟩
  · rw [dialled] at spared isSpent apart
    rw [traffic_eq]
    refine ⟨spared.trans (called.spares_send (apart transport rfl) bytes), ?_⟩
    rw [Traffic.network_send]
    exact spends.sends _ _ _ isSpent

/-- **Nothing is sent over the link**, and nothing will be. -/
theorem Moves.spares (h : session.Moves milestone? later) (spends : Network.Spends link spent)
    (off : session.KeepsOff link spent) :
    session.traffic.Spares link later.traffic ∧ later.KeepsOff link spent := by
  cases h with
  | talks talks => exact talks.spares spends off
  | settled talks usable | toggled on talks usable =>
    obtain ⟨spared, off'⟩ := talks.spares spends off
    exact ⟨spared, off'.spent, off'.broken_of⟩
  | @executed middle talks usable =>
    obtain ⟨spared, off'⟩ := talks.spares spends off
    obtain ⟨transaction, same⟩ := middle.statementExecuted_connection
    refine ⟨spared, off'.spent, ?_⟩
    rw [same]
    exact off'.broken_of
  | parked talks usable =>
    obtain ⟨spared, off'⟩ := talks.spares spends off
    exact ⟨spared, off'.spent, fun never => by contradiction⟩
  | @greeted _ token ready transport called inbox greeted dialled resumed known =>
    have spared := spares_resume spends token off
    -- the new link is not the one that is spent
    have apart := (session.traffic.spares_dial spends (.server token.endpoint) off.spent).2.2
    rw [resumed] at spared
    rw [dialled] at apart
    refine ⟨spared.1, spared.2, ?_⟩
    rw [known]
    exact fun same => absurd (Option.some.inj same) (apart transport rfl)
  | ungreeted token silent failed =>
    have spared := spares_resume spends token off
    rw [failed] at spared
    exact ⟨spared.1, spared.2, off.broken_of⟩

/-- Over another link a session is ended. -/
theorem spares_finish (apart : session.connection.transport.map Transport.link ≠ some link) :
    session.traffic.Spares link session.finish.state := by
  rcases there : session.connection.transport with - | transport
  · rw [finish, there]
    exact .refl _
  · obtain ⟨bytes, -, sent⟩ := state_finish there
    rw [sent]
    refine session.traffic.spares_send ?_ bytes
    rintro rfl
    exact apart (congrArg (Option.map Transport.link) there)

/-- Who lets go of the connection says nothing over the link. -/
theorem KeepsOff.release (off : session.KeepsOff link spent) :
    session.traffic.Spares link session.release := by
  rw [Session.release]
  split
  · exact .refl _
  · next usable => exact spares_finish fun same => usable (off.broken_of same)

end Session

namespace Cursor

variable {link : LinkId} {spent : ν → Prop} {cursor : Cursor ν}

/-- So it is whatever is done. -/
theorem spares_afterDeeds (spends : Network.Spends link spent)
    (off : cursor.session.KeepsOff link spent) (deeds : List (Deed ν)) :
    cursor.session.traffic.Spares link (cursor.afterDeeds deeds).session.traffic ∧
      (cursor.afterDeeds deeds).session.KeepsOff link spent := by
  induction deeds generalizing cursor with
  | nil => exact ⟨.refl _, off⟩
  | cons deed deeds ih =>
    obtain ⟨spared, off'⟩ := (deed.moves cursor).spares spends off
    obtain ⟨spared', off''⟩ := ih off'
    exact ⟨spared.trans spared', off''⟩

/-- **Nothing is sent over a broken link.**  Whatever is done with a connection that is
broken and with cursors on it, and when they are let go of, nothing is sent over the
link that it has, as over any that is spent; nor is anything when the session is ended,
if it has another link by then.  If it has not, the end of the session is said over the
broken link, and this is all. -/
theorem broken_sends_nothing (spends : Network.Spends link spent)
    (broken : cursor.session.connection.broken = true)
    (isSpent : spent cursor.session.traffic.network) (deeds : List (Deed ν)) :
    let later := Client.working (cursor.afterDeeds deeds)
    let left := (cursor.afterDeeds deeds).release.1
    cursor.session.traffic.Spares link later.traffic ∧
      cursor.session.traffic.Spares link later.close.traffic ∧
      (left.connection.transport.map Transport.link ≠ some link →
        cursor.session.traffic.Spares link later.closeCursor.endSession.state.traffic) ∧
      (left.connection.transport.map Transport.link = some link →
        cursor.session.traffic.Spares link left.traffic ∧
          ∃ bytes event, Request.endSession.encode = .ok bytes ∧
            (event = .sent link bytes ∨ event = .sendFailed link) ∧
            later.closeCursor.endSession.state.traffic.events =
              left.traffic.events ++ [event]) := by
  intro later left
  have off : cursor.session.KeepsOff link spent := ⟨isSpent, fun _ => broken⟩
  -- letting go of the cursor is one more deed
  obtain ⟨spared, -⟩ := spares_afterDeeds spends off deeds
  obtain ⟨closed, off'⟩ := spares_afterDeeds spends off (deeds ++ [.renews])
  rw [afterDeeds_append] at closed off'
  have ends : later.closeCursor.endSession.state.traffic = left.finish.state :=
    congrArg Client.traffic (Outcome.state_mapState _ left.finish)
  refine ⟨spared, closed.trans off'.release, fun apart => ?_, fun same => ⟨closed, ?_⟩⟩
  · rw [ends]
    exact closed.trans (Session.spares_finish apart)
  · obtain ⟨transport, there, rfl⟩ := Option.map_eq_some_iff.mp same
    obtain ⟨bytes, written, sent⟩ := Session.state_finish there
    obtain ⟨event, which, events⟩ := left.traffic.events_send transport.link bytes
    exact ⟨bytes, event, written, which, by rw [ends, sent, events]⟩

end Cursor

/-! ### Runs -/

/-- A script hands out one link after the other. -/
theorem ScriptedNetwork.spends (link : LinkId) :
    Network.Spends link fun network : ScriptedNetwork => link < network.links.length where
  fresh := by
    intro network address isSpent
    show (network.dial address).1 ≠ some link
    rw [dial]
    split
    · exact nofun
    · exact fun same => Nat.ne_of_gt isSpent (Option.some.inj same)
  dials := by
    intro network address isSpent
    show link < (network.dial address).2.links.length
    rw [dial]
    split
    · exact isSpent
    · rw [List.length_append]
      exact Nat.lt_add_right _ isSpent
  sends := by
    intro network other bytes isSpent
    show link < (network.send other bytes).2.links.length
    rw [send]
    split
    · exact isSpent
    · split
      · next reply rest _ =>
        cases reply <;> rw [List.length_set] <;> exact isSpent
      · exact isSpent

/-- What is known of a connection that breaks because the server does not answer, is
used on, and reclaims its session over another link. -/
theorem Cursor.broken_sends_nothing_reclaimed :
    let start :=
      Cursor.onSession (Session.scripted [] [[.sessionReady ⟨"srv", "1", 1⟩], [.ok]]) {} 0
    let cursor := start.afterDeeds [.calls .pings]
    let deeds : List (Cursor.Deed ScriptedNetwork) :=
      [.acts (.sends "q"), .acts (.reclaims ⟨"h", 1, "t"⟩), .calls .commits]
    let later := Client.working (cursor.afterDeeds deeds)
    cursor.session.connection.broken = true ∧
      cursor.session.connection.transport.map Transport.link = some 0 ∧
      0 < cursor.session.traffic.network.links.length ∧
      later.traffic.events.map NetworkEvent.link? = [some 0, none, some 1, some 1] ∧
      cursor.session.traffic.Spares 0 later.close.traffic := by
  intro start cursor deeds later
  have broken : cursor.session.connection.broken = true := by decide +kernel
  have isSpent : 0 < cursor.session.traffic.network.links.length := by decide +kernel
  obtain ⟨-, closed, -⟩ :=
    Cursor.broken_sends_nothing (ScriptedNetwork.spends 0) broken isSpent deeds
  exact ⟨broken, by decide +kernel, isSpent, by decide +kernel, closed⟩

/-- **A broken connection is not silent when its session is ended**: the server that did
not answer is told so. -/
theorem Client.endSession_of_broken :
    let cursor := (Cursor.onSession (Session.scripted [] []) {} 0).afterDeeds [.calls .pings]
    cursor.session.connection.broken = true ∧
      cursor.session.connection.transport.map Transport.link = some 0 ∧
      ∃ bytes, Request.endSession.encode = .ok bytes ∧
        (Client.working cursor).closeCursor.endSession.state.traffic.events =
          cursor.session.traffic.events ++ [.sent 0 bytes] := by
  exact ⟨by decide +kernel, by decide +kernel, _, rfl, by decide +kernel⟩

end ProxyClient
