/-
ProxyClient/Proofs/Cursor/Absence.lean

While a session is parked.  The connection has no link then, so what is asked of
its server fails, and nothing is sent to it.  All that is done on the network is to
call servers that may hand the session over, and to ask those that take the call
for it, each over a link of its own (`Traffic.Knocks`):

    parked,  ping ✗,  execute ✗,  h:1 refused,  h:2 connected, resume "t",  …

So it goes on, with any cursors on the connection, until one of them does
(`Cursor.knocks_afterDeeds`).
-/
import ProxyClient.Client
import ProxyClient.Proofs.Cursor.Deeds

namespace ProxyClient

variable {ν : Type} [Network ν]

/-! ### Calls for a session -/

namespace Traffic

variable {traffic later last : Traffic ν}

/-- Since a given time nothing was done but to call servers and, over the link of a call
that was taken, to ask for a session. -/
inductive Knocks (traffic : Traffic ν) : Traffic ν → Prop
  /-- Nothing was done. -/
  | refl : Knocks traffic traffic
  /-- A server did not take the call. -/
  | unheard {later called : Traffic ν} (endpoint : Endpoint) :
      Knocks traffic later → Transport.dial (.server endpoint) later = (none, called) →
      Knocks traffic called
  /-- A server took it, and was asked for the session. -/
  | heard {later called : Traffic ν} {transport : Transport} {bytes : Bytes}
      (token : SuspendToken) :
      Knocks traffic later →
      Transport.dial (.server token.endpoint) later = (some transport, called) →
      (Request.resumeSession token.id).encode = .ok bytes →
      Knocks traffic (called.send transport.link bytes).2

theorem Knocks.trans (h : traffic.Knocks later) (h' : later.Knocks last) : traffic.Knocks last := by
  induction h' with
  | refl => exact h
  | unheard endpoint _ called ih => exact .unheard endpoint ih called
  | heard token _ called written ih => exact .heard token ih called written

/-- No requests were sent but for sessions. -/
theorem Knocks.asks (h : traffic.Knocks later) :
    ∃ requests, traffic.Asks requests later ∧
      ∀ request ∈ requests, ∃ id, request = .resumeSession id := by
  induction h with
  | refl => exact ⟨[], .refl traffic, by simp⟩
  | @unheard later _ endpoint _ called ih =>
    -- a connection in vain carries no request
    obtain ⟨requests, asks, only⟩ := ih
    have dialled := later.asks_dial (.server endpoint)
    rw [called] at dialled
    exact ⟨requests ++ [], asks.trans dialled, by simpa using only⟩
  | @heard later after transport bytes token _ called written ih =>
    -- one that is made carries the request to reclaim the session
    obtain ⟨requests, asks, only⟩ := ih
    have dialled := later.asks_dial (.server token.endpoint)
    rw [called] at dialled
    have sent := Traffic.asks_send written after transport.link
    refine ⟨requests ++ ([] ++ [.resumeSession token.id]), asks.trans (dialled.trans sent), ?_⟩
    exact List.forall_mem_append.mpr ⟨only, by simp⟩

end Traffic

namespace Session

variable {session later : Session ν} {milestone? : Option Milestone}

/-- So a session is reclaimed, or not. -/
theorem knocks_resume (token : SuspendToken) (session : Session ν) :
    session.traffic.Knocks (session.resume token).state.traffic := by
  rcases session.traffic_resume token with
    ⟨after, called, traffic_eq⟩ | ⟨transport, called, bytes, dialled, written, traffic_eq⟩
  · rw [traffic_eq]
    exact .unheard token.endpoint .refl called
  · rw [traffic_eq]
    exact .heard token .refl dialled written

/-- **A parked session stays parked** until a server greets, and nothing is sent but to
reclaim it. -/
theorem Moves.knocks (h : session.Moves milestone? later) (isParked : session.IsParked)
    (ungreeted : ∀ endpoint ready, milestone? ≠ some (.greeted endpoint ready)) :
    later.connection = session.connection ∧ session.traffic.Knocks later.traffic := by
  have stays {later : Session ν} (talks : session.Talks later) : later = session :=
    talks.eq_of_refuses isParked.refuses
  cases h with
  | talks talks =>
    obtain rfl := stays talks
    exact ⟨rfl, .refl⟩
  | settled talks usable | toggled on talks usable | executed talks usable | parked talks usable =>
    -- who comes to a milestone without a greeting can use the session
    obtain rfl := stays talks
    exact absurd isParked.refuses usable
  | @greeted _ token ready => exact absurd rfl (ungreeted token.endpoint ready)
  | ungreeted token silent failed =>
    have knocks := session.knocks_resume token
    rw [failed] at knocks
    exact ⟨rfl, knocks⟩

/-- No command is carried out. -/
theorem IsParked.command_eq (isParked : session.IsParked) (command : Command) :
    ∃ e, session.command command = .error e session := by
  obtain ⟨e, refused⟩ := run_of_refuses isParked.refuses command.exchange none
  exact ⟨e, by rw [Session.command, refused]⟩

/-- **Every call fails.** -/
theorem IsParked.call_fails (isParked : session.IsParked) (call : Call) :
    (call.perform session).1 = false := by
  -- each is a command, and a session that is gone lets none through
  cases call with
  | pings =>
    obtain ⟨e, failed⟩ := isParked.command_eq .ping
    rw [Call.perform, ping, failed]
  | identifies =>
    obtain ⟨e, failed⟩ := isParked.command_eq .identify
    rw [Call.perform, identify, failed]
    rfl
  | commits =>
    obtain ⟨e, failed⟩ := isParked.command_eq .commit
    rw [Call.perform, commit, commandThen, failed]
    rfl
  | rollsBack =>
    obtain ⟨e, failed⟩ := isParked.command_eq .rollback
    rw [Call.perform, rollback, commandThen, failed]
    rfl
  | toggles on =>
    obtain ⟨e, failed⟩ := isParked.command_eq (.autocommit on)
    rw [Call.perform, setAutocommit, commandThen, failed]
    rfl

end Session

namespace Cursor

variable {cursor : Cursor ν}

/-! ### Deeds -/

/-- The server of the session is asked, and the deed succeeds only if it answers. -/
def Deed.asks : Deed ν → Bool
  | acts act =>
    match act with
    | .sends _ | .executes | .resumes _ | .resumesCached _ _ | .parks => true
    | .reads _ _ | .closes | .suspends | .reclaims _ | .sets _ | .finds _ => false
  | calls _ => true
  | opensCached _ | renews => false

/-- A statement fails whose session sends nothing. -/
theorem runStatement_fails (refuses : cursor.session.Refuses) (binds : BindSet) :
    (cursor.runStatement binds).toExcept.toBool = false := by
  have course := runs_runStatement binds cursor
  generalize cursor.runStatement binds = outcome at course ⊢
  generalize cursor.statementStory binds = story at course
  cases course with
  | unasked | failed => rfl
  | @answered recorder disk sql options after _ asked =>
    have same : cursor.close.state.session = cursor.session :=
      (talks_close cursor).eq_of_refuses refuses
    obtain ⟨e, refused⟩ := query_of_refuses
      ({ cursor.close.state with recorder, disk } : Cursor ν) (.execute sql binds options)
      (show cursor.close.state.session.Refuses from same ▸ refuses)
    rw [asked] at refused
    contradiction

/-- So does an attachment. -/
theorem attach_fails (refuses : cursor.session.Refuses) (id : ResultSetId) (path : Option String) :
    (cursor.attach id path).toExcept.toBool = false := by
  have course := attaches_attach id path cursor
  generalize cursor.attach id path = outcome at course ⊢
  cases course with
  | unasked | failed => rfl
  | @answered recorder disk options after _ asked =>
    have same : (cursor.emptied id).session = cursor.session :=
      (talks_emptied id cursor).eq_of_refuses refuses
    obtain ⟨e, refused⟩ := query_of_refuses
      ({ cursor.emptied id with recorder, disk } : Cursor ν) (.resume id options)
      (show (cursor.emptied id).session.Refuses from same ▸ refuses)
    rw [asked] at refused
    contradiction

omit [Network ν] in
theorem noting_fails {action : Cursor ν → Outcome Unit (Cursor ν)}
    (fails : (action { cursor with error := none }).toExcept.toBool = false) :
    (cursor.noting action).report.1 = false := by
  obtain ⟨error, -, ended⟩ := noting_cases action cursor
  rw [Outcome.report, ended]
  exact fails

/-- **Whatever asks the server of a parked session fails.** -/
theorem Deed.fails_of_isParked (isParked : cursor.session.IsParked) {deed : Deed ν}
    (asks : deed.asks = true) : deed.succeeds cursor = false := by
  have refuses : ({ cursor with error := none } : Cursor ν).session.Refuses := isParked.refuses
  cases deed with
  | acts act =>
    cases act with
    | sends sql =>
      have refuses' : ({ cursor.prepare sql with error := none } : Cursor ν).session.Refuses :=
        refuses
      exact noting_fails (runStatement_fails refuses' {})
    | executes => exact noting_fails (runStatement_fails refuses cursor.binds)
    | resumes id => exact noting_fails (attach_fails refuses id none)
    | resumesCached id path => exact noting_fails (attach_fails refuses id (some path))
    | parks =>
      obtain ⟨e, failed⟩ := isParked.command_eq .suspendSession
      show cursor.session.suspend.report.1 = false
      rw [Session.suspend, failed]
      rfl
    | reads | closes | suspends | reclaims | sets | finds => contradiction
  | calls call => exact isParked.call_fails call
  | opensCached | renews => contradiction

/-- A session that was parked is. -/
theorem isParked_of_parks (succeeded : (Deed.acts .parks).succeeds cursor = true) :
    ((Deed.acts .parks).after cursor).session.IsParked := by
  have moves := (Deed.acts .parks).moves cursor
  rw [Deed.milestone?, if_pos succeeded] at moves
  generalize ((Deed.acts .parks).after cursor).session = later at moves ⊢
  cases moves with
  | @parked middle talks usable =>
    have whole : middle.connection.broken = false := by simpa using (not_or.mp usable).1
    exact ⟨whole, rfl⟩

/-! ### Runs -/

/-- **Nothing is sent over a parked session** but to reclaim it, until a server greets. -/
theorem knocks_afterDeeds (isParked : cursor.session.IsParked) {deeds : List (Deed ν)}
    (ungreeted : ∀ endpoint ready, .greeted endpoint ready ∉ cursor.milestones deeds) :
    (cursor.afterDeeds deeds).session.connection = cursor.session.connection ∧
      cursor.session.traffic.Knocks (cursor.afterDeeds deeds).session.traffic := by
  -- as long as no server greets, the session is parked before every deed
  induction deeds generalizing cursor with
  | nil => exact ⟨rfl, .refl⟩
  | cons deed deeds ih =>
    have first : ∀ endpoint ready, deed.milestone? cursor ≠ some (.greeted endpoint ready) := by
      intro endpoint ready same
      apply ungreeted endpoint ready
      rw [milestones, same]
      exact List.mem_append_left _ (List.mem_singleton.mpr rfl)
    have rest : ∀ endpoint ready, .greeted endpoint ready ∉ (deed.after cursor).milestones deeds :=
      fun endpoint ready mem => ungreeted endpoint ready (List.mem_append_right _ mem)
    obtain ⟨same, knocks⟩ := (deed.moves cursor).knocks isParked first
    have isParked' : (deed.after cursor).session.IsParked := by
      refine ⟨?_, ?_⟩
      · rw [same, isParked.usable]
      · rw [same, isParked.gone]
    obtain ⟨same', knocks'⟩ := ih isParked' rest
    exact ⟨same'.trans same, knocks.trans knocks'⟩

/-- Nor is anything said when the cursor and its connection are let go of, or when the
session is ended. -/
theorem traffic_close_of_isParked (isParked : cursor.session.IsParked) :
    cursor.release.1 = cursor.session ∧
      (Client.working cursor).close.traffic = cursor.session.traffic ∧
      (Client.working cursor).closeCursor.endSession.state.traffic = cursor.session.traffic := by
  have silent : cursor.IsSilent := .inr isParked.refuses
  have released : cursor.release.1 = cursor.session := silent.session_release
  refine ⟨released, ?_, ?_⟩
  · show cursor.release.1.release = _
    rw [released, isParked.release_eq]
  · show (cursor.release.1.finish.mapState
      (Client.idle · cursor.release.2 cursor.now)).state.traffic
      = _
    rw [Outcome.state_mapState, released, Session.finish, isParked.gone]
    rfl

end Cursor

end ProxyClient
