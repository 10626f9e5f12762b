/-
ProxyClient/Proofs/Paging/Server.lean

Servers that answer statements and fetches, and what a cursor makes of their
answers.  A server is given by what may be said of the network: `stands p`
tells that the result set is open and the server stands at row `p` of it,
`stands none` that no statement was run yet.

`PagingServer` answers as documented over a network that does not fail.
`LossyServer` promises less: some bytes of an answer may be lost, or the
request, and a batch may be any that is within what was asked for.
`ResumableServer` promises more: a client may leave a result set and come
back to it, over the same link or in another session.
-/
import ProxyClient.Cursor.Statement
import ProxyClient.Proofs.Paging.Page
import ProxyClient.Proofs.Session.Delivery

namespace ProxyClient

variable {ν : Type} [Network ν]

/-! ### Servers -/

/-- A server that runs one statement and pages through its result set as
documented, over a link that does not fail. -/
structure PagingServer (store : RowStore) (sql : String) (binds : List Bind) (link : LinkId)
    (stands : Option Nat → ν → Prop) : Prop where
  /-- It stands at one of the rows, or behind the last. -/
  bounded : ∀ {network : ν} {position : Nat}, stands (some position) network →
    position ≤ store.rows.length
  /-- The statement is answered by the description and the first batch. -/
  executes : ∀ {network : ν}, stands none network → ∀ options : ExecuteOptions,
    let batch := Batch.documented store.rows.length 0 0 options.bufferSize
    Network.Delivers network link (.execute sql binds options)
      (RowEvent.encodeAll (store.opened options batch)) (stands (some (batch.next 0)))
  /-- A fetch is answered by the batch that was asked for. -/
  fetches : ∀ {network : ν} {position : Nat}, stands (some position) network →
    ∀ (skip : UInt64) (limit : UInt32),
    let batch := Batch.documented store.rows.length position skip limit
    Network.Delivers network link (.fetch store.id skip limit)
      (RowEvent.encodeAll (store.fetched position batch)) (stands (some (batch.next position)))

/-- A server that pages through its result set, over a link that may be lost
at any byte. -/
structure LossyServer (store : RowStore) (sql : String) (binds : List Bind) (link : LinkId)
    (stands : Option Nat → ν → Prop) : Prop where
  /-- The statement is answered by the description and a first batch. -/
  executes : ∀ {network : ν}, stands none network → ∀ options : ExecuteOptions,
    ∃ batch : Batch, batch.Within store.rows.length 0 0 options.bufferSize ∧
      (Network.Delivers network link (.execute sql binds options)
          (RowEvent.encodeAll (store.opened options batch)) (stands (some (batch.next 0))) ∨
        Network.Loses network link (.execute sql binds options)
          (RowEvent.encodeAll (store.opened options batch)))
  /-- A fetch is answered by a batch within what was asked for. -/
  fetches : ∀ {network : ν} {position : Nat}, stands (some position) network →
    ∀ (skip : UInt64) (limit : UInt32),
    ∃ batch : Batch, batch.Within store.rows.length position skip limit ∧
      (Network.Delivers network link (.fetch store.id skip limit)
          (RowEvent.encodeAll (store.fetched position batch)) (stands (some (batch.next position))) ∨
        Network.Loses network link (.fetch store.id skip limit)
          (RowEvent.encodeAll (store.fetched position batch)))

/-- A server that pages through its result set, and keeps its place for a client
that leaves the result set or parks the session. -/
structure ResumableServer (store : RowStore) (sql : String) (binds : List Bind)
    (stands : LinkId → Option Nat → ν → Prop) (parked : Nat → ν → Prop) : Prop where
  /-- It answers statements and fetches as documented. -/
  pages : ∀ link, PagingServer store sql binds link (stands link)
  /-- A description tells where the rows that follow it begin. -/
  describes : ∀ options, ∀ position ≤ store.rows.length,
    (store.describe options position).head.firstRow.toNat = position
  /-- A client that attaches is sent a description and the next batch. -/
  attaches : ∀ {network : ν} {link : LinkId} {position : Nat}, stands link (some position) network →
    ∀ options : ExecuteOptions,
    let batch := Batch.documented store.rows.length position 0 options.bufferSize
    Network.Delivers network link (.resumeResultSet store.id options)
      (RowEvent.encodeAll (store.attached options position batch))
      (stands link (some (batch.next position)))
  /-- A session is parked, if that is what the server answers. -/
  parks : ∀ {network : ν} {link : LinkId} {position : Nat}, stands link (some position) network →
    Network.Replies network link (.command .suspendSession) fun frame after =>
      frame.type = ServerMessage.Kind.suspended.toByte → parked position after
  /-- A call changes nothing. -/
  dials : ∀ {network : ν} {position : Nat}, parked position network → ∀ address,
    parked position (Network.dial network address).2
  /-- A session is reclaimed, if that is what the server answers. -/
  reclaims : ∀ {network : ν} {position : Nat}, parked position network →
    ∀ (link : LinkId) (token : String),
    Network.Replies network link (.resumeSession token) fun frame after =>
      frame.type = ServerMessage.Kind.sessionReady.toByte → stands link (some position) after

/-- A server that answers as documented and loses nothing is one that may lose
something. -/
theorem PagingServer.lossy {store : RowStore} {sql : String} {binds : List Bind} {link : LinkId}
    {stands : Option Nat → ν → Prop} (server : PagingServer store sql binds link stands) :
    LossyServer store sql binds link stands where
  executes := fun at_ options =>
    ⟨_, Batch.documented_within (Nat.zero_le _) 0 options.bufferSize,
      .inl (server.executes at_ options)⟩
  fetches := fun at_ skip limit =>
    ⟨_, Batch.documented_within (server.bounded at_) skip limit,
      .inl (server.fetches at_ skip limit)⟩

namespace Cursor

/-! ### Queries of a cursor -/

/-- The cursor with another session, after its parts took some events. -/
def taking (cursor : Cursor ν) (session : Session ν) (events : List RowEvent) : Cursor ν :=
  { cursor with session }.withParts (events.foldl Reception.take cursor.parts)

section

variable {cursor : Cursor ν} {session : Session ν} {events : List RowEvent}

omit [Network ν]

@[simp] theorem taking_result (cursor : Cursor ν) (session : Session ν) (events : List RowEvent) :
    (cursor.taking session events).result = events.foldl ResultSet.apply cursor.result := by
  show (events.foldl Reception.take cursor.parts).1 = _
  rw [Reception.foldl_take]
  rfl

theorem taking_recorder (cursor : Cursor ν) (session : Session ν) (events : List RowEvent) :
    ((cursor.taking session events).recorder, (cursor.taking session events).disk) =
      events.foldl CacheWriter.record (cursor.recorder, cursor.disk) := by
  show (events.foldl Reception.take cursor.parts).2 = _
  rw [Reception.foldl_take]
  rfl

@[simp] theorem isSome_taking_recorder (cursor : Cursor ν) (session : Session ν)
    (events : List RowEvent) :
    (cursor.taking session events).recorder.isSome = cursor.recorder.isSome := by
  have parts : ((cursor.taking session events).recorder, (cursor.taking session events).disk) = _ :=
    taking_recorder cursor session events
  exact (congrArg (·.1.isSome) parts).trans
    (CacheWriter.isSome_foldl_record events (cursor.recorder, cursor.disk))

end

section

variable (cursor : Cursor ν) (request : QueryRequest) {link : LinkId}
  {answer events : List RowEvent} {batch : BatchEnd} {bytes : Bytes}

/-- A delivered answer is taken by the page and the recorder. -/
theorem query_of_delivered (ready : cursor.session.Ready link)
    (written : request.request.encode = .ok bytes)
    (closed : answer = events ++ [RowEvent.batchEnd batch])
    (orderly : Orderly request.firstPhase answer) {after : ν → Prop}
    (delivers : Network.Delivers cursor.session.traffic.network link request.request
      (RowEvent.encodeAll answer) after) :
    ∃ session : Session ν, session.Ready link ∧ cursor.session.SameBut session ∧
      after session.traffic.network ∧
      cursor.query request = .ok () (cursor.taking session answer) := by
  subst closed
  obtain ⟨session, query, run, ready, same, stands, taken⟩ :=
    Session.run_of_delivered takes_reception ready written orderly delivers
      { handler := cursor.parts }
  refine ⟨session, ready, same, stands, ?_⟩
  rw [Cursor.query, run]
  show Outcome.mapState _ (.ok () _) = _
  rw [taking, ← taken]
  rfl

/-- Of an answer that is lost the page and the recorder took a beginning. -/
theorem query_of_lost (ready : cursor.session.Ready link)
    (written : request.request.encode = .ok bytes)
    (closed : answer = events ++ [RowEvent.batchEnd batch])
    (orderly : Orderly request.firstPhase answer)
    (loses : Network.Loses cursor.session.traffic.network link request.request
      (RowEvent.encodeAll answer)) :
    ∃ (e : Error) (session : Session ν) (front : List RowEvent),
      session.connection.broken = true ∧ cursor.session.SameBut session ∧ front <+: events ∧
      cursor.query request = .error e (cursor.taking session front) := by
  subst closed
  obtain ⟨e, session, query, front, run, broken, same, before, taken⟩ :=
    Session.run_of_lost takes_reception ready written orderly loses { handler := cursor.parts }
  refine ⟨e, session, front, broken, same, before, ?_⟩
  rw [Cursor.query, run]
  show Outcome.mapState _ (.error e _) = _
  rw [taking, ← taken]
  rfl

/-- A session that sends no requests is not asked. -/
theorem query_of_refuses (refuses : cursor.session.Refuses) :
    ∃ e, cursor.query request = .error e cursor := by
  obtain ⟨e, run⟩ := Session.run_of_refuses refuses (Query.exchange request reception)
    { handler := cursor.parts }
  refine ⟨e, ?_⟩
  rw [Cursor.query, run]
  rfl

end

/-! ### Fetches of a cursor -/

omit [Network ν] in
/-- The cursor as it asks for a page: the former one is gone. -/
def begun (cursor : Cursor ν) : Cursor ν :=
  { cursor with result := cursor.result.beginPage }

section

variable {cursor : Cursor ν} {store : RowStore} {link : LinkId} {position : Nat} {batch : Batch}
  {skip : Nat}

/-- Rows that come from the server are fetched into a page that was begun. -/
theorem fetchPage_eq_query (live : cursor.source = none) {id : ResultSetId}
    (known : cursor.result.id = some id) (skip : Nat) :
    cursor.fetchPage skip =
      match cursor.begun.query (.fetch id (UInt64.ofNat skip) cursor.bufferSize) with
      | .ok () after => .ok after.result.rows.length after
      | .error e after => .error e after := by
  rw [begun, fetchPage]
  rw [known]
  exact live ▸ rfl

/-- What the cursor is then does not depend on whether that succeeds. -/
theorem state_fetchPage (live : cursor.source = none) {id : ResultSetId}
    (known : cursor.result.id = some id) (skip : Nat) :
    (cursor.fetchPage skip).state =
      (cursor.begun.query (.fetch id (UInt64.ofNat skip) cursor.bufferSize)).state := by
  rw [fetchPage_eq_query live known]
  rcases cursor.begun.query (.fetch id (UInt64.ofNat skip) cursor.bufferSize) with
    ⟨⟨⟩, after⟩ | ⟨e, after⟩
  · rfl
  · rfl

/-- The answer to a fetch is taken by the page that was begun. -/
theorem fetchPage_of_answer {answer events : List RowEvent} {ending : BatchEnd} {id : ResultSetId}
    (live : cursor.source = none) (known : cursor.result.id = some id)
    (ready : cursor.session.Ready link) (closed : answer = events ++ [RowEvent.batchEnd ending])
    (orderly : Orderly .processingRows answer) {after : ν → Prop}
    (delivers : Network.Delivers cursor.session.traffic.network link
      (.fetch id (UInt64.ofNat skip) cursor.bufferSize) (RowEvent.encodeAll answer) after) :
    ∃ session : Session ν, session.Ready link ∧ cursor.session.SameBut session ∧
      after session.traffic.network ∧
      cursor.fetchPage skip =
        .ok (cursor.begun.taking session answer).result.rows.length
          (cursor.begun.taking session answer) := by
  obtain ⟨session, ready, same, stands, query⟩ :=
    query_of_delivered cursor.begun (.fetch id (UInt64.ofNat skip) cursor.bufferSize) ready
      rfl closed orderly delivers
  refine ⟨session, ready, same, stands, ?_⟩
  rw [fetchPage_eq_query live known, query]

theorem fetchPage_of_delivered (live : cursor.source = none)
    (known : cursor.result.id = some store.id) (ready : cursor.session.Ready link)
    {after : ν → Prop}
    (delivers : Network.Delivers cursor.session.traffic.network link
      (.fetch store.id (UInt64.ofNat skip) cursor.bufferSize)
      (RowEvent.encodeAll (store.fetched position batch)) after) :
    ∃ session : Session ν, session.Ready link ∧ cursor.session.SameBut session ∧
      after session.traffic.network ∧
      cursor.fetchPage skip =
        .ok (cursor.begun.taking session (store.fetched position batch)).result.rows.length
          (cursor.begun.taking session (store.fetched position batch)) :=
  fetchPage_of_answer live known ready rfl (store.orderly_fetched position batch) delivers

theorem fetchPage_of_lost (live : cursor.source = none)
    (known : cursor.result.id = some store.id) (ready : cursor.session.Ready link)
    (loses : Network.Loses cursor.session.traffic.network link
      (.fetch store.id (UInt64.ofNat skip) cursor.bufferSize)
      (RowEvent.encodeAll (store.fetched position batch))) :
    ∃ (e : Error) (session : Session ν) (count : Nat),
      session.connection.broken = true ∧ cursor.session.SameBut session ∧
      cursor.fetchPage skip =
        .error e (cursor.begun.taking session
          ((((store.rows.drop (position + batch.skipped)).take batch.count).take count).map .row)) := by
  obtain ⟨e, session, front, broken, same, ⟨back, before⟩, query⟩ :=
    query_of_lost cursor.begun (.fetch store.id (UInt64.ofNat skip) cursor.bufferSize) ready
      rfl rfl (store.orderly_fetched position batch) loses
  refine ⟨e, session, front.length, broken, same, ?_⟩
  rw [List.map_take, ← before, List.take_left' rfl, fetchPage_eq_query live known, query]

end

/-- What every fetch for a row keeps, whether or not it succeeds, is kept up to the
row. -/
theorem fetchTo_keeps {P : Cursor ν → Prop} {row : Nat}
    (fetches : ∀ cursor, P cursor → cursor.result.needsFetch row = true →
      P (cursor.fetchPage (cursor.skipFor row)).state)
    (notes : ∀ cursor e, P cursor → P (cursor.note e)) (cursor : Cursor ν) (h : P cursor) :
    P (cursor.fetchTo row) := by
  -- one page after the other, however the last one ends
  fun_induction Cursor.fetchTo row cursor with
  | case1 cursor needs e after failed =>
    have kept := fetches cursor h needs
    rw [failed] at kept
    exact notes after e kept
  | case2 cursor needs count after brought stuck =>
    have kept := fetches cursor h needs
    rw [brought] at kept
    exact kept
  | case3 cursor needs count after brought _ _ _ ih =>
    have kept := fetches cursor h needs
    rw [brought] at kept
    exact ih kept
  | case4 cursor needs count after brought _ still =>
    have kept := fetches cursor h needs
    rw [brought] at kept
    exact kept
  | case5 cursor enough => exact h

end Cursor

end ProxyClient
