/-
ProxyClient/Proofs/Cache/Losing.lean

What is left of a recording whose connection is lost.  A cursor runs its
statement, reads rows in any order and is let go of; the link to the server
may be lost at any byte, in front of an answer or in the midst of one, and
the server may answer with errors.  Whatever happens, the file tells what
was heard (`Cursor.records_heard`): no more and no less than is to be
recorded of the frames that arrived whole.

    a cursor records   →  its file has the transcript of what was heard
    it does not        →  the files rest as they are, and nothing that is
                          still heard is to be recorded

Every step leads from one of these states to one of them (`Cursor.IsTaping`).
-/
import ProxyClient.Proofs.Cache.Likeness
import ProxyClient.Proofs.Cache.Transcript
import ProxyClient.Proofs.Cursor.Opening
import ProxyClient.Proofs.Paging.Sources

namespace ProxyClient

variable {ν : Type} [Network ν]

/-! ### The server -/

/-- A server that answers a statement and the fetches of its result set, over a link
that may be lost at any byte.  `stands id` tells that a result set is open,
`stands none` that none is: no statement was run yet, or it failed. -/
structure AnsweringServer (sql : String) (binds : BindSet) (link : LinkId)
    (stands : Option ResultSetId → ν → Prop) : Prop where
  /-- The statement opens the result set that is described, or it fails. -/
  executes : ∀ {network : ν}, stands none network → ∀ options : ExecuteOptions,
    ∃ events error?, Network.Answers network link (.execute sql binds options) events error?
      fun after => match error? with
        | none => ∀ describe, events.head? = some (.describe describe) →
          stands (some describe.head.id) after
        | some _ => stands none after
  /-- A fetch is answered, and the result set stays open. -/
  fetches : ∀ {network : ν} {id : ResultSetId}, stands (some id) network →
    ∀ (skip : UInt64) (limit : UInt32),
    ∃ events error?, Network.Answers network link (.fetch id skip limit) events error?
      (stands (some id))
  /-- Of no result set no rows are sent. -/
  rejects : ∀ {network : ν}, stands none network →
    ∀ (id : ResultSetId) (skip : UInt64) (limit : UInt32),
    ∃ frame, Network.Answers network link (.fetch id skip limit) [] (some frame) (stands none)
  /-- Nor is there anything to give up. -/
  aborts : ∀ {network : ν}, stands none network → ∀ id : ResultSetId,
    Network.Acknowledges network link (.abortResultSet id)

namespace Cursor

/-! ### Cursors that record, and cursors that do not -/

/-- What is heard on behalf of a cursor since it started is recorded. -/
structure IsRecording (start : Cursor (Tapped ν)) (path : String) (link : LinkId)
    (stands : Option ResultSetId → ν → Prop) (cursor : Cursor (Tapped ν)) : Prop where
  /-- The rows come from the server. -/
  live : cursor.source = none
  /-- The session was neither parked nor replaced. -/
  epoch_eq : cursor.session.connection.epoch = cursor.epoch
  /-- The page was not given up. -/
  present : cursor.result.suspended = false
  /-- The recorder has taken all that was heard. -/
  taken : ∃ id frames, cursor.result.id = some id ∧
    cursor.session.HasHeard link (stands (some id)) start.session.traffic.network.heard frames ∧
    CacheWriter.HasTaken path start.header frames cursor.result.ended (cursor.recorder, cursor.disk)

/-- Nothing is recorded any more, and no result set is open: the file holds what is to
be recorded of all that was heard. -/
structure IsOver (start : Cursor (Tapped ν)) (path : String) (link : LinkId)
    (stands : Option ResultSetId → ν → Prop) (cursor : Cursor (Tapped ν)) : Prop where
  /-- The rows come from the server. -/
  live : cursor.source = none
  /-- There is no recorder. -/
  unrecorded : cursor.recorder = none
  /-- The file is complete, as far as anything was heard. -/
  left : ∃ frames,
    cursor.session.HasHeard link (stands none) start.session.traffic.network.heard frames ∧
    CacheWriter.HasLeft start.disk path start.header frames cursor.disk

/-- A cursor that records, or does not any more. -/
def IsTaping (start : Cursor (Tapped ν)) (path : String) (link : LinkId)
    (stands : Option ResultSetId → ν → Prop) (cursor : Cursor (Tapped ν)) : Prop :=
  IsRecording start path link stands cursor ∨ IsOver start path link stands cursor

/-- The session and the disk that a cursor leaves: the file at the path holds what is
to be recorded of the bytes that were heard since the cursor started.  If that is
nothing, all files are as they were. -/
def RecordsHeard (start : Cursor (Tapped ν)) (path : String) (left : Session (Tapped ν) × Disk) :
    Prop :=
  ∃ received,
    left.1.traffic.network.heard = start.session.traffic.network.heard ++ received ∧
    CacheWriter.HasLeft start.disk path start.header (framesIn received) left.2

section

variable {sql : String} {binds : BindSet} {link : LinkId} {stands : Option ResultSetId → ν → Prop}
  {start cursor : Cursor (Tapped ν)} {path : String}

/-! ### Fetching -/

/-- **A fetch is recorded**, as far as it is heard. -/
theorem IsRecording.fetchPage (server : AnsweringServer sql binds link stands)
    (recording : IsRecording start path link stands cursor) (more : cursor.result.ended = false)
    (skip : Nat) : IsRecording start path link stands (cursor.fetchPage skip).state := by
  obtain ⟨id, frames, known, heard, taken⟩ := recording.taken
  -- the page takes the events that arrive, and an error if the answer is cut off
  obtain ⟨session, query, e?, events, front, error?, refusal?, torn, run, same, handled, heard',
      ended⟩ :=
    heard.run takes_reception
      (show (QueryRequest.fetch id (UInt64.ofNat skip) cursor.bufferSize).request.encode = .ok _
        from rfl)
      (fun at_ => server.fetches at_ (UInt64.ofNat skip) cursor.bufferSize)
      { handler := cursor.begun.parts }
  have asked : cursor.begun.query (.fetch id (UInt64.ofNat skip) cursor.bufferSize) =
      Outcome.ending e? (cursor.begun.taking session front) := query_eq_ending run handled
  obtain ⟨id_eq, suspended_eq, ended_eq⟩ :=
    cursor.begun.result.foldl_of_orderly (show Orderly .processingRows front from ended.orderly)
  rw [← taking_result cursor.begun session] at id_eq suspended_eq ended_eq
  rw [state_fetchPage recording.live known, asked, Outcome.state_ending]
  refine ⟨recording.live, same.epoch_eq.trans recording.epoch_eq,
    suspended_eq.trans recording.present, id, _, id_eq.trans known, heard', ?_⟩
  rw [more] at taken
  -- the end frame is written iff the page has learnt of the end
  have flag : (cursor.begun.taking session front).result.ended = front.any RowEvent.isEnd := by
    rw [ended_eq, show cursor.begun.result.ended = false from more, Bool.false_or]
  rw [taking_recorder, flag]
  exact taken.foldl ended.orderly ended.isNotice

/-- **Where nothing is recorded, nothing is sent that would be.** -/
theorem IsOver.fetchPage (server : AnsweringServer sql binds link stands)
    (past : IsOver start path link stands cursor) (skip : Nat) :
    IsOver start path link stands (cursor.fetchPage skip).state := by
  obtain ⟨frames, heard, left⟩ := past.left
  rcases known : cursor.result.id with - | id
  · rw [Cursor.fetchPage, known]
    exact past
  · rw [state_fetchPage past.live known]
    cases heard with
    | ready fit ready at_ heard_eq =>
      obtain ⟨frame, answered⟩ := server.rejects at_ id (UInt64.ofNat skip) cursor.bufferSize
      obtain ⟨session, query, e?, front, refusal?, torn, run, -, handled, more_eq, ended⟩ :=
        Session.run_of_answers takes_reception ready rfl answered { handler := cursor.begun.parts }
      have asked : cursor.begun.query (.fetch id (UInt64.ofNat skip) cursor.bufferSize) =
          Outcome.ending e? (cursor.begun.taking session front) := query_eq_ending run handled
      -- no row is sent, but an error may be heard
      obtain rfl := List.prefix_nil.mp ended.front_prefix
      rw [asked, Outcome.state_ending]
      refine ⟨past.live, past.unrecorded, _, ended.hasHeard fit heard_eq more_eq, ?_⟩
      exact left.append_notices fun frame mem =>
        (ended.isNotice frame (Option.mem_toList.mp mem)).2
    | lost fit refuses tail heard_eq =>
      obtain ⟨e, refused⟩ := query_of_refuses cursor.begun
        (.fetch id (UInt64.ofNat skip) cursor.bufferSize) refuses
      rw [refused]
      exact ⟨past.live, past.unrecorded, frames, .lost fit refuses tail heard_eq, left⟩

/-! ### Steps -/

/-- Every fetch for a row leads from one state to the other, or stays. -/
theorem IsTaping.fetchPage (server : AnsweringServer sql binds link stands)
    (taping : IsTaping start path link stands cursor) (more : cursor.result.ended = false)
    (skip : Nat) : IsTaping start path link stands (cursor.fetchPage skip).state :=
  taping.imp (fun recording => recording.fetchPage server more skip)
    fun past => past.fetchPage server skip

omit [Network ν] in
/-- An error that is remembered is none of the recorder's business. -/
theorem IsTaping.note (taping : IsTaping start path link stands cursor) (e : Error) :
    IsTaping start path link stands (cursor.note e) :=
  taping.imp (fun ⟨live, epoch_eq, present, taken⟩ => ⟨live, epoch_eq, present, taken⟩)
    fun ⟨live, unrecorded, left⟩ => ⟨live, unrecorded, left⟩

omit [Network ν] in
/-- A page is given up only where nothing is recorded. -/
theorem IsTaping.checkEpoch (taping : IsTaping start path link stands cursor) :
    IsTaping start path link stands cursor.checkEpoch := by
  rcases taping with recording | past
  · rw [Cursor.checkEpoch_of_epoch_eq recording.epoch_eq]
    exact .inl recording
  · obtain ⟨result, checked⟩ := checkEpoch_of_unrecorded past.unrecorded
    rw [checked]
    exact .inr ⟨past.live, past.unrecorded, past.left⟩

/-- **A read is recorded**, whatever becomes of it. -/
theorem IsTaping.ensureRow (server : AnsweringServer sql binds link stands)
    (taping : IsTaping start path link stands cursor) (row : Nat) :
    IsTaping start path link stands (cursor.ensureRow row) :=
  fetchTo_keeps
    (fun after taping needs =>
      taping.fetchPage server (ResultSet.more_of_needsFetch needs).1 (after.skipFor row))
    (fun _ e taping => taping.note e) cursor.checkEpoch taping.checkEpoch

/-- So are all the steps of a program. -/
theorem IsTaping.afterSteps (server : AnsweringServer sql binds link stands)
    (taping : IsTaping start path link stands cursor) (steps : List PageStep) :
    IsTaping start path link stands (cursor.afterSteps steps) := by
  induction steps generalizing cursor with
  | nil => exact taping
  | cons step steps ih =>
    apply ih
    cases step with
    | resize rows =>
      exact taping.imp (fun ⟨live, epoch_eq, present, taken⟩ => ⟨live, epoch_eq, present, taken⟩)
        fun ⟨live, unrecorded, left⟩ => ⟨live, unrecorded, left⟩
    | read row => exact taping.ensureRow server row.toNat

/-! ### Letting go -/

omit [Network ν] in
/-- What was heard are some frames, and a part of another one. -/
theorem recordsHeard_of_heard {session : Session (Tapped ν)} {disk : Disk} {frames : List Frame}
    {torn : Bytes} (fit : ∀ frame ∈ frames, frame.Fits) (tail : torn = [] ∨ Frame.Torn torn)
    (heard_eq : session.traffic.network.heard =
      start.session.traffic.network.heard ++ (frames.flatMap Frame.encode ++ torn))
    (left : CacheWriter.HasLeft start.disk path start.header frames disk) :
    start.RecordsHeard path (session, disk) := by
  rw [← framesIn_append fit tail] at left
  exact ⟨_, heard_eq, left⟩

omit [Network ν] in
theorem recordsHeard_of_hasHeard {session : Session (Tapped ν)} {disk : Disk} {frames : List Frame}
    {at_ : ν → Prop}
    (heard : session.HasHeard link at_ start.session.traffic.network.heard frames)
    (left : CacheWriter.HasLeft start.disk path start.header frames disk) :
    start.RecordsHeard path (session, disk) := by
  obtain ⟨fit, torn, tail, heard_eq⟩ := heard.exists_torn
  exact recordsHeard_of_heard fit tail heard_eq left

omit [Network ν] in
/-- The recorder of a cursor that records knows whether the page has ended. -/
theorem IsRecording.exists_writer (recording : IsRecording start path link stands cursor) :
    ∃ writer, cursor.recorder = some writer ∧ writer.finished = cursor.result.ended := by
  obtain ⟨id, frames, known, heard, taken⟩ := recording.taken
  obtain ⟨file, since, writer, image, -, there, -, -, holds⟩ := taken
  exact ⟨writer, there, holds.finished_eq⟩

/-- **What is recorded to the end** is closed, and nothing is asked for. -/
theorem IsRecording.settle_of_ended (recording : IsRecording start path link stands cursor)
    (ended : cursor.result.ended = true) :
    start.RecordsHeard path (cursor.settle.state.session, cursor.settle.state.disk) := by
  obtain ⟨writer, there, finished_eq⟩ := recording.exists_writer
  obtain ⟨id, frames, known, heard, taken⟩ := recording.taken
  rw [there, ended] at taken
  have drained : ({ cursor with recorder := none } : Cursor (Tapped ν)).drain writer =
      .ok () (writer, { cursor with recorder := none }) := by
    rw [drain, if_pos (finished_eq.trans ended)]
  rw [Cursor.settle, there]
  simp only [drained]
  exact recordsHeard_of_hasHeard heard (taken.finish start.disk)

/-- **The rest is asked for** of what is not.  The file is finished, or stays without
an end. -/
theorem IsRecording.settle_of_more (server : AnsweringServer sql binds link stands)
    (recording : IsRecording start path link stands cursor) (more : cursor.result.ended = false) :
    start.RecordsHeard path (cursor.settle.state.session, cursor.settle.state.disk) := by
  obtain ⟨writer, there, finished_eq⟩ := recording.exists_writer
  obtain ⟨id, frames, known, heard, taken⟩ := recording.taken
  rw [there, more] at taken
  have asks : ({ cursor with recorder := none } : Cursor (Tapped ν)).openAtServer? = some id := by
    unfold openAtServer?
    simp only [recording.live, more, recording.present, known]
    rfl
  obtain ⟨session, query, e?, events, front, error?, refusal?, torn, run, same, handled, heard',
      ended⟩ :=
    heard.run CacheWriter.takes_handler
      (show (QueryRequest.fetch id 0 0).request.encode = .ok _ from rfl)
      (fun at_ => server.fetches at_ 0 0) { handler := (writer, cursor.disk) }
  have drained : ({ cursor with recorder := none } : Cursor (Tapped ν)).drain writer =
      Outcome.ending e? (query.handler.1,
        { cursor with session, disk := query.handler.2, recorder := none }) := by
    rw [drain_eq_run (finished_eq.trans more) asks]
    rw [show Session.run _ _ _ = _ from run]
    cases e? <;> rfl
  -- the end frame is there if, and only if, the query did not fail
  have taken' := taken.foldl ended.orderly ended.isNotice
  rw [CacheWriter.foldl_record_some, ← handled, ended.any_isEnd_of_fetch_all] at taken'
  rw [Cursor.settle, there]
  simp only [drained]
  cases e? with
  | none => exact recordsHeard_of_hasHeard heard' (taken'.finish start.disk)
  | some e => exact recordsHeard_of_hasHeard heard' (taken'.detach start.disk)

/-- **A recorder that settles** leaves what was heard. -/
theorem IsRecording.settle (server : AnsweringServer sql binds link stands)
    (recording : IsRecording start path link stands cursor) :
    start.RecordsHeard path (cursor.settle.state.session, cursor.settle.state.disk) := by
  cases ended : cursor.result.ended with
  | true => exact recording.settle_of_ended ended
  | false => exact recording.settle_of_more server ended

/-- **A cursor that records nothing** leaves the file as it is. -/
theorem IsOver.settle (server : AnsweringServer sql binds link stands)
    (past : IsOver start path link stands cursor) :
    start.RecordsHeard path (cursor.settle.state.session, cursor.settle.state.disk) := by
  obtain ⟨frames, heard, left⟩ := past.left
  unfold Cursor.settle
  simp only [past.unrecorded]
  rcases cursor.openAtServer? with - | id
  · exact recordsHeard_of_hasHeard heard left
  · -- the server is told to discard the rows, and may answer
    simp only [Outcome.state_mapState]
    cases heard with
    | ready fit ready at_ heard_eq =>
      obtain ⟨notices, torn, plain, tail, more_eq⟩ :=
        Session.heard_of_acknowledges ready (server.aborts at_ id) none
      have fit' : ∀ frame ∈ frames ++ notices, frame.Fits := fun frame mem =>
        (List.mem_append.mp mem).elim (fit frame) fun new => (plain frame new).1
      refine recordsHeard_of_heard fit' tail ?_
        (left.append_notices fun frame mem => (plain frame mem).2)
      rw [more_eq, heard_eq]
      simp only [List.flatMap_append, List.append_assoc]
    | lost fit refuses tail heard_eq =>
      obtain ⟨e, refused⟩ :=
        Session.run_of_refuses refuses (Command.abortResultSet id).exchange none
      rw [refused]
      exact recordsHeard_of_heard fit tail heard_eq left

/-- **Whatever state it is in, the cursor leaves what is to be recorded.** -/
theorem IsTaping.release (server : AnsweringServer sql binds link stands)
    (taping : IsTaping start path link stands cursor) : start.RecordsHeard path cursor.release := by
  rw [release_eq]
  rcases taping.checkEpoch with recording | past
  · exact recording.settle server
  · exact past.settle server

/-! ### Statements -/

variable {armed : Cursor (Tapped ν)} {session : Session (Tapped ν)} {front : List RowEvent}
  {refusal? : Option Frame}

omit [Network ν] in
/-- **A statement that fails** gives its recorder up. -/
theorem isOver_of_failed (isArmed : start.IsArmed armed) (target : start.cacheTarget = some path)
    (occupied : ∀ id, start.disk.openFile path = .ok id → start.disk.bytesOf id ≠ [])
    (orderly : Orderly .waitingDescribe front)
    (plain : ∀ frame ∈ refusal?, frame.Fits ∧ frame.IsNotice)
    (heard : session.HasHeard link (stands none) start.session.traffic.network.heard
      (replyFrames front refusal?)) (e : Error) :
    IsOver start path link stands ((armed.taking session front).abandonRecorder.note e) := by
  obtain ⟨writer, disk, created, armed_eq⟩ := isArmed.exists_writer target
  have there : (armed.recorder, armed.disk) = (some writer, disk) := by rw [armed_eq]
  have parts := taking_recorder armed session front
  rw [there] at parts
  rcases taken : front.foldl CacheWriter.record (some writer, disk) with ⟨- | writer', disk'⟩
  · have isSome := CacheWriter.isSome_foldl_record front (some writer, disk)
    rw [taken] at isSome
    contradiction
  · obtain ⟨recorder_eq, disk_eq⟩ := Prod.mk.inj (parts.trans taken)
    have left := CacheWriter.hasLeft_abandon occupied created orderly plain taken
    rw [abandonRecorder]
    simp only [recorder_eq, disk_eq]
    exact ⟨isArmed.source_eq, rfl, _, heard, left⟩

omit [Network ν] in
/-- **A statement that succeeds** begins to be recorded. -/
theorem isRecording_of_opened (isArmed : start.IsArmed armed)
    (target : start.cacheTarget = some path)
    (occupied : ∀ id, start.disk.openFile path = .ok id → start.disk.bytesOf id ≠ [])
    (orderly : Orderly .waitingDescribe front) (nonempty : front ≠ [])
    (heard : session.HasHeard link
      (fun network => ∀ describe, front.head? = some (.describe describe) →
        stands (some describe.head.id) network)
      start.session.traffic.network.heard (replyFrames front none)) :
    IsRecording start path link stands
      ({ armed.taking session front with session := session.statementExecuted } :
        Cursor (Tapped ν)).opened := by
  obtain ⟨writer, disk, created, armed_eq⟩ := isArmed.exists_writer target
  obtain ⟨describe, rest, rfl, legible, behind⟩ :=
    orderly.waitingDescribe_cases.resolve_left nonempty
  -- the description opens the page, and the rows leave it open
  obtain ⟨id_eq, suspended_eq, ended_eq⟩ :=
    ResultSet.foldl_of_orderly (armed.result.openWith describe) behind
  have page : (armed.taking session (.describe describe :: rest)).result =
      rest.foldl ResultSet.apply (armed.result.openWith describe) := taking_result ..
  rw [← page] at id_eq suspended_eq ended_eq
  -- the recorder takes both
  have none_ : ∀ frame ∈ (none : Option Frame), frame.Fits ∧ frame.IsNotice := by simp
  have taken := CacheWriter.hasTaken_of_create occupied created describe behind none_
  have there : (armed.recorder, armed.disk) = (some writer, disk) := by rw [armed_eq]
  have parts := taking_recorder armed session (.describe describe :: rest)
  rw [there] at parts
  rw [← parts] at taken
  refine ⟨isArmed.source_eq, rfl, suspended_eq, describe.head.id, _, id_eq,
    (heard.imp fun network at_ => at_ describe rfl).statementExecuted, ?_⟩
  show CacheWriter.HasTaken path start.header _
    (armed.taking session (.describe describe :: rest)).result.ended _
  rw [ended_eq]
  exact taken

/-- **A statement whose target is created** is recorded, if it succeeds, and as far as
it was heard. -/
theorem isTaping_executed (isArmed : start.IsArmed armed) (target : start.cacheTarget = some path)
    (occupied : ∀ id, start.disk.openFile path = .ok id → start.disk.bytesOf id ≠ [])
    (server : AnsweringServer (start.substitutions.expand start.sql) start.binds link stands)
    (ready : start.session.Ready link)
    (unopened : stands none start.session.traffic.network.network) :
    IsTaping start path link stands (start.executed armed).state := by
  rw [← isArmed.session_eq] at ready unopened
  have heard_eq : armed.session.traffic.network.heard =
      start.session.traffic.network.heard ++ List.flatMap Frame.encode [] := by
    rw [isArmed.session_eq, List.flatMap_nil, List.append_nil]
  rw [executed]
  rcases written : (QueryRequest.execute (start.substitutions.expand start.sql) start.binds
    start.executeOptions).request.encode with e | bytes
  · -- the statement cannot be sent
    have orderly : Orderly .waitingDescribe [] := trivial
    have nothing : armed.session.HasHeard link (stands none)
        start.session.traffic.network.heard (replyFrames [] none) :=
      .ready (List.forall_mem_nil _) ready unopened heard_eq
    rw [query_of_unwritten ready written]
    exact .inr (isOver_of_failed isArmed target occupied orderly (by simp) nothing e)
  · obtain ⟨events, error?, answered⟩ := server.executes unopened start.executeOptions
    obtain ⟨session, query, e?, front, refusal?, torn, run, -, handled, more_eq, ended⟩ :=
      Session.run_of_answers takes_reception ready written answered { handler := armed.parts }
    rw [query_eq_ending run handled]
    have heard := ended.hasHeard (List.forall_mem_nil Frame.Fits) heard_eq more_eq
    cases ended with
    | arrived orderly rest ready at_ =>
      exact .inl (isRecording_of_opened isArmed target occupied orderly (by simp) heard)
    | refused orderly more fits type left =>
      exact .inr (isOver_of_failed isArmed target occupied orderly
        (by rintro _ ⟨⟩; exact ⟨fits, .inr type⟩) heard _)
    | lost before orderly more tail refuses =>
      exact .inr (isOver_of_failed isArmed target occupied orderly (by simp)
        (heard.of_refuses refuses) _)

/-- If the target cannot be created, the server is not asked. -/
theorem isTaping_execute (idle : start.IsIdle) (cleared : start.cleared = start)
    (target : start.cacheTarget = some path)
    (occupied : ∀ id, start.disk.openFile path = .ok id → start.disk.bytesOf id ≠ [])
    (server : AnsweringServer (start.substitutions.expand start.sql) start.binds link stands)
    (ready : start.session.Ready link)
    (unopened : stands none start.session.traffic.network.network) :
    IsTaping start path link stands start.execute.state := by
  rcases idle.execute_cases with ⟨e, failed⟩ | ⟨armed, isArmed, ran⟩
  · rw [failed, cleared]
    exact .inr ⟨idle.source_eq, idle.recorder_eq, [],
      .ready (List.forall_mem_nil _) ready unopened (List.append_nil _).symm,
      CacheWriter.hasLeft_of_none path rfl (.refl _)⟩
  · rw [ran]
    exact isTaping_executed isArmed target occupied server ready unopened

end

/-- **A lost connection leaves what was heard.**  A cursor closes what it has open and
runs its statement, with a target that is absent or not empty; rows are read in any
order, however many are fetched at once, and the cursor is let go of.  The link may
be lost in front of any request and at any byte of any answer, and any answer may
end with an error.  If the description never arrived whole, the files are as they
were before the statement.  Otherwise the target holds the new header, the
description, and the rows that arrived whole, in order; and behind them an end
frame if, and only if, the end of a batch arrived whole that says that no rows are
left. -/
theorem records_heard {former start : Cursor (Tapped ν)} {path : String} {link : LinkId}
    {stands : Option ResultSetId → ν → Prop} (clears : former.Clears start)
    (target : start.cacheTarget = some path)
    (occupied : ∀ id, start.disk.openFile path = .ok id → start.disk.bytesOf id ≠ [])
    (server : AnsweringServer (start.substitutions.expand start.sql) start.binds link stands)
    (ready : start.session.Ready link)
    (unopened : stands none start.session.traffic.network.network) (steps : List PageStep) :
    start.RecordsHeard path (former.execute.state.afterSteps steps).release := by
  have taping := isTaping_execute clears.isIdle clears.cleared_eq target occupied server ready
    unopened
  rw [clears.execute_eq]
  exact (taping.afterSteps server steps).release server

end Cursor

namespace TableServer

/-! ### A server that falls silent -/

/-- The result set with an identifier is open at the server, or none is. -/
def HasOpen (store : RowStore) : Option ResultSetId → TableServer → Prop
  | none, server => IsAt store none server
  | some id, server => id = store.id ∧ ∃ position, IsAt store (some position) server

/-- What is not answered might have been answered by any frame. -/
theorem loses_of_nothing {server : TableServer} {request : Request} {question : Asked}
    {position : Option Nat} (link : LinkId) (frame : Frame)
    (reads : ∀ bytes, request.encode = .ok bytes → asked bytes = question)
    (answers : answer server.store server.position question = ([], position)) :
    Network.Loses server link request frame.encode := by
  intro bytes written
  refine .inr ⟨[], frame.encode, false, rfl, frame.encode_ne_nil, ?_⟩
  rw [send_eq (reads bytes written) answers]
  rcases server.budget with - | left
  · rfl
  · show SendResult.accepted ([].take left) false = _
    rw [List.take_nil]

/-- **Whatever it still can send, it is a server that may be lost.** -/
theorem answeringServer (store : RowStore) (sql : String) (binds : BindSet) (link : LinkId) :
    AnsweringServer sql binds link (HasOpen store) where
  executes := by
    rintro ⟨store, _, budget⟩ ⟨rfl, rfl, -⟩ options
    have orderly := store.orderly_opened options
      (Batch.documented store.rows.length 0 0 options.bufferSize)
    -- the description and the first page, or as much of them as the link lets through
    refine ⟨store.opened options (Batch.documented store.rows.length 0 0 options.bufferSize), none,
      ?_, ?_⟩
    · rw [store.opened_eq] at orderly ⊢
      exact .batch orderly (by simp)
    · rw [replyFrames_none, ← RowEvent.encodeAll_eq_flatMap]
      refine (delivers_or_loses (fun _ written => asked_execute written) rfl).imp_left fun all =>
        all.imp ?_
      rintro after ⟨rfl, position_eq⟩ describe first
      obtain rfl := RowEvent.describe.inj (Option.some.inj first)
      exact ⟨after.store.describe_id options 0, _, rfl, position_eq,
        le_of_documented _ (Nat.zero_le _) _ _⟩
  fetches := by
    rintro ⟨store, _, budget⟩ id ⟨rfl, position, rfl, rfl, le⟩ skip limit
    -- another page, or as much of it
    refine ⟨store.fetched position (Batch.documented store.rows.length position skip limit), none,
      .batch (store.orderly_fetched position _) ?_, ?_⟩
    · rintro id' skip' same
      obtain ⟨-, -, rfl⟩ := QueryRequest.fetch.inj same
      rfl
    · rw [replyFrames_none, ← RowEvent.encodeAll_eq_flatMap]
      refine (delivers_or_loses (fun _ written => asked_fetch written) rfl).imp_left fun all =>
        all.imp ?_
      rintro after ⟨rfl, position_eq⟩
      exact ⟨rfl, _, rfl, position_eq, le_of_documented _ (le position rfl) _ _⟩
  rejects := by
    rintro ⟨store, _, budget⟩ ⟨rfl, rfl, -⟩ id skip limit
    refine ⟨⟨ServerMessage.Kind.error.toByte, []⟩, .error trivial (List.forall_mem_nil _) (by decide)
      rfl, .inr ?_⟩
    rw [flatMap_replyFrames_some]
    exact loses_of_nothing link _ (fun _ written => asked_fetch written) rfl
  aborts := by
    rintro ⟨store, _, budget⟩ ⟨rfl, rfl, -⟩ id
    refine ⟨⟨ServerMessage.Kind.ok.toByte, []⟩, by decide, .inl rfl, .inr ?_⟩
    have unread : ∀ bytes, (Request.command (.abortResultSet id)).encode = .ok bytes →
        asked bytes = .other := by
      intro bytes written
      obtain rfl := Except.ok.inj written
      rfl
    exact loses_of_nothing link _ unread rfl

/-- A cursor on a tapped link to the server that can send only a part of its rows.  It
records them in the place of a file that is there. -/
def losingCursor : Cursor (Tapped TableServer) :=
  let plain := failing.cursor recordedDisk
  let traffic : Traffic (Tapped TableServer) := ⟨⟨plain.session.traffic.network, []⟩, []⟩
  { Cursor.onSession ⟨plain.session.connection, traffic⟩ recordedDisk 0 with
    bufferSize := 2, cacheTarget := some "cached" }

/-- What is known of a run of this cursor: the link is lost behind four rows, and these
are in the file, without an end frame. -/
theorem records_heard_losingCursor :
    let steps : List PageStep := [.read 0, .read 4, .resize 1, .read 1]
    let left := (losingCursor.execute.state.afterSteps steps).release
    losingCursor.Clears losingCursor ∧ losingCursor.cacheTarget = some "cached" ∧
      (∀ id, losingCursor.disk.openFile "cached" = .ok id → losingCursor.disk.bytesOf id ≠ []) ∧
      AnsweringServer (losingCursor.substitutions.expand losingCursor.sql) losingCursor.binds 0
        (HasOpen fiveRowStore) ∧
      losingCursor.session.Ready 0 ∧
      HasOpen fiveRowStore none losingCursor.session.traffic.network.network ∧
      left.1.connection.broken = true ∧
      left.2.bytesAt? "cached" = some (CacheWriter.recorded losingCursor.header
        (fiveRowStore.describe ⟨true, 2⟩ 0) (fiveRows.take 4)) ∧
      losingCursor.RecordsHeard "cached" left := by
  intro steps left
  have idle : losingCursor.IsIdle := ⟨rfl, rfl, rfl, rfl⟩
  have clears : losingCursor.Clears losingCursor := idle.clears
  have occupied : ∀ id, losingCursor.disk.openFile "cached" = .ok id →
      losingCursor.disk.bytesOf id ≠ [] := by
    intro id found
    have there : (losingCursor.disk.openFile "cached").toOption = some 0 := by decide +kernel
    rw [found] at there
    obtain rfl : id = 0 := Option.some.inj there
    decide +kernel
  have server := answeringServer fiveRowStore (losingCursor.substitutions.expand losingCursor.sql)
    losingCursor.binds 0
  have ready : losingCursor.session.Ready 0 := ⟨rfl, {}, rfl, rfl⟩
  have unopened : HasOpen fiveRowStore none losingCursor.session.traffic.network.network :=
    ⟨rfl, rfl, fun _ there => absurd there (by simp)⟩
  exact ⟨clears, rfl, occupied, server, ready, unopened, by decide +kernel, by decide +kernel,
    Cursor.records_heard clears rfl occupied server ready unopened steps⟩

end TableServer

end ProxyClient
