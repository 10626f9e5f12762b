/-
ProxyClient/Proofs/Cursor/Failure.lean

Statements that fail.  A statement closes the former result set before the server
is asked, and takes the answer frame by frame.  So what a failed statement leaves
depends on how far the answer came:

    error, described 7 …          →  no result set
    described 7, row, row, error  →  result set 7, with two rows

In the first case the cursor is vacant (`Cursor.IsVacant`), and stays so whatever
else is done, until it accepts a description: it draws on no result set at the server
(`Cursor.failed_statement_leaves_nothing`).  In the second case the cursor takes
the result set for one that is open, and asks for its rows.
-/
import ProxyClient.Proofs.Cursor.Deeds

namespace ProxyClient

variable {ν : Type} [Network ν]

/-! ### Requests that draw on no result set -/

namespace Traffic

variable {traffic traffic' traffic'' : Traffic ν}

omit [Network ν] in
/-- Since a given time no rows were asked for, and none discarded. -/
def AsksNoRows (traffic traffic' : Traffic ν) : Prop :=
  ∃ requests, traffic.Asks requests traffic' ∧ ∀ request ∈ requests, request.drawsOn = none

omit [Network ν] in
theorem AsksNoRows.refl (traffic : Traffic ν) : traffic.AsksNoRows traffic :=
  ⟨[], .refl traffic, by simp⟩

omit [Network ν] in
theorem AsksNoRows.trans (h : traffic.AsksNoRows traffic') (h' : traffic'.AsksNoRows traffic'') :
    traffic.AsksNoRows traffic'' := by
  obtain ⟨requests, asks, harmless⟩ := h
  obtain ⟨requests', asks', harmless'⟩ := h'
  exact ⟨requests ++ requests', asks.trans asks', List.forall_mem_append.mpr ⟨harmless, harmless'⟩⟩

end Traffic

namespace Session

variable {session : Session ν}

omit [Network ν] in
theorem asksNoRows_of_requests {request : Request} {traffic : Traffic ν}
    (asks : session.traffic.Asks (session.requests request) traffic)
    (harmless : request.drawsOn = none) : session.traffic.AsksNoRows traffic := by
  refine ⟨_, asks, fun other mem => ?_⟩
  rw [eq_of_mem_requests mem]
  exact harmless

theorem asksNoRows_command {command : Command} (session : Session ν)
    (harmless : (Request.command command).drawsOn = none) :
    session.traffic.AsksNoRows (session.command command).state.traffic :=
  asksNoRows_of_requests (asks_command command session) harmless

theorem asksNoRows_commandThen {command : Command} (session : Session ν)
    (harmless : (Request.command command).drawsOn = none) (change : Connection → Connection) :
    session.traffic.AsksNoRows (session.commandThen command change).state.traffic := by
  have asks := session.asksNoRows_command harmless
  rw [commandThen]
  generalize session.command command = outcome at asks ⊢
  rcases outcome with ⟨reply, later⟩ | ⟨e, later⟩
  · exact asks
  · exact asks

theorem asksNoRows_call (session : Session ν) (call : Call) :
    session.traffic.AsksNoRows (call.perform session).2.traffic := by
  -- no call of a session asks for rows, whether it succeeds or not
  cases call with
  | pings =>
    have asks := session.asksNoRows_command (show (Request.command .ping).drawsOn = none from rfl)
    simp only [Call.perform, ping]
    generalize session.command .ping = outcome at asks ⊢
    rcases outcome with ⟨reply, later⟩ | ⟨e, later⟩
    · exact asks
    · exact asks
  | identifies =>
    have asks := session.asksNoRows_command
      (show (Request.command .identify).drawsOn = none from rfl)
    simp only [Call.perform, identify, Outcome.report]
    generalize session.command .identify = outcome at asks ⊢
    rcases outcome with ⟨- | text | suspension, later⟩ | ⟨e, later⟩
    · exact asks
    · exact asks
    · exact asks
    · exact asks
  | commits | rollsBack | toggles on => exact session.asksNoRows_commandThen rfl _

/-- A request is no description. -/
theorem described_notMem_asking {request : Request} {id : ResultSetId} :
    .described id ∉ session.asking request := by
  simp [asking]

end Session

/-! ### Pages -/

/-- A result set that is known stays known, whatever the page takes. -/
theorem ResultSet.isSome_id_foldl {rs : ResultSet} (known : rs.id.isSome = true)
    (events : List RowEvent) : (events.foldl ResultSet.apply rs).id.isSome = true := by
  induction events generalizing rs with
  | nil => exact known
  | cons event events ih =>
    cases event with
    | describe d => exact ih rfl
    | outputBinds | row | batchEnd => exact ih known

namespace Cursor

variable {cursor : Cursor ν}

omit [Network ν] in
/-- A page that took a description knows its result set. -/
theorem isSome_id_taking (cursor : Cursor ν) (session : Session ν) (describe : Describe)
    (events : List RowEvent) :
    (cursor.taking session (.describe describe :: events)).result.id.isSome = true := by
  rw [taking_result]
  exact ResultSet.isSome_id_foldl rfl events

theorem asksNoRows_query {request : QueryRequest} (harmless : request.request.drawsOn = none)
    (cursor : Cursor ν) :
    cursor.session.traffic.AsksNoRows (cursor.query request).state.session.traffic := by
  rw [query, Outcome.state_mapState]
  exact Session.asksNoRows_of_requests
    (Session.asks_run (Query.sends_exchange request reception) cursor.session _) harmless

theorem asksNoRows_of_query {request : QueryRequest} {outcome : Outcome Unit (Cursor ν)}
    (harmless : request.request.drawsOn = none) (asked : cursor.query request = outcome) :
    cursor.session.traffic.AsksNoRows outcome.state.session.traffic :=
  asked ▸ asksNoRows_query harmless cursor

/-- **Where a description is expected, an answer brings one or nothing.** -/
theorem query_cases {request : QueryRequest} {outcome : Outcome Unit (Cursor ν)}
    (expects : request.firstPhase = .waitingDescribe) (asked : cursor.query request = outcome) :
    (∃ e session, outcome = .error e { cursor with session } ∧
      ∀ id, .described id ∉ cursor.session.querying request) ∨
    outcome.state.result.id.isSome = true ∧
      ∃ id, .described id ∈ cursor.session.querying request := by
  obtain ⟨places, whole⟩ := cursor.session.ask_inPlace request
  rw [← asked, query_eq_ask, Session.querying]
  rw [expects] at places
  generalize cursor.session.ask request = outcome at places whole ⊢
  rcases places.eq_nil_or_describe with nothing | ⟨describe, rest, told, -⟩
  · rcases outcome with ⟨⟨⟩, session, events⟩ | ⟨e, session, events⟩
    · -- an answer that is complete is not empty
      obtain ⟨front, batch, closed⟩ := whole rfl
      rw [nothing] at closed
      exact absurd closed.symm (List.append_ne_nil_of_right_ne_nil front (List.cons_ne_nil _ _))
    · obtain rfl : events = [] := nothing
      refine .inl ⟨e, session, rfl, fun id mem => ?_⟩
      rw [Outcome.state, RowEvent.tell, List.filterMap_nil, List.append_nil] at mem
      exact Session.described_notMem_asking mem
  · rw [Outcome.state_mapState, told]
    generalize outcome.state = last at told ⊢
    obtain ⟨session, events⟩ := last
    obtain rfl : events = .describe describe :: rest := told
    exact .inr ⟨isSome_id_taking cursor session describe rest, describe.head.id,
      List.mem_append_right _ List.mem_cons_self⟩

/-! ### Vacant cursors -/

/-- The cursor shows no result set. -/
structure IsVacant (cursor : Cursor ν) : Prop where
  /-- The server gave no identifier. -/
  id_eq : cursor.result.id = none
  /-- There are no columns. -/
  columnCount_eq : cursor.result.columnCount = 0
  /-- No row was counted. -/
  rowCount_eq : cursor.result.rowCount = 0
  /-- No row is shown. -/
  rows_eq : cursor.result.rows = []
  /-- Rows come from no file. -/
  source_eq : cursor.source = none

namespace IsVacant

omit [Network ν] in
/-- So it is whatever the session, the recorder, the disk, the clock and the settings are. -/
theorem of_result_eq {after : Cursor ν} (vacant : cursor.IsVacant)
    (result_eq : after.result = cursor.result) (source_eq : after.source = cursor.source) :
    after.IsVacant where
  id_eq := result_eq ▸ vacant.id_eq
  columnCount_eq := result_eq ▸ vacant.columnCount_eq
  rowCount_eq := result_eq ▸ vacant.rowCount_eq
  rows_eq := result_eq ▸ vacant.rows_eq
  source_eq := source_eq ▸ vacant.source_eq

omit [Network ν] in
theorem of_reset {after : Cursor ν} {nullsAsEmpty : Bool}
    (result_eq : after.result = ResultSet.reset nullsAsEmpty) (source_eq : after.source = none) :
    after.IsVacant := by
  refine ⟨?_, ?_, ?_, ?_, source_eq⟩ <;> rw [result_eq] <;> rfl

omit [Network ν] in
theorem isSilent (vacant : cursor.IsVacant) : cursor.IsSilent :=
  .inl (.inl (openAtServer?_of_unknown vacant.id_eq))

omit [Network ν] in
/-- No row can be read. -/
theorem bufferedRow_eq (vacant : cursor.IsVacant) (row : Nat) :
    cursor.result.bufferedRow row = none := by
  rw [ResultSet.bufferedRow, vacant.rows_eq, List.getElem?_nil, ite_self]

/-- A read changes nothing. -/
theorem ensureRow_eq (vacant : cursor.IsVacant) (row : Nat) : cursor.ensureRow row = cursor := by
  have nothing := openAtServer?_of_unknown vacant.id_eq
  rw [ensureRow, checkEpoch_of_unknown vacant.id_eq, fetchTo, dif_neg]
  rw [needsFetch_of_openAtServer?_eq_none vacant.source_eq nothing]
  exact Bool.false_ne_true

end IsVacant

theorem isVacant_close (cursor : Cursor ν) : cursor.close.state.IsVacant := by
  obtain ⟨session, disk, closed⟩ := state_close cursor
  rw [closed]
  exact .of_reset rfl rfl

theorem isVacant_emptied (id : ResultSetId) (cursor : Cursor ν) :
    (cursor.emptied id).IsVacant := by
  rw [emptied, detachRecorder_eq]
  exact .of_reset rfl rfl

/-- Of a vacant cursor nothing has to be closed at the server. -/
theorem IsVacant.session_emptied (vacant : cursor.IsVacant) (id : ResultSetId) :
    (cursor.emptied id).session = cursor.session := by
  rw [emptied, detachRecorder_eq]
  show (cursor.closeOther id).state.session = cursor.session
  rw [closeOther, checkEpoch_of_unknown vacant.id_eq]
  split
  · rfl
  · exact vacant.isSilent.session_close

/-! ### Statements -/

/-- A closing tells of no description. -/
theorem described_notMem_closeStory {id : ResultSetId} : .described id ∉ cursor.closeStory := by
  rw [closeStory, settleStory]
  intro mem
  rcases List.mem_append.mp mem with settled | closed
  · split at settled
    · contradiction
    · split at settled
      · split at settled
        · contradiction
        · exact Session.described_notMem_asking settled
      · exact Session.described_notMem_asking settled
  · contradiction

/-- **What a statement leaves**: nothing, or a result set that was described. -/
theorem runStatement_cases (binds : BindSet) (cursor : Cursor ν) :
    ((cursor.runStatement binds).state.result = ResultSet.reset cursor.nullsAsEmpty ∧
      (cursor.runStatement binds).state.source = none ∧
      (cursor.runStatement binds).state.recorder = none ∧
      ∀ id, .described id ∉ cursor.statementStory binds) ∨
    (cursor.runStatement binds).state.result.id.isSome = true ∧
      ∃ id, .described id ∈ cursor.statementStory binds := by
  have course := runs_runStatement binds cursor
  obtain ⟨session, disk, closed⟩ := state_close cursor
  generalize cursor.runStatement binds = outcome at course ⊢
  generalize cursor.statementStory binds = story at course ⊢
  cases course with
  | unasked e =>
    left
    -- nothing was asked
    rw [Outcome.state, closed]
    exact ⟨rfl, rfl, rfl, fun id => described_notMem_closeStory⟩
  | @failed recorder disk sql options e after _ asked =>
    obtain ⟨recorder', disk', given_up⟩ := abandonRecorder_eq after
    have gone := recorder_abandonRecorder after
    rw [given_up] at gone ⊢
    rcases query_cases rfl asked with ⟨e', session', failed, undescribed⟩ | ⟨known, id, described⟩
    · -- no description came, so the page is that of the closed cursor
      obtain ⟨-, rfl⟩ := EStateM.Result.error.inj failed
      left
      refine ⟨?_, ?_, gone, fun id mem => ?_⟩
      · show cursor.close.state.result = _
        rw [closed]
      · show cursor.close.state.source = none
        rw [closed]
      · exact (List.mem_append.mp mem).elim described_notMem_closeStory (undescribed id)
    · exact .inr ⟨known, id, List.mem_append_right _ described⟩
  | @answered recorder disk sql options after _ asked =>
    rcases query_cases rfl asked with ⟨e', session', failed, -⟩ | ⟨known, id, described⟩
    · -- an answer that succeeds describes its rows
      contradiction
    · exact .inr ⟨known, id, List.mem_append_right _ described⟩

/-- Whatever was recorded of a statement that fails is given up. -/
theorem recorder_runStatement (binds : BindSet) (cursor : Cursor ν)
    (failed : (cursor.runStatement binds).toExcept.toBool = false) :
    (cursor.runStatement binds).state.recorder = none := by
  have course := runs_runStatement binds cursor
  generalize cursor.runStatement binds = outcome at course failed ⊢
  generalize cursor.statementStory binds = story at course
  cases course with
  | unasked e => exact cursor.isIdle_close.recorder_eq
  | failed recorder disk sql options _ asked => exact recorder_abandonRecorder _
  | answered => contradiction

/-- A vacant cursor runs a statement without asking for rows of another one. -/
theorem IsVacant.asksNoRows_runStatement (vacant : cursor.IsVacant) (binds : BindSet) :
    cursor.session.traffic.AsksNoRows (cursor.runStatement binds).state.session.traffic := by
  have silent := vacant.isSilent.session_close
  have course := runs_runStatement binds cursor
  generalize cursor.runStatement binds = outcome at course ⊢
  generalize cursor.statementStory binds = story at course
  -- closing is silent, and a statement asks for its own rows only
  cases course with
  | unasked e =>
    rw [Outcome.state, silent]
    exact .refl _
  | @failed recorder disk sql options e after _ asked =>
    obtain ⟨recorder', disk', given_up⟩ := abandonRecorder_eq after
    have asks := asksNoRows_of_query rfl asked
    rw [Outcome.state, given_up, ← silent]
    exact asks
  | @answered recorder disk sql options after _ asked =>
    have asks := asksNoRows_of_query rfl asked
    rw [← silent]
    exact asks

/-! ### Attachments and cache files -/

/-- What an attachment leaves, if it leaves no result set. -/
theorem isVacant_attach (id : ResultSetId) (path : Option String) (cursor : Cursor ν)
    (undescribed : (cursor.attach id path).state.result.id = none) :
    (cursor.attach id path).state.IsVacant := by
  have vacant := isVacant_emptied id cursor
  have course := attaches_attach id path cursor
  generalize cursor.attach id path = outcome at course undescribed ⊢
  cases course with
  | unasked e => exact vacant
  | @failed recorder disk options e after _ asked =>
    rcases query_cases rfl asked with ⟨e', session', failed, -⟩ | ⟨known, -⟩
    · obtain ⟨-, rfl⟩ := EStateM.Result.error.inj failed
      exact vacant.of_result_eq rfl rfl
    · exact absurd undescribed (Option.isSome_iff_ne_none.mp known)
  | @answered recorder disk options after _ asked =>
    rcases query_cases rfl asked with ⟨e', session', failed, -⟩ | ⟨known, -⟩
    · contradiction
    · exact absurd undescribed (Option.isSome_iff_ne_none.mp known)

theorem IsVacant.asksNoRows_attach (vacant : cursor.IsVacant) (id : ResultSetId)
    (path : Option String) :
    cursor.session.traffic.AsksNoRows (cursor.attach id path).state.session.traffic := by
  have silent := vacant.session_emptied id
  have course := attaches_attach id path cursor
  generalize cursor.attach id path = outcome at course ⊢
  cases course with
  | unasked e =>
    rw [Outcome.state, silent]
    exact .refl _
  | failed recorder disk options _ asked | answered recorder disk options _ asked =>
    have asks := asksNoRows_of_query rfl asked
    rw [← silent]
    exact asks

/-- A cache file is opened without a request, and leaves a result set if it is read. -/
theorem IsVacant.openFile (vacant : cursor.IsVacant) (path : String)
    (undescribed : (cursor.openFile path).state.result.id = none) :
    (cursor.openFile path).state.IsVacant ∧
      (cursor.openFile path).state.session = cursor.session := by
  have course := unpacks_openFile path cursor
  generalize cursor.openFile path = outcome at course undescribed ⊢
  -- a file that is opened at all brings its description
  cases course with
  | refused e => exact ⟨vacant, rfl⟩
  | unread e => exact ⟨isVacant_close cursor, vacant.isSilent.session_close⟩
  | torn recorder disk describe rows e =>
    have known := isSome_id_taking ({ cursor.close.state with recorder, disk } : Cursor ν)
      cursor.close.state.session describe (rows.map .row)
    exact absurd undescribed (Option.isSome_iff_ne_none.mp known)
  | read recorder disk describe rows batch reader =>
    have known := isSome_id_taking ({ cursor.close.state with recorder, disk } : Cursor ν)
      cursor.close.state.session describe (rows.map .row ++ [.batchEnd batch])
    exact absurd undescribed (Option.isSome_iff_ne_none.mp known)

/-! ### Deeds -/

/-- A statement is run. -/
def Act.isStatement : Act ν → Bool
  | sends _ | executes => true
  | reads _ _ | closes | suspends | resumes _ | resumesCached _ _ | parks | reclaims _ | sets _
  | finds _ => false

/-- A statement is run, a result set attached to, or a cache file opened. -/
def Deed.opens : Deed ν → Bool
  | acts (.resumes _) | acts (.resumesCached _ _) | opensCached _ => true
  | acts act => act.isStatement
  | calls _ | renews => false

/-- No statement, no attachment and no cache file tells the cursor of a result set. -/
def Undescribed (cursor : Cursor ν) : List (Deed ν) → Prop
  | [] => True
  | deed :: deeds =>
    (deed.opens = true → (deed.after cursor).result.id = none) ∧
      (deed.after cursor).Undescribed deeds

omit [Network ν] in
/-- A deed that opens something leaves a vacant cursor, unless it tells it of a result set. -/
theorem IsVacant.noting {action : Cursor ν → Outcome Unit (Cursor ν)}
    (leaves : (action { cursor with error := none }).state.result.id = none →
      (action { cursor with error := none }).state.IsVacant)
    (asks : cursor.session.traffic.AsksNoRows
      (action { cursor with error := none }).state.session.traffic)
    (undescribed : (cursor.noting action).state.result.id = none) :
    (cursor.noting action).state.IsVacant ∧
      cursor.session.traffic.AsksNoRows (cursor.noting action).state.session.traffic := by
  obtain ⟨error, noted, -⟩ := noting_cases action cursor
  rw [noted] at undescribed ⊢
  exact ⟨(leaves undescribed).of_result_eq rfl rfl, asks⟩

theorem isVacant_runStatement (binds : BindSet) (cursor : Cursor ν)
    (undescribed : (cursor.runStatement binds).state.result.id = none) :
    (cursor.runStatement binds).state.IsVacant := by
  rcases runStatement_cases binds cursor with ⟨result_eq, source_eq, -, -⟩ | ⟨known, -⟩
  · exact .of_reset result_eq source_eq
  · exact absurd undescribed (Option.isSome_iff_ne_none.mp known)

omit [Network ν] in
/-- Where nothing was sent no rows are asked for. -/
theorem asksNoRows_of_session_eq {after : Cursor ν} (same : after.session = cursor.session) :
    cursor.session.traffic.AsksNoRows after.session.traffic := by
  rw [same]
  exact .refl _

/-- A session asks for no rows by itself. -/
theorem Deed.asksNoRows_of_ofSession {deed : Deed ν} (ofSession : deed.ofSession = true)
    (cursor : Cursor ν) :
    cursor.session.traffic.AsksNoRows (deed.after cursor).session.traffic := by
  cases deed with
  | acts act =>
    cases act with
    | parks =>
      show cursor.session.traffic.AsksNoRows
        (cursor.withSession Session.suspend).state.session.traffic
      rw [withSession, Outcome.state_mapState]
      exact Session.asksNoRows_of_requests cursor.session.asks_suspend rfl
    | reclaims token =>
      show cursor.session.traffic.AsksNoRows
        (cursor.withSession (Session.resume token)).state.session.traffic
      rw [withSession, Outcome.state_mapState]
      refine ⟨_, cursor.session.asks_resume token, fun request mem => ?_⟩
      rw [Session.eq_of_mem_reclaimRequests mem]
      rfl
    | sends | executes | reads | closes | suspends | resumes | resumesCached | sets | finds =>
      contradiction
  | calls call => exact cursor.session.asksNoRows_call call
  | opensCached | renews => contradiction

/-- **A vacant cursor stays vacant**, and draws on no result set, until it is told of one. -/
theorem IsVacant.deed (vacant : cursor.IsVacant) (deed : Deed ν)
    (undescribed : deed.opens = true → (deed.after cursor).result.id = none) :
    (deed.after cursor).IsVacant ∧
      cursor.session.traffic.AsksNoRows (deed.after cursor).session.traffic := by
  by_cases ofSession : deed.ofSession = true
  · have asks := Deed.asksNoRows_of_ofSession ofSession cursor
    obtain ⟨session, moved⟩ := Deed.after_of_ofSession ofSession cursor
    rw [moved] at asks ⊢
    exact ⟨vacant.of_result_eq rfl rfl, asks⟩
  have vacant₀ : ({ cursor with error := none } : Cursor ν).IsVacant := vacant.of_result_eq rfl rfl
  -- what could fill the page brings a description; everything else keeps it empty
  cases deed with
  | acts act =>
    cases act with
    | sends sql =>
      have prepared : ({ cursor.prepare sql with error := none } : Cursor ν).IsVacant :=
        vacant.of_result_eq rfl rfl
      exact IsVacant.noting (isVacant_runStatement {} _) (prepared.asksNoRows_runStatement {})
        (undescribed rfl)
    | executes =>
      exact IsVacant.noting (isVacant_runStatement _ _) (vacant₀.asksNoRows_runStatement _)
        (undescribed rfl)
    | reads row look =>
      have same : (Deed.acts (.reads row look)).after cursor = cursor := vacant.ensureRow_eq row
      rw [same]
      exact ⟨vacant, .refl _⟩
    | closes => exact ⟨isVacant_close cursor, asksNoRows_of_session_eq vacant.isSilent.session_close⟩
    | suspends =>
      show cursor.suspendResultSet.IsVacant ∧
        cursor.session.traffic.AsksNoRows cursor.suspendResultSet.session.traffic
      rw [suspendResultSet_eq]
      exact ⟨⟨vacant.id_eq, vacant.columnCount_eq, vacant.rowCount_eq, rfl, rfl⟩, .refl _⟩
    | resumes id =>
      exact IsVacant.noting (isVacant_attach id none _) (vacant₀.asksNoRows_attach id none)
        (undescribed rfl)
    | resumesCached id path =>
      exact IsVacant.noting (isVacant_attach id (some path) _)
        (vacant₀.asksNoRows_attach id (some path)) (undescribed rfl)
    | sets settings => exact ⟨vacant.of_result_eq rfl rfl, .refl _⟩
    | finds disk => exact ⟨vacant.of_result_eq rfl rfl, .refl _⟩
    | parks | reclaims => exact absurd rfl ofSession
  | calls => exact absurd rfl ofSession
  | opensCached path =>
    have undescribed' : (cursor.noting (Cursor.openFile path)).state.result.id = none :=
      undescribed rfl
    obtain ⟨error, noted, -⟩ := noting_cases (Cursor.openFile path) cursor
    rw [noted] at undescribed'
    obtain ⟨opened, same⟩ := vacant₀.openFile path undescribed'
    exact IsVacant.noting (fun _ => opened) (asksNoRows_of_session_eq same) (undescribed rfl)
  | renews => exact ⟨.of_reset rfl rfl, asksNoRows_of_session_eq vacant.isSilent.session_release⟩

/-- So it is in a run. -/
theorem IsVacant.afterDeeds (vacant : cursor.IsVacant) {deeds : List (Deed ν)}
    (undescribed : cursor.Undescribed deeds) :
    (cursor.afterDeeds deeds).IsVacant ∧
      cursor.session.traffic.AsksNoRows (cursor.afterDeeds deeds).session.traffic := by
  induction deeds generalizing cursor with
  | nil => exact ⟨vacant, .refl _⟩
  | cons deed deeds ih =>
    obtain ⟨first, rest⟩ := undescribed
    obtain ⟨vacant', asks⟩ := vacant.deed deed first
    obtain ⟨vacant'', asks'⟩ := ih vacant' rest
    exact ⟨vacant'', asks.trans asks'⟩

/-- A statement is run with some bind variables, and its error remembered. -/
theorem Act.exists_of_isStatement {statement : Act ν} (isStatement : statement.isStatement = true)
    (cursor : Cursor ν) :
    ∃ (start : Cursor ν) (binds : BindSet), start.nullsAsEmpty = cursor.nullsAsEmpty ∧
      statement.after cursor = (start.noting (runStatement binds)).state ∧
      statement.succeeds cursor = (start.noting (runStatement binds)).toExcept.toBool ∧
      statement.story cursor = ({ start with error := none } : Cursor ν).statementStory binds := by
  cases statement with
  | sends sql => exact ⟨cursor.prepare sql, {}, rfl, rfl, rfl, rfl⟩
  | executes => exact ⟨cursor, cursor.binds, rfl, rfl, rfl, rfl⟩
  | reads | closes | suspends | resumes | resumesCached | parks | reclaims | sets | finds =>
    contradiction

/-- **A failed statement leaves no result set behind**, unless one was described before
the error.  Nothing is recorded any more, and there is a result set if the answer
described one, and only then.  If it did not, the page is as new; and whatever is done
then with the cursor and its session, no rows are asked for and none discarded, no row
can be read, and neither closing nor letting go of the cursor asks anything, until a
statement, an attachment or a cache file tells of a result set. -/
theorem failed_statement_leaves_nothing {statement : Act ν}
    (isStatement : statement.isStatement = true) (failed : statement.succeeds cursor = false) :
    let after := statement.after cursor
    after.recorder = none ∧
      (after.result.id.isSome = true ↔ ∃ id, .described id ∈ statement.story cursor) ∧
      ((∀ id, .described id ∉ statement.story cursor) →
        after.result = ResultSet.reset cursor.nullsAsEmpty ∧ after.source = none ∧
          ∀ deeds : List (Deed ν), after.Undescribed deeds →
            let last := after.afterDeeds deeds
            last.IsVacant ∧ after.session.traffic.AsksNoRows last.session.traffic ∧
              (∀ row, last.ensureRow row = last ∧ last.result.bufferedRow row = none) ∧
              last.close.state.session = last.session ∧ last.release.1 = last.session) := by
  intro after
  obtain ⟨start, binds, nulls, after_eq, succeeds_eq, story_eq⟩ :=
    Act.exists_of_isStatement isStatement cursor
  obtain ⟨error, noted, ended⟩ := noting_cases (runStatement binds) start
  have left := runStatement_cases binds ({ start with error := none } : Cursor ν)
  have same : after = { (runStatement binds { start with error := none }).state with error } :=
    after_eq.trans noted
  rw [succeeds_eq, ended] at failed
  rw [story_eq]
  refine ⟨?_, ?_, fun undescribed => ?_⟩
  · -- the recorder
    rw [same]
    exact recorder_runStatement binds _ failed
  · -- the description
    rw [same]
    rcases left with ⟨result_eq, -, -, undescribed⟩ | ⟨known, described⟩
    · refine iff_of_false ?_ fun ⟨id, mem⟩ => undescribed id mem
      show ¬ (runStatement binds { start with error := none }).state.result.id.isSome = true
      rw [result_eq]
      exact Bool.false_ne_true
    · exact iff_of_true known described
  · -- without one nothing is left, whatever is done next
    rcases left with ⟨result_eq, source_eq, -, -⟩ | ⟨-, id, described⟩
    · have after_result : after.result = ResultSet.reset cursor.nullsAsEmpty := by
        rw [same, ← nulls]
        exact result_eq
      have after_source : after.source = none := by
        rw [same]
        exact source_eq
      have vacant : after.IsVacant := .of_reset after_result after_source
      refine ⟨after_result, after_source, fun deeds quiet => ?_⟩
      obtain ⟨last, asks⟩ := vacant.afterDeeds quiet
      exact ⟨last, asks, fun row => ⟨last.ensureRow_eq row, last.bufferedRow_eq row⟩,
        last.isSilent.session_close, last.isSilent.session_release⟩
    · exact absurd described (undescribed id)

/-- What is known of a statement that the server refuses, and of another one behind it. -/
theorem failed_statement_leaves_nothing_refused :
    let refusal : List ServerMessage := [.error ⟨.semantic, 0, ""⟩]
    let cursor := onSession (Session.scripted [refusal, refusal] []) {} 0
    let after := (Act.sends "q").after cursor
    let deeds : List (Deed ScriptedNetwork) :=
      [.acts (.reads 0 ResultSet.rowCount), .acts .executes, .acts .closes, .calls .pings]
    let last := after.afterDeeds deeds
    (Act.sends "q").succeeds cursor = false ∧ after.Undescribed deeds ∧
      (∀ id, .described id ∉ (Act.sends "q").story cursor) ∧
      last.session.traffic.events.length = 3 ∧
      after.session.traffic.AsksNoRows last.session.traffic ∧ last.release.1 = last.session := by
  intro refusal cursor after deeds last
  have failed : (Act.sends "q").succeeds cursor = false := by decide +kernel
  have unknown : after.result.id = none := by decide +kernel
  have quiet : after.Undescribed deeds :=
    ⟨nofun, fun _ => by decide +kernel, nofun, nofun, trivial⟩
  obtain ⟨-, described, leaves⟩ := failed_statement_leaves_nothing rfl failed
  have undescribed : ∀ id, .described id ∉ (Act.sends "q").story cursor := by
    intro id mem
    exact Option.isSome_iff_ne_none.mp (described.mpr ⟨id, mem⟩) unknown
  obtain ⟨-, -, later⟩ := leaves undescribed
  obtain ⟨-, asks, -, -, released⟩ := later deeds quiet
  exact ⟨failed, quiet, undescribed, by decide +kernel, asks, released⟩

/-- **An error behind a description leaves the result set behind**: the next read asks
for its rows, and who lets go of the cursor discards them. -/
theorem failed_statement_leaves_described :
    let answer : List ServerMessage :=
      [.describe (Describe.ofParts ⟨7, 0, -1, -1, 0, 1⟩ []),
        .dataRow (DataRow.ofValues [some (Bytes.ofText "r1")]), .error ⟨.serverFault, 0, ""⟩]
    let cursor := onSession (Session.scripted [answer] []) {} 0
    let after := (Act.sends "q").after cursor
    (Act.sends "q").succeeds cursor = false ∧
      after.result.id = some 7 ∧ after.result.columnCount = 1 ∧
      (∃ bytes, (Request.fetch 7 0 0).encode = .ok bytes ∧
        (after.ensureRow 0).session.traffic.events =
          after.session.traffic.events ++ [.sent 0 bytes]) ∧
      ∃ bytes, (Request.command (.abortResultSet 7)).encode = .ok bytes ∧
        after.release.1.traffic.events = after.session.traffic.events ++ [.sent 0 bytes] :=
  ⟨by decide +kernel, by decide +kernel, by decide +kernel, ⟨_, rfl, by decide +kernel⟩,
    _, rfl, by decide +kernel⟩

end Cursor

end ProxyClient
