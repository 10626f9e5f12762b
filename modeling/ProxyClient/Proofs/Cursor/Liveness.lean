/-
ProxyClient/Proofs/Cursor/Liveness.lean

Only live result sets are drawn on.  A cursor keeps track of the live result set
by an identifier, two flags and the epoch of the connection; they may say that
none is live where one is, but never the other way (`Cursor.Keeps`).  Every
operation keeps this up and tells a sound story, in step with the record of what
was sent (`Cursor.Tells`), and so does every run, whatever the server answers
(`Cursor.draws_on_live`).
-/
import ProxyClient.Proofs.Cursor.History
import ProxyClient.Proofs.Paging.TableServer

namespace ProxyClient

/-! ### Pages -/

/-- If the page shows a result set that has more rows, it is the live one. -/
def ResultSet.Trusts (live : Option ResultSetId) (rs : ResultSet) : Prop :=
  ∀ id, rs.id = some id → rs.ended = false → rs.suspended = false → live = some id

namespace ResultSet

variable {live : Option ResultSetId} {rs : ResultSet}

theorem trusts_of_unknown (unknown : rs.id = none) : rs.Trusts live := by
  intro id known
  rw [unknown] at known
  contradiction

theorem trusts_of_suspended (suspended : rs.suspended = true) : rs.Trusts live := by
  intro id _ _ present
  rw [suspended] at present
  contradiction

/-- The page trusts what it is told. -/
theorem Trusts.apply (trusts : rs.Trusts live) (event : RowEvent) :
    (rs.apply event).Trusts (liveAfter live event.happening?.toList) := by
  cases event with
  | describe d =>
    intro id known _ _
    exact known
  | outputBinds binds => exact trusts
  | row row => exact trusts
  | batchEnd batch =>
    intro id known more present
    obtain ⟨more, stays⟩ := Bool.or_eq_false_iff.mp more
    rw [RowEvent.happening?, stays]
    exact trusts id known more present

theorem Trusts.foldl (trusts : rs.Trusts live) (events : List RowEvent) :
    (events.foldl ResultSet.apply rs).Trusts (liveAfter live (RowEvent.tell events)) := by
  induction events generalizing rs live with
  | nil => exact trusts
  | cons event events ih =>
    have told : RowEvent.tell (event :: events) =
        event.happening?.toList ++ RowEvent.tell events := by
      rw [RowEvent.tell, List.filterMap_cons]
      cases event.happening? <;> rfl
    rw [told, liveAfter_append]
    exact ih (trusts.apply event)

/-- Behind a description it does so whatever it showed before. -/
theorem trusts_of_described {events : List RowEvent} (described : ∃ describe rest,
    events = .describe describe :: rest) :
    (events.foldl ResultSet.apply rs).Trusts (liveAfter live (RowEvent.tell events)) := by
  obtain ⟨describe, rest, rfl⟩ := described
  have shown : (rs.apply (.describe describe)).Trusts (some describe.head.id) :=
    fun id known _ _ => known
  exact shown.foldl rest

end ResultSet

/-! ### Stories without requests -/

/-- Answers hold no requests. -/
theorem RowEvent.request?_of_mem_tell {events : List RowEvent} {happening : Happening}
    (told : happening ∈ tell events) : happening.request? = none := by
  obtain ⟨event, -, tells⟩ := List.mem_filterMap.mp told
  cases event with
  | describe d =>
    obtain rfl := Option.some.inj tells
    rfl
  | outputBinds | row => contradiction
  | batchEnd batch =>
    rw [happening?] at tells
    split at tells
    · obtain rfl := Option.some.inj tells
      rfl
    · contradiction

theorem RowEvent.filterMap_tell (events : List RowEvent) :
    (tell events).filterMap Happening.request? = [] :=
  List.filterMap_eq_nil_iff.mpr fun _ told => request?_of_mem_tell told

/-- So they are sound. -/
theorem sound_of_no_request {live : Option ResultSetId} {story : List Happening}
    (none_ : ∀ happening ∈ story, happening.request? = none) : Sound live story := by
  induction story generalizing live with
  | nil => trivial
  | cons happening story ih =>
    refine ⟨?_, ih fun h mem => none_ h (List.mem_cons_of_mem _ mem)⟩
    rintro request rfl
    have never := none_ (.asked request) List.mem_cons_self
    contradiction

/-- Requests change nothing of what is live. -/
theorem liveAfter_map_asked (live : Option ResultSetId) (requests : List Request) :
    liveAfter live (requests.map .asked) = live := by
  induction requests with
  | nil => rfl
  | cons request requests ih => exact ih

theorem filterMap_map_asked (requests : List Request) :
    (requests.map Happening.asked).filterMap Happening.request? = requests := by
  induction requests with
  | nil => rfl
  | cons request requests ih => exact congrArg (request :: ·) ih

/-- A request may be sent if it draws on no result set but the live one. -/
def Request.MayFollow (live : Option ResultSetId) (request : Request) : Prop :=
  ∀ id, request.drawsOn = some id → live = some id

/-- It draws on none. -/
theorem Request.mayFollow_of_none {request : Request} (harmless : request.drawsOn = none)
    (live : Option ResultSetId) : request.MayFollow live := by
  intro id drawn
  rw [harmless] at drawn
  contradiction

/-- It draws on the live one. -/
theorem Request.mayFollow_of_live {live : Option ResultSetId} {request : Request}
    {id : ResultSetId} (live_eq : live = some id) (draws : request.drawsOn = some id) :
    request.MayFollow live := by
  intro id' drawn
  rw [live_eq, ← draws, drawn]

theorem sound_map_asked {live : Option ResultSetId} {requests : List Request}
    (may : ∀ request ∈ requests, request.MayFollow live) : Sound live (requests.map .asked) := by
  induction requests with
  | nil => trivial
  | cons request requests ih =>
    refine ⟨?_, ih fun r mem => may r (List.mem_cons_of_mem _ mem)⟩
    intro request' same id drawn
    obtain rfl := Happening.asked.inj same
    exact may request List.mem_cons_self id drawn

namespace Session

variable {ν : Type} [Network ν] {live : Option ResultSetId} {session : Session ν}
  {request : Request}

@[simp] theorem liveAfter_asking (live : Option ResultSetId) (request : Request)
    (session : Session ν) : liveAfter live (session.asking request) = live :=
  liveAfter_map_asked live _

@[simp] theorem filterMap_asking (request : Request) (session : Session ν) :
    (session.asking request).filterMap Happening.request? = session.requests request :=
  filterMap_map_asked _

theorem sound_asking (may : request.MayFollow live) : Sound live (session.asking request) := by
  apply sound_map_asked
  intro other mem
  obtain rfl := eq_of_mem_requests mem
  exact may

theorem sound_querying {query : QueryRequest} (may : query.request.MayFollow live) :
    Sound live (session.querying query) :=
  sound_append.mpr ⟨sound_asking may, sound_of_no_request fun _ => RowEvent.request?_of_mem_tell⟩

@[simp] theorem liveAfter_querying (live : Option ResultSetId) (query : QueryRequest)
    (session : Session ν) :
    liveAfter live (session.querying query) =
      liveAfter live (RowEvent.tell (session.ask query).state.2) := by
  rw [querying, liveAfter_append, liveAfter_asking]

@[simp] theorem filterMap_querying (query : QueryRequest) (session : Session ν) :
    (session.querying query).filterMap Happening.request? = session.requests query.request := by
  rw [querying, List.filterMap_append, filterMap_asking, RowEvent.filterMap_tell, List.append_nil]

end Session

namespace Cursor

variable {ν : Type} {live : Option ResultSetId} {cursor after : Cursor ν}

/-! ### Keeping track -/

/-- The cursor knows of no live result set but the one that is. -/
structure Keeps (live : Option ResultSetId) (cursor : Cursor ν) : Prop where
  /-- Rows come from no file. -/
  source_eq : cursor.source = none
  /-- The result set is of no later epoch than the connection. -/
  epoch_le : cursor.epoch ≤ cursor.session.connection.epoch
  /-- In the epoch of the connection the page is in step. -/
  trusts : cursor.epoch = cursor.session.connection.epoch → cursor.result.Trusts live

/-- The result set is of the epoch of the connection, or nothing is asked of it. -/
def IsSettled (cursor : Cursor ν) : Prop :=
  cursor.epoch = cursor.session.connection.epoch ∨ cursor.result.id = none ∨
    cursor.result.suspended = true

/-- Where the cursor knows of no result set it is in step with anything. -/
theorem keeps_of_unknown (source_eq : cursor.source = none)
    (epoch_le : cursor.epoch ≤ cursor.session.connection.epoch)
    (unknown : cursor.result.id = none) (live : Option ResultSetId) : cursor.Keeps live :=
  ⟨source_eq, epoch_le, fun _ => ResultSet.trusts_of_unknown unknown⟩

/-- The recorder, the disk and the last error do not matter. -/
theorem Keeps.beside (keeps : cursor.Keeps live) (recorder : Option CacheWriter) (disk : Disk)
    (error : Option (String × Int64)) : ({ cursor with recorder, disk, error } : Cursor ν).Keeps live :=
  ⟨keeps.source_eq, keeps.epoch_le, keeps.trusts⟩

theorem keeps_onSession (session : Session ν) (disk : Disk) (now : Int64) :
    (onSession session disk now).Keeps none :=
  keeps_of_unknown rfl (Nat.le_refl _) rfl none

/-- A result set that has more rows, as the cursor has it, is the live one. -/
theorem Keeps.live_eq (keeps : cursor.Keeps live) (settled : cursor.IsSettled) {id : ResultSetId}
    (known : cursor.result.id = some id) (more : cursor.result.ended = false)
    (present : cursor.result.suspended = false) : live = some id := by
  rcases settled with same | unknown | suspended
  · exact keeps.trusts same id known more present
  · rw [unknown] at known
    contradiction
  · rw [suspended] at present
    contradiction

theorem Keeps.live_of_openAtServer? (keeps : cursor.Keeps live) (settled : cursor.IsSettled)
    {id : ResultSetId} (there : cursor.openAtServer? = some id) : live = some id := by
  unfold openAtServer? at there
  split at there
  · next open_ =>
    obtain ⟨-, more, present⟩ := open_
    exact keeps.live_eq settled there (by simpa using more) (by simpa using present)
  · contradiction

theorem isSettled_checkEpoch (live : cursor.source = none) : cursor.checkEpoch.IsSettled := by
  rw [checkEpoch]
  split
  · -- given up at once
    rw [detachRecorder_with cursor cursor.result.suspend cursor.source cursor.error]
    exact .inr (.inr rfl)
  · -- otherwise one of the conditions fails
    next near =>
    by_cases same : cursor.epoch = cursor.session.connection.epoch
    · exact .inl same
    · right
      rcases known : cursor.result.id with - | id
      · exact .inl rfl
      · right
        refine Decidable.byContradiction fun present => ?_
        exact near ⟨by rw [live]; rfl, by rw [known]; rfl, by simpa using present, Ne.symm same⟩

/-! ### Stories -/

/-- What happened to a cursor is told by a story: it has all requests that were sent,
in order, it is sound, and the cursor still keeps track behind it. -/
structure Tells (live : Option ResultSetId) (cursor : Cursor ν) (story : List Happening)
    (after : Cursor ν) : Prop where
  /-- These are the requests that were sent. -/
  asks : cursor.session.traffic.Asks (story.filterMap Happening.request?) after.session.traffic
  /-- Rows were asked for, and discarded, of the live result set alone. -/
  sound : Sound live story
  /-- The cursor keeps track. -/
  keeps : after.Keeps (liveAfter live story)

namespace Tells

variable {story story' : List Happening} {last : Cursor ν}

/-- What one story leaves, another continues. -/
theorem trans (h : cursor.Tells live story after)
    (h' : after.Tells (liveAfter live story) story' last) :
    cursor.Tells live (story ++ story') last where
  asks := by
    rw [List.filterMap_append]
    exact h.asks.trans h'.asks
  sound := sound_append.mpr ⟨h.sound, h'.sound⟩
  keeps := by
    rw [liveAfter_append]
    exact h'.keeps

/-- Nor is a story any different for what is done silently before it. -/
theorem first (silent : cursor.Tells live [] after) (h : after.Tells live story last) :
    cursor.Tells live story last :=
  silent.trans h

/-- Where nothing is sent there is no story. -/
theorem of_silent (traffic_eq : after.session.traffic = cursor.session.traffic)
    (keeps : after.Keeps live) : cursor.Tells live [] after where
  asks := by
    rw [traffic_eq]
    exact .refl _
  sound := trivial
  keeps := keeps

/-- What is done silently is not in the story. -/
theorem silently (h : cursor.Tells live story after)
    (traffic_eq : last.session.traffic = after.session.traffic)
    (keeps : last.Keeps (liveAfter live story)) : cursor.Tells live story last := by
  have h' := h.trans (of_silent traffic_eq keeps)
  rwa [List.append_nil] at h'

theorem note (h : cursor.Tells live story after) (e : Error) :
    cursor.Tells live story (after.note e) :=
  h.silently rfl (h.keeps.beside ..)

end Tells

/-- To give a page up is no part of the story. -/
theorem tells_checkEpoch (keeps : cursor.Keeps live) :
    cursor.Tells live [] cursor.checkEpoch := by
  rw [checkEpoch]
  split
  · rw [detachRecorder_with cursor cursor.result.suspend cursor.source cursor.error]
    refine .of_silent rfl ⟨keeps.source_eq, keeps.epoch_le, fun _ => ?_⟩
    exact ResultSet.trusts_of_suspended rfl
  · exact .of_silent rfl keeps

/-- Errors are no part of the story. -/
theorem tells_noting {action : Cursor ν → Outcome Unit (Cursor ν)} {story : List Happening}
    (told : ({ cursor with error := none } : Cursor ν).Tells live story
      (action { cursor with error := none }).state) :
    cursor.Tells live story (cursor.noting action).state := by
  rw [noting]
  generalize action { cursor with error := none } = outcome at told ⊢
  rcases outcome with ⟨⟨⟩, after⟩ | ⟨e, after⟩
  · exact ⟨told.asks, told.sound, told.keeps⟩
  · exact (Tells.mk told.asks told.sound told.keeps : cursor.Tells live story after).note e

/-- A session that is parked or replaced is of a later epoch. -/
theorem tells_moved {requests : List Request} {session : Session ν} {moved : Bool}
    (keeps : cursor.Keeps live) (harmless : ∀ request ∈ requests, request.drawsOn = none)
    (asks : cursor.session.traffic.Asks requests session.traffic)
    (epoch_eq : session.connection.epoch =
      cursor.session.connection.epoch + if moved then 1 else 0) :
    cursor.Tells live (requests.map .asked ++ if moved then [.moved] else [])
      { cursor with session } where
  asks := by
    have none_ : (if moved then [Happening.moved] else []).filterMap Happening.request? = [] := by
      cases moved <;> rfl
    rw [List.filterMap_append, filterMap_map_asked, none_, List.append_nil]
    exact asks
  sound := by
    have mayFollow : ∀ request ∈ requests, request.MayFollow live :=
      fun request mem => Request.mayFollow_of_none (harmless request mem) live
    refine sound_append.mpr ⟨sound_map_asked mayFollow, sound_of_no_request ?_⟩
    cases moved <;> simp [Happening.request?]
  keeps := by
    rw [liveAfter_append, liveAfter_map_asked]
    have older := keeps.epoch_le
    cases moved
    · refine ⟨keeps.source_eq, ?_, ?_⟩
      · show cursor.epoch ≤ session.connection.epoch
        rw [epoch_eq]
        exact older
      · intro same
        exact keeps.trusts (same.trans epoch_eq)
    · -- nothing of the former session is live, and the cursor knows it by the epoch
      rw [if_pos rfl] at epoch_eq
      refine ⟨keeps.source_eq, ?_, ?_⟩
      · show cursor.epoch ≤ session.connection.epoch
        omega
      · intro same
        have same : cursor.epoch = session.connection.epoch := same
        omega

variable [Network ν]

/-! ### Queries -/

/-- The cursor keeps track of the answer to a query. -/
theorem tells_query {request : QueryRequest} (keeps : cursor.Keeps live)
    (may : request.request.MayFollow live) :
    cursor.Tells live (cursor.session.querying request) (cursor.query request).state where
  asks := by
    rw [Session.filterMap_querying, query, Outcome.state_mapState]
    exact Session.asks_run (Query.sends_exchange request reception) cursor.session _
  sound := Session.sound_querying may
  keeps := by
    -- a statement does not begin an epoch
    have same := (cursor.session.sameBut_ask request).epoch_eq
    rw [query_eq_ask, Outcome.state_mapState, Session.liveAfter_querying]
    refine ⟨keeps.source_eq, ?_, ?_⟩
    · show cursor.epoch ≤ (cursor.session.ask request).state.1.connection.epoch
      rw [same]
      exact keeps.epoch_le
    · intro now
      have here : cursor.epoch = cursor.session.connection.epoch := by
        rw [← same]
        exact now
      rw [taking_result]
      exact (keeps.trusts here).foldl _

/-- If the answer is complete and has a description, the result set is of the epoch
of the connection. -/
theorem tells_opened {request : QueryRequest} (keeps : cursor.Keeps live)
    (expects : request.firstPhase = .waitingDescribe) (may : request.request.MayFollow live)
    (answered : cursor.query request = .ok () after) :
    cursor.Tells live (cursor.session.querying request) after.opened := by
  have told := tells_query keeps may
  rw [answered] at told
  refine told.silently rfl ⟨told.keeps.source_eq, Nat.le_refl _, fun _ => ?_⟩
  obtain ⟨places, closed⟩ := cursor.session.ask_inPlace request
  rw [query_eq_ask] at answered
  obtain ⟨⟨session, events⟩, asked, rfl⟩ := Outcome.exists_of_mapState_eq_ok answered
  rw [asked] at places closed
  obtain ⟨front, batch, whole⟩ := closed rfl
  rw [expects] at places
  -- an answer that ends with a batch end began with its description
  have described : ∃ describe rest, events = .describe describe :: rest := by
    rcases places.eq_nil_or_describe with none_ | ⟨describe, rest, eq, -⟩
    · rw [whole] at none_
      exact absurd none_ (by simp)
    · exact ⟨describe, rest, eq⟩
  rw [Session.liveAfter_querying, asked]
  show ((cursor.taking session events).result).Trusts _
  rw [taking_result]
  exact ResultSet.trusts_of_described described

/-- An exchange of which the page is told nothing. -/
theorem tells_run {σ : Type} {exchange : Exchange σ} {request : Request}
    (sends : exchange.Sends request) (keeps : cursor.Keeps live) (may : request.MayFollow live)
    {state : σ} (session_eq : after.session = (cursor.session.run exchange state).state.1)
    (source_eq : after.source = cursor.source) (epoch_eq : after.epoch = cursor.epoch)
    (result_eq : after.result = cursor.result) :
    cursor.Tells live (cursor.session.asking request) after where
  asks := by
    rw [Session.filterMap_asking, session_eq]
    exact Session.asks_run sends cursor.session state
  sound := Session.sound_asking may
  keeps := by
    have same := (cursor.session.sameBut_run exchange state).epoch_eq
    rw [← session_eq] at same
    rw [Session.liveAfter_asking]
    refine ⟨source_eq.trans keeps.source_eq, ?_, ?_⟩
    · rw [epoch_eq, same]
      exact keeps.epoch_le
    · rw [epoch_eq, same, result_eq]
      exact keeps.trusts

/-! ### Fetches -/

/-- Rows are fetched of the live result set. -/
theorem tells_fetchPage (keeps : cursor.Keeps live) (settled : cursor.IsSettled) {row : Nat}
    (needs : cursor.result.needsFetch row = true) (skip : Nat) :
    cursor.Tells live (cursor.pageStory skip) (cursor.fetchPage skip).state ∧
      (cursor.fetchPage skip).state.IsSettled := by
  obtain ⟨more, present, isSome⟩ := ResultSet.more_of_needsFetch needs
  obtain ⟨id, known⟩ := Option.isSome_iff_exists.mp isSome
  let request : QueryRequest := .fetch id (UInt64.ofNat skip) cursor.bufferSize
  have may : request.request.MayFollow live :=
    Request.mayFollow_of_live (keeps.live_eq settled known more present) rfl
  -- more rows are wanted, so the page is neither empty nor given up
  have here : cursor.epoch = cursor.session.connection.epoch := by
    rcases settled with same | unknown | suspended
    · exact same
    · rw [unknown] at known
      contradiction
    · rw [suspended] at present
      contradiction
  have begun : cursor.begun.Keeps live := ⟨keeps.source_eq, keeps.epoch_le, keeps.trusts⟩
  have told : cursor.begun.Tells live (cursor.session.querying request)
      (cursor.begun.query request).state := tells_query begun may
  have story : cursor.pageStory skip = cursor.session.querying request := by
    rw [pageStory, known, keeps.source_eq]
  rw [story, state_fetchPage keeps.source_eq known]
  refine ⟨⟨told.asks, told.sound, told.keeps⟩, .inl ?_⟩
  have same := (cursor.session.sameBut_ask request).epoch_eq
  rw [query_eq_ask, Outcome.state_mapState]
  exact here.trans same.symm

/-- Page after page. -/
theorem tells_fetchTo (keeps : cursor.Keeps live) (settled : cursor.IsSettled) (row : Nat) :
    cursor.Tells live (cursor.fetchStory row) (cursor.fetchTo row) := by
  -- the induction follows the pages
  fun_induction Cursor.fetchTo row cursor generalizing live with
  | case1 cursor needs e after failed =>
    obtain ⟨told, -⟩ := tells_fetchPage keeps settled needs (cursor.skipFor row)
    rw [fetchStory, dif_pos needs]
    simp only [failed, List.append_nil]
    rw [failed] at told
    exact told.note e
  | case2 cursor needs count after brought stuck =>
    obtain ⟨told, -⟩ := tells_fetchPage keeps settled needs (cursor.skipFor row)
    rw [fetchStory, dif_pos needs]
    simp only [brought, if_pos stuck, List.append_nil]
    rw [brought] at told
    exact told
  | case3 cursor needs count after brought moving further _ ih =>
    obtain ⟨told, settled'⟩ := tells_fetchPage keeps settled needs (cursor.skipFor row)
    rw [fetchStory, dif_pos needs]
    simp only [brought, if_neg moving, if_pos further]
    rw [brought] at told settled'
    exact told.trans (ih told.keeps settled')
  | case4 cursor needs count after brought moving still =>
    obtain ⟨told, -⟩ := tells_fetchPage keeps settled needs (cursor.skipFor row)
    rw [fetchStory, dif_pos needs]
    simp only [brought, if_neg moving, if_neg still, List.append_nil]
    rw [brought] at told
    exact told
  | case5 cursor enough =>
    rw [fetchStory, dif_neg enough]
    exact .of_silent rfl keeps

/-! ### Closing -/

/-- What is drained or discarded is the live result set. -/
theorem tells_settle (keeps : cursor.Keeps live) (settled : cursor.IsSettled) :
    cursor.Tells live cursor.settleStory cursor.settle.state := by
  rw [settleStory, settle]
  rcases there : cursor.openAtServer? with - | id
  · -- nothing is left at the server
    rcases cursor.recorder with - | writer
    · exact .of_silent rfl keeps
    · have drained : ({ cursor with recorder := none } : Cursor ν).drain writer =
          .ok () (writer, { cursor with recorder := none }) :=
        drain_of_nothing writer keeps.source_eq there
      simp only
      rw [drained]
      exact .of_silent rfl (keeps.beside ..)
  · have live_eq := keeps.live_of_openAtServer? settled there
    rcases cursor.recorder with - | writer
    · have may : (Request.command (.abortResultSet id)).MayFollow live :=
        Request.mayFollow_of_live live_eq rfl
      simp only [Outcome.state_mapState]
      exact tells_run (Command.sends_exchange (.abortResultSet id)) keeps may rfl rfl rfl rfl
    · have may : (Request.fetch id 0 0).MayFollow live :=
        Request.mayFollow_of_live live_eq rfl
      by_cases finished : writer.finished = true
      · -- the recorder has the end already
        simp only [if_pos finished]
        have drained : ({ cursor with recorder := none } : Cursor ν).drain writer =
            .ok () (writer, { cursor with recorder := none }) := by
          rw [drain, if_pos finished]
        rw [drained]
        exact .of_silent rfl (keeps.beside ..)
      · -- the recorder alone is told of the answer, so that the page stays as it is
        simp only [if_neg finished]
        have drained := drain_eq_run (by simpa using finished)
          (show ({ cursor with recorder := none } : Cursor ν).openAtServer? = some id from there)
        rw [drained]
        have told : ∀ disk, cursor.Tells live (cursor.session.asking (.fetch id 0 0))
            { cursor with
              session := (cursor.session.run (Query.exchange (.fetch id 0 0) CacheWriter.handler)
                { handler := (writer, cursor.disk) }).state.1
              recorder := none, disk } := fun disk =>
          tells_run (Query.sends_exchange (.fetch id 0 0) CacheWriter.handler) keeps may rfl rfl rfl
            rfl
        generalize cursor.session.run (Query.exchange (.fetch id 0 0) CacheWriter.handler)
          { handler := (writer, cursor.disk) } = outcome at told ⊢
        rcases outcome with ⟨⟨⟩, session, query⟩ | ⟨e, session, query⟩
        · exact told _
        · exact told _

/-- A closed result set is not asked for any more. -/
theorem tells_close (keeps : cursor.Keeps live) :
    cursor.Tells live cursor.closeStory cursor.close.state := by
  have checked := tells_checkEpoch keeps
  have settled := checked.trans (tells_settle checked.keeps (isSettled_checkEpoch keeps.source_eq))
  rw [close, Outcome.state_mapState]
  refine settled.trans ⟨.refl _, ⟨fun request never => by contradiction, trivial⟩, ?_⟩
  refine keeps_of_unknown rfl ?_ rfl none
  exact settled.keeps.epoch_le

/-! ### Statements -/

/-- The statement is sent, and opens a result set of this epoch if it succeeds. -/
theorem tells_executed (keeps : cursor.Keeps live) (sql : String) (binds : BindSet)
    (options : ExecuteOptions) :
    cursor.Tells live (cursor.session.querying (.execute sql binds options))
      (match cursor.query (.execute sql binds options) with
        | .error e after => .error e after.abandonRecorder
        | .ok () after =>
          .ok () { after with session := after.session.statementExecuted }.opened :
        Outcome Unit (Cursor ν)).state := by
  have may : (QueryRequest.execute sql binds options).request.MayFollow live :=
    Request.mayFollow_of_none rfl live
  -- the epoch of a cursor is brought up to date if the answer is complete, and only then
  rcases answered : cursor.query (.execute sql binds options) with ⟨⟨⟩, after⟩ | ⟨e, after⟩
  · have told := tells_opened keeps rfl may answered
    refine told.silently rfl ⟨told.keeps.source_eq, Nat.le_refl _, fun _ => ?_⟩
    exact told.keeps.trusts rfl
  · have told := tells_query keeps may
    rw [answered] at told
    obtain ⟨recorder, disk, eq⟩ := abandonRecorder_eq after
    simp only [eq]
    exact told.silently rfl (told.keeps.beside ..)

theorem tells_runStatement (keeps : cursor.Keeps live) (binds : BindSet) :
    cursor.Tells live (cursor.statementStory binds) (cursor.runStatement binds).state := by
  have closed := tells_close keeps
  rw [statementStory, runStatement]
  generalize cursor.close = outcome at closed ⊢
  rcases outcome with ⟨⟨⟩, left⟩ | ⟨e, left⟩
  · refine closed.trans ?_
    have keeps' := closed.keeps
    simp only
    rcases left.checkBinds (left.substitutions.expand left.sql) binds with e | ⟨⟩
    · -- the binds do not fit the statement
      exact .of_silent rfl keeps'
    · simp only
      rcases target : left.createTarget with ⟨⟨⟩, armed⟩ | ⟨e, armed⟩
      · -- the statement is sent
        obtain ⟨recorder, disk, rfl, -⟩ := createTarget_ok target
        have armed : left.Tells (liveAfter live cursor.closeStory) []
            { left with recorder, disk } :=
          .of_silent rfl (keeps'.beside ..)
        exact armed.first (tells_executed armed.keeps ..)
      · -- no recorder can be created
        obtain rfl := createTarget_error target
        exact .of_silent rfl keeps'
  · rw [List.append_nil]
    exact closed

/-! ### Attaching -/

theorem tells_closeOther (keeps : cursor.Keeps live) (id : ResultSetId) :
    cursor.Tells live (cursor.closeOtherStory id) (cursor.closeOther id).state := by
  have checked := tells_checkEpoch keeps
  rw [closeOtherStory, closeOther]
  split
  · exact checked
  · exact checked.first (tells_close checked.keeps)

/-- The server is asked for a description and rows, and the result set is of this
epoch if it sends them. -/
theorem tells_attached (keeps : cursor.Keeps live) (id : ResultSetId) (options : ExecuteOptions) :
    cursor.Tells live (cursor.session.querying (.resume id options))
      (match cursor.query (.resume id options) with
        | .error e after => .error e after
        | .ok () after => .ok () after.opened : Outcome Unit (Cursor ν)).state := by
  have may : (QueryRequest.resume id options).request.MayFollow live :=
    Request.mayFollow_of_none rfl live
  rcases answered : cursor.query (.resume id options) with ⟨⟨⟩, after⟩ | ⟨e, after⟩
  · exact tells_opened keeps rfl may answered
  · have told := tells_query keeps may
    rw [answered] at told
    exact told

theorem tells_attach (keeps : cursor.Keeps live) (id : ResultSetId) (path : Option String) :
    cursor.Tells live (cursor.attachStory id path) (cursor.attach id path).state := by
  have closed := tells_closeOther keeps id
  rw [attachStory, attach]
  generalize cursor.closeOther id = outcome at closed ⊢
  rcases outcome with ⟨⟨⟩, left⟩ | ⟨e, left⟩
  · refine closed.trans ?_
    -- the page is emptied, whatever result set it was of
    have vacant : left.Tells (liveAfter live (cursor.closeOtherStory id)) []
        left.forget.detachRecorder := by
      rw [detachRecorder_eq]
      refine .of_silent rfl (keeps_of_unknown rfl ?_ rfl _)
      exact closed.keeps.epoch_le
    refine vacant.first ?_
    have keeps' := vacant.keeps
    simp only
    generalize left.forget.detachRecorder = bare at keeps' ⊢
    rcases path with - | path
    · exact tells_attached keeps' id bare.executeOptions
    · simp only
      rcases opened : bare.continueRecorder path with ⟨⟨⟩, armed⟩ | ⟨e, armed⟩
      · -- the recorder goes on with its file
        obtain ⟨writer, disk, rfl, -⟩ := continueRecorder_ok opened
        have armed : bare.Tells (liveAfter live (cursor.closeOtherStory id)) []
            { bare with recorder := some writer, disk } :=
          .of_silent rfl (keeps'.beside ..)
        exact armed.first (tells_attached armed.keeps ..)
      · -- the file cannot be continued
        obtain rfl := continueRecorder_error opened
        exact .of_silent rfl keeps'
  · rw [List.append_nil]
    exact closed

/-! ### Acts -/

/-- **Every act tells its story.** -/
theorem tells_act (keeps : cursor.Keeps live) (act : Act ν) :
    cursor.Tells live (act.story cursor) (act.after cursor) := by
  have keeps' : ({ cursor with error := none } : Cursor ν).Keeps live :=
    keeps.beside ..
  cases act with
  | sends sql =>
    have prepared : ({ cursor.prepare sql with error := none } : Cursor ν).Keeps live :=
      ⟨keeps.source_eq, keeps.epoch_le, keeps.trusts⟩
    have told : (cursor.prepare sql).Tells live _ _ := tells_noting (tells_runStatement prepared {})
    exact ⟨told.asks, told.sound, told.keeps⟩
  | executes => exact tells_noting (tells_runStatement keeps' cursor.binds)
  | reads row look =>
    have checked := tells_checkEpoch keeps
    exact checked.first (tells_fetchTo checked.keeps (isSettled_checkEpoch keeps.source_eq) row)
  | closes => exact tells_close keeps
  | suspends =>
    -- nothing is open any more, and nothing was asked
    have left : cursor.suspendResultSet.Keeps none := by
      rw [suspendResultSet_eq]
      exact ⟨rfl, keeps.epoch_le, fun _ => ResultSet.trusts_of_suspended rfl⟩
    have unasked : cursor.session.traffic.Asks [] cursor.suspendResultSet.session.traffic := by
      rw [suspendResultSet_eq]
      exact .refl _
    exact ⟨unasked, ⟨fun request never => by contradiction, trivial⟩, left⟩
  | resumes id => exact tells_noting (tells_attach keeps' id none)
  | resumesCached id path => exact tells_noting (tells_attach keeps' id (some path))
  | parks =>
    show cursor.Tells live _ (cursor.withSession Session.suspend).state
    rw [withSession, Outcome.state_mapState]
    refine tells_moved keeps ?_ cursor.session.asks_suspend cursor.session.epoch_suspend
    intro request mem
    rw [Session.eq_of_mem_requests mem]
    rfl
  | reclaims token =>
    show cursor.Tells live _ (cursor.withSession (Session.resume token)).state
    rw [withSession, Outcome.state_mapState]
    refine tells_moved keeps ?_ (cursor.session.asks_resume token) (cursor.session.epoch_resume token)
    intro request mem
    rw [Session.eq_of_mem_reclaimRequests mem]
    rfl
  | sets settings => exact .of_silent rfl ⟨keeps.source_eq, keeps.epoch_le, keeps.trusts⟩
  | finds disk => exact .of_silent rfl (keeps.beside ..)

/-! ### Runs -/

/-- And so does every run. -/
theorem tells_acts (keeps : cursor.Keeps live) (acts : List (Act ν)) :
    cursor.Tells live (cursor.history acts) (cursor.afterActs acts).close.state := by
  induction acts generalizing cursor live with
  | nil => exact tells_close keeps
  | cons act acts ih =>
    have told := tells_act keeps act
    exact told.trans (ih told.keeps)

/-- **Only live result sets are drawn on.**  Whatever a server answers, and whatever
is done with a cursor and its session until the cursor is let go of, every request
for rows, and every one to discard them, has the identifier of the last description
that the cursor accepted; since then there were but requests: the result set was
neither told to be at its end, nor closed or suspended, and the session was neither
parked nor replaced.  The requests are those in the record of what was sent. -/
theorem draws_on_live (session : Session ν) (disk : Disk) (now : Int64) (acts : List (Act ν)) :
    let cursor := onSession session disk now
    session.traffic.Asks ((cursor.history acts).filterMap Happening.request?)
        (cursor.afterActs acts).release.1.traffic ∧
      ∀ (before later : List Happening) (request : Request) (id : ResultSetId),
        cursor.history acts = before ++ .asked request :: later → request.drawsOn = some id →
        ∃ former since, before = former ++ .described id :: since ∧
          ∀ happening ∈ since, ∃ other, happening = .asked other := by
  intro cursor
  have told := tells_acts (keeps_onSession session disk now) acts
  refine ⟨told.asks, ?_⟩
  intro before later request id split drawn
  have sound := told.sound
  rw [split] at sound
  rcases described_of_liveAfter (sound.live drawn) with ⟨never, -⟩ | described
  · contradiction
  · exact described

end Cursor

namespace TableServer

/-- A session with a server that keeps five rows. -/
def fiveRowSession : Session TableServer :=
  ((TableServer.mk fiveRowStore none none).cursor {}).session

/-- Three rows are read, two at a time, and the others are not wanted. -/
def discardingActs : List (Cursor.Act TableServer) :=
  [.sets { Cursor.onSession fiveRowSession {} 0 with bufferSize := 2 }, .sends "q",
    .reads 2 ResultSet.rowCount, .closes]

/-- What is known of this run: a request draws on the result set, and it is live then. -/
theorem draws_on_live_discardingActs :
    let cursor := Cursor.onSession fiveRowSession {} 0
    let history := cursor.history discardingActs
    (history.filterMap Happening.request?).map Request.drawsOn = [none, some 7, some 7] ∧
      fiveRowSession.traffic.Asks (history.filterMap Happening.request?)
        (cursor.afterActs discardingActs).release.1.traffic ∧
      ∃ before later request, history = before ++ .asked request :: later ∧
        request.drawsOn = some 7 ∧
        ∃ former since, before = former ++ .described 7 :: since ∧
          ∀ happening ∈ since, ∃ other, happening = .asked other := by
  intro cursor history
  obtain ⟨asks, live⟩ := Cursor.draws_on_live fiveRowSession {} 0 discardingActs
  have drawn : (history.filterMap Happening.request?).map Request.drawsOn =
      [none, some 7, some 7] := by
    decide +kernel
  refine ⟨drawn, asks, ?_⟩
  have mem : some 7 ∈ (history.filterMap Happening.request?).map Request.drawsOn := by
    rw [drawn]
    simp
  obtain ⟨request, sent, drawsOn⟩ := List.mem_map.mp mem
  obtain ⟨happening, there, asked⟩ := List.mem_filterMap.mp sent
  obtain rfl : happening = .asked request := by
    cases happening <;> simp_all [Happening.request?]
  obtain ⟨before, later, split⟩ := List.append_of_mem there
  exact ⟨before, later, request, split, drawsOn, live before later request 7 split drawsOn⟩

/-- A result set that is parked is not discarded. -/
example : (((Cursor.onSession fiveRowSession {} 0).history
    [.sends "q", .suspends, .closes]).filterMap Happening.request?).map Request.drawsOn =
      [none] := by
  decide +kernel

end TableServer

end ProxyClient
