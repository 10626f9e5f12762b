/-
ProxyClient/Proofs/Cursor/History.lean

What happens to a cursor, in order: the requests that it sends, the descriptions
that it accepts, and what puts an end to a result set (`Happening`).  A result
set is live from its description on until it is told to be at its end, closed
or suspended, or the session is parked or replaced (`liveAfter`):

    described 7, asked …, asked …  →  7 is live
    described 7, …, suspended      →  none is

A history is sound if rows are asked for, and discarded, of the live result set
alone (`Sound`).  The story of every operation of a cursor is read off the states
through which the operation passes, with the answers as the page took them
(`Cursor.query_eq_ask`).
-/
import ProxyClient.Proofs.Cursor.Beside
import ProxyClient.Proofs.Session.Requests

namespace ProxyClient

/-! ### Histories -/

/-- What happens to a cursor. -/
inductive Happening where
  /-- A request is sent, or is to be sent. -/
  | asked (request : Request)
  /-- A description is accepted. -/
  | described (id : ResultSetId)
  /-- The page is told that no rows are left. -/
  | ended
  /-- The result set is closed. -/
  | closed
  /-- The result set is suspended. -/
  | suspended
  /-- The session is parked or replaced. -/
  | moved

/-- The result set of which a request asks for rows, or which it discards. -/
def Request.drawsOn : Request → Option ResultSetId
  | fetch id _ _ => some id
  | command (.abortResultSet id) => some id
  | _ => none

namespace Happening

/-- The request that is sent. -/
def request? : Happening → Option Request
  | asked request => some request
  | _ => none

/-- The live result set, after something has happened. -/
def next (live : Option ResultSetId) : Happening → Option ResultSetId
  | asked _ => live
  | described id => some id
  | ended | closed | suspended | moved => none

end Happening

/-- The live result set at the end of a history. -/
def liveAfter (live : Option ResultSetId) (history : List Happening) : Option ResultSetId :=
  history.foldl Happening.next live

/-- Rows are asked for, and discarded, of the live result set alone. -/
def Sound : Option ResultSetId → List Happening → Prop
  | _, [] => True
  | live, happening :: rest =>
    (∀ request, happening = .asked request → ∀ id, request.drawsOn = some id → live = some id) ∧
      Sound (happening.next live) rest

@[simp] theorem liveAfter_append (live : Option ResultSetId) (front back : List Happening) :
    liveAfter live (front ++ back) = liveAfter (liveAfter live front) back :=
  List.foldl_append

theorem sound_append {live : Option ResultSetId} {front back : List Happening} :
    Sound live (front ++ back) ↔ Sound live front ∧ Sound (liveAfter live front) back := by
  induction front generalizing live with
  | nil => exact (true_and _).symm.to_iff
  | cons happening front ih =>
    show _ ∧ Sound _ (front ++ back) ↔ (_ ∧ Sound _ front) ∧ _
    rw [ih, and_assoc]
    rfl

/-- **What is live was described**, and since then there were but requests; or it
was live before, and there were but requests. -/
theorem described_of_liveAfter {live : Option ResultSetId} {history : List Happening}
    {id : ResultSetId} (live_eq : liveAfter live history = some id) :
    (live = some id ∧ ∀ happening ∈ history, ∃ request, happening = .asked request) ∨
      ∃ former since, history = former ++ .described id :: since ∧
        ∀ happening ∈ since, ∃ request, happening = .asked request := by
  induction history generalizing live with
  | nil => exact .inl ⟨live_eq, by simp⟩
  | cons happening history ih =>
    rcases ih live_eq with ⟨next, only⟩ | ⟨former, since, rfl, only⟩
    · cases happening with
      | asked request => exact .inl ⟨next, List.forall_mem_cons.mpr ⟨⟨request, rfl⟩, only⟩⟩
      | described id' =>
        obtain rfl : id' = id := Option.some.inj next
        exact .inr ⟨[], history, rfl, only⟩
      | ended | closed | suspended | moved => contradiction
    · exact .inr ⟨happening :: former, since, rfl, only⟩

/-- In a sound history every result set that is drawn on is live then. -/
theorem Sound.live {live : Option ResultSetId} {before later : List Happening} {request : Request}
    {id : ResultSetId} (sound : Sound live (before ++ .asked request :: later))
    (drawn : request.drawsOn = some id) : liveAfter live before = some id := by
  obtain ⟨-, now, -⟩ := sound_append.mp sound
  exact now request rfl id drawn

/-! ### Stories of answers -/

/-- What an event of an answer tells of the result set. -/
def RowEvent.happening? : RowEvent → Option Happening
  | describe d => some (.described d.head.id)
  | batchEnd batch => if batch.endOfResultSet then some .ended else none
  | outputBinds _ | row _ => none

/-- What the events of an answer tell. -/
def RowEvent.tell (events : List RowEvent) : List Happening :=
  events.filterMap happening?

/-- A request that an exchange sends. -/
def Session.asking {ν : Type} [Network ν] (request : Request) (session : Session ν) :
    List Happening :=
  (session.requests request).map .asked

/-- A query, with what is accepted of its answer. -/
def Session.querying {ν : Type} [Network ν] (request : QueryRequest) (session : Session ν) :
    List Happening :=
  session.asking request.request ++ RowEvent.tell (session.ask request).state.2

namespace Cursor

variable {ν : Type} [Network ν]

/-! ### Stories of operations -/

/-- The story of `fetchPage`. -/
def pageStory (skip : Nat) (cursor : Cursor ν) : List Happening :=
  match cursor.result.id, cursor.source with
  | some id, none => cursor.session.querying (.fetch id (UInt64.ofNat skip) cursor.bufferSize)
  | _, _ => []

/-- The story of `fetchTo`. -/
def fetchStory (row : Nat) (cursor : Cursor ν) : List Happening :=
  if h : cursor.result.needsFetch row then
    cursor.pageStory (cursor.skipFor row) ++
      match cursor.fetchPage (cursor.skipFor row) with
      | .error _ _ => []
      | .ok count after =>
        if count = 0 ∧ !after.result.ended then []
        else if cursor.result.rowCount < after.result.rowCount then
          have := ResultSet.rowCount_le_of_needsFetch h
          fetchStory row after
        else []
  else []
termination_by row + 1 - cursor.result.rowCount

/-- The story of `settle`: the writer alone is told of what is drained. -/
def settleStory (cursor : Cursor ν) : List Happening :=
  match cursor.openAtServer? with
  | none => []
  | some id =>
    match cursor.recorder with
    | some writer => if writer.finished then [] else cursor.session.asking (.fetch id 0 0)
    | none => cursor.session.asking (.command (.abortResultSet id))

/-- The story of `close`. -/
def closeStory (cursor : Cursor ν) : List Happening :=
  cursor.checkEpoch.settleStory ++ [.closed]

/-- The story of `runStatement`. -/
def statementStory (binds : BindSet) (cursor : Cursor ν) : List Happening :=
  cursor.closeStory ++
    match cursor.close with
    | .error _ _ => []
    | .ok () cursor =>
      let sql := cursor.substitutions.expand cursor.sql
      match cursor.checkBinds sql binds, cursor.createTarget with
      | .ok (), .ok () cursor => cursor.session.querying (.execute sql binds cursor.executeOptions)
      | _, _ => []

/-- The story of `closeOther`. -/
def closeOtherStory (id : ResultSetId) (cursor : Cursor ν) : List Happening :=
  let cursor := cursor.checkEpoch
  if cursor.result.id = some id ∧ cursor.result.suspended then [] else cursor.closeStory

/-- The story of `attach`. -/
def attachStory (id : ResultSetId) (path : Option String) (cursor : Cursor ν) : List Happening :=
  cursor.closeOtherStory id ++
    match cursor.closeOther id with
    | .error _ _ => []
    | .ok () cursor =>
      let cursor := cursor.forget.detachRecorder
      let started := match path with
        | some path => cursor.continueRecorder path
        | none => .ok () cursor
      match started with
      | .error _ _ => []
      | .ok () cursor => cursor.session.querying (.resume id cursor.executeOptions)

/-! ### Stories of runs -/

/-- What may be done with a cursor and, while it is there, with its session. -/
inductive Act (ν : Type)
  /-- A statement is run at once. -/
  | sends (sql : String)
  /-- The statement that was prepared is run. -/
  | executes
  /-- A row is read, whatever is looked at. -/
  | reads {α : Type} (row : Nat) (look : ResultSet → α)
  /-- The result set is closed. -/
  | closes
  /-- The result set is suspended. -/
  | suspends
  /-- A parked result set is attached to. -/
  | resumes (id : ResultSetId)
  /-- A parked result set is attached to, and its cache file continued. -/
  | resumesCached (id : ResultSetId) (path : String)
  /-- The session is parked. -/
  | parks
  /-- A parked session is reclaimed on the connection. -/
  | reclaims (token : SuspendToken)
  /-- The settings are changed, and the clock. -/
  | sets (settings : Cursor ν)
  /-- Others change the disk. -/
  | finds (disk : Disk)

/-- The cursor after that. -/
def Act.after (cursor : Cursor ν) : Act ν → Cursor ν
  | sends sql => (cursor.send sql).state
  | executes => cursor.execute.state
  | reads row look => (reading row look cursor).2
  | closes => cursor.close.state
  | suspends => cursor.suspendResultSet
  | resumes id => (cursor.resumeResultSet id).state
  | resumesCached id path => (cursor.resumeCached id path).state
  | parks => (cursor.withSession Session.suspend).state
  | reclaims token => (cursor.withSession (Session.resume token)).state
  | sets settings => cursor.withSettings settings
  | finds disk => { cursor with disk }

/-- The story of that. -/
def Act.story (cursor : Cursor ν) : Act ν → List Happening
  | sends sql => ({ cursor.prepare sql with error := none } : Cursor ν).statementStory {}
  | executes => ({ cursor with error := none } : Cursor ν).statementStory cursor.binds
  | reads row _ => cursor.checkEpoch.fetchStory row
  | closes => cursor.closeStory
  | suspends => [.suspended]
  | resumes id => ({ cursor with error := none } : Cursor ν).attachStory id none
  | resumesCached id path => ({ cursor with error := none } : Cursor ν).attachStory id (some path)
  | parks =>
    cursor.session.asking (.command .suspendSession) ++
      if cursor.session.suspend.toExcept.toBool then [.moved] else []
  | reclaims token =>
    (cursor.session.reclaimRequests token).map .asked ++
      if (cursor.session.resume token).toExcept.toBool then [.moved] else []
  | sets _ | finds _ => []

/-- The cursor after one act and the other. -/
def afterActs (acts : List (Act ν)) (cursor : Cursor ν) : Cursor ν :=
  acts.foldl Act.after cursor

/-- What happens to a cursor that is let go of in the end. -/
def history : List (Act ν) → Cursor ν → List Happening
  | [], cursor => cursor.closeStory
  | act :: acts, cursor => act.story cursor ++ history acts (act.after cursor)

end Cursor

end ProxyClient
