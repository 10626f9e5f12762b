/-
ProxyClient/Proofs/Cursor/Deeds.lean

Everything that may be done with a connection and a cursor on it, in any order:
the acts of the cursor, the calls of its session, opening cache files, and
letting go of the cursor for another one (`Cursor.Deed`).  A connection without
a cursor is one with a cursor that was never used.

Whatever the server answers, a deed moves the session by one step
(`Deed.moves`):

    deed     milestone, if it succeeds
    sends, executes      executed
    parks                parked
    reclaims             greeted
    commits, rollsBack   settled
    toggles              toggled
    any other            none, whether or not it succeeds

So a run of deeds leaves what its milestones leave.
-/
import ProxyClient.Message.Server
import ProxyClient.Proofs.Cursor.Courses
import ProxyClient.Proofs.Session.Moves

namespace ProxyClient.Cursor

variable {ν : Type} [Network ν] {cursor : Cursor ν}

/-! ### Requests and answers -/

theorem talks_query (request : QueryRequest) (cursor : Cursor ν) :
    cursor.session.Talks (cursor.query request).state.session := by
  rw [query, Outcome.state_mapState]
  exact Session.talks_run (Query.sends_exchange request reception) cursor.session _

theorem talks_of_query {request : QueryRequest} {outcome : Outcome Unit (Cursor ν)}
    (asked : cursor.query request = outcome) : cursor.session.Talks outcome.state.session :=
  asked ▸ talks_query request cursor

/-- After a query that succeeds the session can be used. -/
theorem usable_of_query_ok {request : QueryRequest} {after : Cursor ν}
    (asked : cursor.query request = .ok () after) : ¬ after.session.Refuses := by
  rw [query] at asked
  obtain ⟨⟨session, query⟩, ran, rfl⟩ := Outcome.exists_of_mapState_eq_ok asked
  exact Session.usable_of_run_ok ran

theorem talks_fetchPage (skip : Nat) (cursor : Cursor ν) :
    cursor.session.Talks (cursor.fetchPage skip).state.session := by
  rcases known : cursor.result.id with - | id
  · rw [fetchPage, known]
    exact .refl
  · rcases source : cursor.source with - | reader
    · rw [state_fetchPage source known]
      exact talks_query _ cursor.begun
    · rw [(fetchPage_of_silent (.inl (by rw [source]; rfl)) skip).1]
      exact .refl

theorem talks_fetchTo (row : Nat) (cursor : Cursor ν) :
    cursor.session.Talks (cursor.fetchTo row).session :=
  fetchTo_keeps (P := fun after => cursor.session.Talks after.session)
    (fun after talks _ => talks.trans (talks_fetchPage (after.skipFor row) after))
    (fun _ _ talks => talks) cursor .refl

theorem talks_ensureRow (row : Nat) (cursor : Cursor ν) :
    cursor.session.Talks (cursor.ensureRow row).session := by
  rw [ensureRow, ← session_checkEpoch cursor]
  exact talks_fetchTo row cursor.checkEpoch

theorem talks_drain (writer : CacheWriter) (cursor : Cursor ν) :
    cursor.session.Talks (cursor.drain writer).state.2.session := by
  by_cases silent : cursor.openAtServer? = none
  · rw [session_drain writer (.inl silent)]
    exact .refl
  · obtain ⟨id, there⟩ := Option.ne_none_iff_exists'.mp silent
    rcases finished : writer.finished with - | -
    · rw [drain_eq_run finished there, Outcome.state_mapState]
      exact Session.talks_run (Query.sends_exchange (.fetch id 0 0) CacheWriter.handler) _ _
    · rw [drain, if_pos finished]
      exact .refl

theorem talks_settle (cursor : Cursor ν) : cursor.session.Talks cursor.settle.state.session := by
  rw [settle]
  split
  · -- the recorder may fetch what is left
    next writer _ =>
    have talks := talks_drain writer ({ cursor with recorder := none } : Cursor ν)
    rcases ran : ({ cursor with recorder := none } : Cursor ν).drain writer with
      ⟨⟨⟩, writer', after⟩ | ⟨e, writer', after⟩
    · rw [ran] at talks
      exact talks
    · rw [ran] at talks
      exact talks
  · split
    · exact .refl
    · -- the result set is aborted
      next id _ =>
      rw [Outcome.state_mapState]
      exact Session.talks_run (Command.sends_exchange (.abortResultSet id)) _ _

theorem talks_close (cursor : Cursor ν) : cursor.session.Talks cursor.close.state.session := by
  rw [close, Outcome.state_mapState, ← session_checkEpoch cursor]
  exact talks_settle cursor.checkEpoch

theorem talks_closeOther (id : ResultSetId) (cursor : Cursor ν) :
    cursor.session.Talks (cursor.closeOther id).state.session := by
  rw [← session_checkEpoch cursor, closeOther]
  split
  · exact .refl
  · exact talks_close cursor.checkEpoch

theorem talks_emptied (id : ResultSetId) (cursor : Cursor ν) :
    cursor.session.Talks (cursor.emptied id).session := by
  rw [emptied, detachRecorder_eq]
  exact talks_closeOther id cursor

theorem talks_noting {action : Cursor ν → Outcome Unit (Cursor ν)}
    (talks : ∀ cursor : Cursor ν, cursor.session.Talks (action cursor).state.session)
    (cursor : Cursor ν) : cursor.session.Talks (cursor.noting action).state.session := by
  obtain ⟨error, noted, -⟩ := noting_cases action cursor
  rw [noted]
  exact talks { cursor with error := none }

/-- Attaching brings no milestone, whether or not it succeeds. -/
theorem talks_attach (id : ResultSetId) (path : Option String) (cursor : Cursor ν) :
    cursor.session.Talks (cursor.attach id path).state.session := by
  have talks := talks_emptied id cursor
  have course := attaches_attach id path cursor
  generalize cursor.attach id path = outcome at course ⊢
  cases course with
  | unasked e => exact talks
  | failed recorder disk options _ asked | answered recorder disk options _ asked =>
    have answer := talks_of_query asked
    exact talks.trans answer

theorem talks_openFile (path : String) (cursor : Cursor ν) :
    cursor.session.Talks (cursor.openFile path).state.session := by
  have talks := talks_close cursor
  have course := unpacks_openFile path cursor
  generalize cursor.openFile path = outcome at course ⊢
  cases course with
  | refused e => exact .refl
  | unread | torn | read => exact talks

/-! ### Deeds -/

/-- Whether an act succeeds.  Reads and changes of settings always do; a read that
finds nothing is none that fails. -/
def Act.succeeds (cursor : Cursor ν) : Act ν → Bool
  | sends sql => (cursor.send sql).report.1
  | executes => cursor.execute.report.1
  | closes => cursor.close.report.1
  | resumes id => (cursor.resumeResultSet id).report.1
  | resumesCached id path => (cursor.resumeCached id path).report.1
  | parks => cursor.session.suspend.report.1
  | reclaims token => (cursor.session.resume token).report.1
  | reads _ _ | suspends | sets _ | finds _ => true

/-- What an act comes to if it succeeds. -/
def Act.aim? (cursor : Cursor ν) : Act ν → Option Milestone
  | sends _ | executes => some .executed
  | parks => some .parked
  | reclaims token => (cursor.session.greeting token).map (.greeted token.endpoint)
  | reads _ _ | closes | suspends | resumes _ | resumesCached _ _ | sets _ | finds _ => none

/-- What may be done with a connection and the cursor on it. -/
inductive Deed (ν : Type) where
  /-- An act of the cursor. -/
  | acts (act : Act ν)
  /-- A call of the session. -/
  | calls (call : Session.Call)
  /-- A cache file is opened. -/
  | opensCached (path : String)
  /-- The cursor is let go of, and there is another one on the session. -/
  | renews

namespace Deed

/-- Whether it succeeds, and the cursor after it. -/
def perform (cursor : Cursor ν) : Deed ν → Bool × Cursor ν
  | acts act => (act.succeeds cursor, act.after cursor)
  | calls call =>
    ((call.perform cursor.session).1, { cursor with session := (call.perform cursor.session).2 })
  | opensCached path => (cursor.openCached path).report
  | renews => (true, onSession cursor.release.1 cursor.release.2 cursor.now)

/-- Whether it succeeds. -/
def succeeds (cursor : Cursor ν) (deed : Deed ν) : Bool :=
  (deed.perform cursor).1

/-- The cursor after it, whether or not it succeeds. -/
def after (cursor : Cursor ν) (deed : Deed ν) : Cursor ν :=
  (deed.perform cursor).2

/-- What it comes to if it succeeds. -/
def aim? (cursor : Cursor ν) : Deed ν → Option Milestone
  | acts act => act.aim? cursor
  | calls call => call.aim?
  | opensCached _ | renews => none

/-- The milestone that it comes to. -/
def milestone? (cursor : Cursor ν) (deed : Deed ν) : Option Milestone :=
  if deed.succeeds cursor then deed.aim? cursor else none

/-- Without success there is no milestone. -/
theorem milestone?_of_failed {deed : Deed ν} (failed : deed.succeeds cursor = false) :
    deed.milestone? cursor = none := by
  rw [milestone?, failed, if_neg Bool.false_ne_true]

/-- The deed is one of the session alone. -/
def ofSession : Deed ν → Bool
  | acts .parks | acts (.reclaims _) | calls _ => true
  | acts _ | opensCached _ | renews => false

/-- The deed leaves the result set of the cursor alone. -/
def leavesResult : Deed ν → Bool
  | acts (.reads _ _) | acts .suspends | acts .parks | acts (.reclaims _) | acts (.sets _)
  | calls _ => true
  | acts _ | opensCached _ | renews => false

omit [Network ν] in
/-- Beside the deeds of the session, these are reads, to give the page up and settings. -/
theorem leavesResult_cases {deed : Deed ν} (leaves : deed.leavesResult = true) :
    deed.ofSession = true ∨
      (∃ (α : Type) (row : Nat) (look : ResultSet → α), deed = acts (.reads row look)) ∨
      deed = acts .suspends ∨ ∃ settings, deed = acts (.sets settings) := by
  cases deed with
  | acts act =>
    cases act with
    | parks | reclaims => exact .inl rfl
    | reads row look => exact .inr (.inl ⟨_, row, look, rfl⟩)
    | suspends => exact .inr (.inr (.inl rfl))
    | sets settings => exact .inr (.inr (.inr ⟨settings, rfl⟩))
    | sends | executes | closes | resumes | resumesCached | finds => contradiction
  | calls => exact .inl rfl
  | opensCached | renews => contradiction

/-- The session does its deeds by itself. -/
theorem after_of_ofSession {deed : Deed ν} (ofSession : deed.ofSession = true)
    (cursor : Cursor ν) :
    ∃ session, deed.after cursor = { cursor with session } := by
  cases deed with
  | acts act =>
    cases act with
    | parks =>
      show ∃ session, (cursor.withSession Session.suspend).state = { cursor with session }
      rw [withSession, Outcome.state_mapState]
      exact ⟨_, rfl⟩
    | reclaims token =>
      show ∃ session, (cursor.withSession (Session.resume token)).state = { cursor with session }
      rw [withSession, Outcome.state_mapState]
      exact ⟨_, rfl⟩
    | sends | executes | reads | closes | suspends | resumes | resumesCached | sets | finds =>
      contradiction
  | calls call => exact ⟨_, rfl⟩
  | opensCached | renews => contradiction

end Deed

/-- A statement moves the session. -/
theorem moves_noting_runStatement (binds : BindSet) (cursor : Cursor ν) :
    cursor.session.Moves
      (if (cursor.noting (runStatement binds)).report.1 then some .executed else none)
      (cursor.noting (runStatement binds)).report.2.session := by
  obtain ⟨error, noted, ended⟩ := noting_cases (runStatement binds) cursor
  have talks := talks_close ({ cursor with error := none } : Cursor ν)
  have course := runs_runStatement binds { cursor with error := none }
  rw [Outcome.report, noted, ended]
  generalize runStatement binds { cursor with error := none } = outcome at course ⊢
  generalize statementStory binds { cursor with error := none } = story at course
  -- only a statement that is answered is a milestone
  cases course with
  | unasked e => exact .talks talks
  | @failed recorder disk sql options e after _ asked =>
    have answer := talks_of_query asked
    obtain ⟨recorder', disk', given_up⟩ := abandonRecorder_eq after
    refine .talks ?_
    show cursor.session.Talks after.abandonRecorder.session
    rw [given_up]
    exact talks.trans answer
  | answered recorder disk sql options _ asked =>
    have answer := talks_of_query asked
    exact .executed (talks.trans answer) (usable_of_query_ok asked)

/-- A deed that comes to nothing but requests and answers has no milestone. -/
theorem Deed.moves_of_talks {deed : Deed ν} (aimless : deed.aim? cursor = none)
    (talks : cursor.session.Talks (deed.after cursor).session) :
    cursor.session.Moves (deed.milestone? cursor) (deed.after cursor).session := by
  rw [milestone?, aimless, ite_self]
  exact .talks talks

/-- **Every deed moves the session by one step**, to the milestone that it comes to. -/
theorem Deed.moves (cursor : Cursor ν) (deed : Deed ν) :
    cursor.session.Moves (deed.milestone? cursor) (deed.after cursor).session := by
  -- statements and changes of the session are milestones, everything else is talk
  cases deed with
  | acts act =>
    cases act with
    | sends sql => exact moves_noting_runStatement {} (cursor.prepare sql)
    | executes => exact moves_noting_runStatement cursor.binds cursor
    | reads row look => exact moves_of_talks rfl (talks_ensureRow row cursor)
    | closes => exact moves_of_talks rfl (talks_close cursor)
    | suspends =>
      refine moves_of_talks rfl ?_
      show cursor.session.Talks cursor.suspendResultSet.session
      rw [suspendResultSet_eq]
      exact .refl
    | resumes id => exact moves_of_talks rfl (talks_noting (talks_attach id none) cursor)
    | resumesCached id path =>
      exact moves_of_talks rfl (talks_noting (talks_attach id (some path)) cursor)
    | parks =>
      show cursor.session.Moves _ (cursor.withSession Session.suspend).state.session
      rw [withSession, Outcome.state_mapState]
      exact cursor.session.moves_suspend
    | reclaims token =>
      show cursor.session.Moves _ (cursor.withSession (Session.resume token)).state.session
      rw [withSession, Outcome.state_mapState]
      exact cursor.session.moves_resume token
    | sets settings => exact moves_of_talks rfl .refl
    | finds disk => exact moves_of_talks rfl .refl
  | calls call => exact cursor.session.moves_call call
  | opensCached path => exact moves_of_talks rfl (talks_noting (talks_openFile path) cursor)
  | renews => exact moves_of_talks rfl (talks_close cursor)

/-! ### Runs -/

/-- The cursor after one deed and the other. -/
def afterDeeds (deeds : List (Deed ν)) (cursor : Cursor ν) : Cursor ν :=
  deeds.foldl Deed.after cursor

/-- The milestones of a run, in order. -/
def milestones : List (Deed ν) → Cursor ν → List Milestone
  | [], _ => []
  | deed :: deeds, cursor => (deed.milestone? cursor).toList ++ milestones deeds (deed.after cursor)

@[simp] theorem afterDeeds_append (front back : List (Deed ν)) (cursor : Cursor ν) :
    cursor.afterDeeds (front ++ back) = (cursor.afterDeeds front).afterDeeds back :=
  List.foldl_append

/-- What each deed of a kind keeps, any number of them keep. -/
theorem afterDeeds_keeps {P : Cursor ν → Prop} {kind : Deed ν → Prop}
    (keeps : ∀ (cursor : Cursor ν) (deed : Deed ν), kind deed → P cursor → P (deed.after cursor))
    {deeds : List (Deed ν)} (ofKind : ∀ deed ∈ deeds, kind deed) (start : P cursor) :
    P (cursor.afterDeeds deeds) := by
  induction deeds generalizing cursor with
  | nil => exact start
  | cons deed deeds ih =>
    have first := keeps cursor deed (ofKind deed List.mem_cons_self) start
    exact ih (fun other mem => ofKind other (List.mem_cons_of_mem _ mem)) first

/-- **What a connection tells after a run is what its milestones make of it.** -/
theorem standing_afterDeeds (deeds : List (Deed ν)) (cursor : Cursor ν) :
    (cursor.afterDeeds deeds).session.connection.standing =
      (cursor.milestones deeds).foldl Standing.after cursor.session.connection.standing := by
  induction deeds generalizing cursor with
  | nil => rfl
  | cons deed deeds ih =>
    rw [milestones, List.foldl_append, ← (deed.moves cursor).standing_eq]
    exact ih (deed.after cursor)

end ProxyClient.Cursor

namespace ProxyClient

/-! ### Scripts -/

/-- The reply that consists of some messages. -/
def ScriptedReply.messages (messages : List ServerMessage) : ScriptedReply :=
  .bytes (messages.flatMap fun message => message.frame.encode)

/-- A session whose server gives these answers, one to each request, and then none;
and a server that waits for calls and gives others. -/
def Session.scripted (answers : List (List ServerMessage)) (others : List (List ServerMessage)) :
    Session ScriptedNetwork where
  connection :=
    { transport := some { link := 0 }, endpoint := ⟨"h", 1⟩, options := {}, serverName := "srv"
      serverVersion := "1", autocommit := true, transaction := .idle }
  traffic :=
    { network :=
        { waiting := [{ address := "h:1", replies := others.map ScriptedReply.messages }]
          links := [answers.map ScriptedReply.messages] } }

end ProxyClient
