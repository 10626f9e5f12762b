/-
ProxyClient/Proofs/Cursor/Epochs.lean

Epochs of result sets.  A cursor keeps the epoch of the connection in which its
result set was opened, and the epoch of the connection grows when the session is
parked or replaced.  So whatever is done with a cursor and its session
(`Cursor.IsTidy`)

    epoch of the result set  ≤  epoch of the connection

and a page that was given up shows no row, and is not recorded.
-/
import ProxyClient.Proofs.Cursor.Deeds

namespace ProxyClient

/-- No event gives a page up. -/
theorem ResultSet.suspended_foldl {rs : ResultSet} {events : List RowEvent}
    (suspended : (events.foldl ResultSet.apply rs).suspended = true) : rs.suspended = true := by
  induction events generalizing rs with
  | nil => exact suspended
  | cons event events ih =>
    have after := ih suspended
    cases event with
    | describe d => contradiction
    | outputBinds | row | batchEnd => exact after

namespace Cursor

variable {ν : Type} {cursor after : Cursor ν}

/-- Of a page that was given up no row is shown, and nothing is recorded. -/
def IsClear (cursor : Cursor ν) : Prop :=
  cursor.result.suspended = true → cursor.result.rows = [] ∧ cursor.recorder = none

theorem isClear_of_present (present : ¬ cursor.result.suspended = true) : cursor.IsClear :=
  fun suspended => absurd suspended present

/-- The result set of the cursor is of no later epoch than the connection, and of a page
that was given up nothing is left. -/
structure IsTidy (cursor : Cursor ν) : Prop where
  /-- The result set is of no later epoch than the connection. -/
  epoch_le : cursor.epoch ≤ cursor.session.connection.epoch
  /-- Nothing is left of a page that was given up. -/
  clear : cursor.IsClear

theorem isTidy_onSession (session : Session ν) (disk : Disk) (now : Int64) :
    (onSession session disk now).IsTidy :=
  ⟨Nat.le_refl _, isClear_of_present Bool.false_ne_true⟩

/-- The cursor has the result set of another, or one of the present epoch, and of a page
that was given up nothing is left. -/
structure Follows (cursor after : Cursor ν) : Prop where
  /-- The result set is of the former epoch, or of the present one. -/
  epoch_eq : after.epoch = cursor.epoch ∨ after.epoch = after.session.connection.epoch
  /-- Nothing is left of a page that was given up. -/
  clear : after.IsClear

/-- Since the epoch of the connection grows, that of a result set is never ahead. -/
theorem Follows.isTidy (follows : cursor.Follows after) (tidy : cursor.IsTidy)
    (later : cursor.session.connection.epoch ≤ after.session.connection.epoch) :
    after.IsTidy := by
  refine ⟨?_, follows.clear⟩
  rcases follows.epoch_eq with same | present
  · rw [same]
    exact Nat.le_trans tidy.epoch_le later
  · exact Nat.le_of_eq present

/-- A page that takes events has not been given up, if it was not before. -/
theorem present_taking (present : ¬ cursor.result.suspended = true) (session : Session ν)
    (events : List RowEvent) : ¬ (cursor.taking session events).result.suspended = true := by
  rw [taking_result]
  exact fun suspended => present (ResultSet.suspended_foldl suspended)

theorem checkEpoch_keeps (tidy : cursor.IsTidy) :
    cursor.checkEpoch.epoch = cursor.epoch ∧ cursor.checkEpoch.IsClear := by
  rw [checkEpoch]
  split
  · rw [detachRecorder_with cursor cursor.result.suspend cursor.source cursor.error]
    exact ⟨rfl, fun _ => ⟨rfl, rfl⟩⟩
  · exact ⟨rfl, tidy.clear⟩

variable [Network ν]

theorem present_close (cursor : Cursor ν) : ¬ cursor.close.state.result.suspended = true := by
  obtain ⟨session, disk, closed⟩ := state_close cursor
  rw [closed]
  exact Bool.false_ne_true

theorem epoch_close (cursor : Cursor ν) : cursor.close.state.epoch = cursor.epoch := by
  obtain ⟨session, disk, closed⟩ := state_close cursor
  rw [closed]

theorem epoch_closeOther (id : ResultSetId) (cursor : Cursor ν) :
    (cursor.closeOther id).state.epoch = cursor.epoch := by
  obtain ⟨result, recorder, disk, checked⟩ := checkEpoch_with cursor
  rw [closeOther, checked]
  split
  · rfl
  · exact epoch_close _

/-- A page is fetched if it is there, and is there then. -/
theorem fetchPage_keeps {row : Nat} (clear : cursor.IsClear)
    (needs : cursor.result.needsFetch row = true) (skip : Nat) :
    (cursor.fetchPage skip).state.epoch = cursor.epoch ∧ (cursor.fetchPage skip).state.IsClear := by
  have present : ¬ cursor.begun.result.suspended = true := by
    intro suspended
    have suspended : cursor.result.suspended = true := suspended
    rw [ResultSet.needsFetch, suspended] at needs
    simp at needs
  rcases fetchPage_cases skip cursor with same | ⟨session, events, source, -, taken⟩
  · rw [same]
    exact ⟨rfl, clear⟩
  · rw [taken]
    exact ⟨rfl, isClear_of_present (present_taking present session events)⟩

theorem follows_ensureRow (tidy : cursor.IsTidy) (row : Nat) :
    cursor.Follows (cursor.ensureRow row) := by
  obtain ⟨epoch_eq, clear⟩ := fetchTo_keeps
    (P := fun page => page.epoch = cursor.epoch ∧ page.IsClear)
    (fun page kept needs => by
      obtain ⟨epoch_eq, clear⟩ := fetchPage_keeps kept.2 needs (page.skipFor row)
      exact ⟨epoch_eq.trans kept.1, clear⟩)
    (fun page e kept => kept) cursor.checkEpoch (checkEpoch_keeps tidy)
  exact ⟨.inl epoch_eq, clear⟩

theorem follows_close (cursor : Cursor ν) : cursor.Follows cursor.close.state :=
  ⟨.inl (epoch_close cursor), isClear_of_present (present_close cursor)⟩

/-- An answer is taken in the epoch of its page. -/
theorem epoch_of_query {request : QueryRequest} {outcome : Outcome Unit (Cursor ν)}
    (asked : cursor.query request = outcome) (present : ¬ cursor.result.suspended = true) :
    outcome.state.epoch = cursor.epoch ∧ ¬ outcome.state.result.suspended = true := by
  obtain ⟨session, events, -, taken⟩ := exists_taking_of_query asked
  rw [taken]
  exact ⟨rfl, present_taking present session events⟩

theorem follows_runStatement (binds : BindSet) (cursor : Cursor ν) :
    cursor.Follows (cursor.runStatement binds).state := by
  have course := runs_runStatement binds cursor
  have present := present_close cursor
  generalize cursor.runStatement binds = outcome at course ⊢
  generalize cursor.statementStory binds = story at course
  -- the epoch is taken over only with an answer
  cases course with
  | unasked e => exact follows_close cursor
  | @failed recorder disk sql options e after _ asked =>
    have answer := epoch_of_query asked present
    obtain ⟨recorder', disk', given_up⟩ := abandonRecorder_eq after
    rw [Outcome.state, given_up]
    exact ⟨.inl (answer.1.trans (epoch_close cursor)), isClear_of_present answer.2⟩
  | answered recorder disk sql options _ asked =>
    have answer := epoch_of_query asked present
    exact ⟨.inr rfl, isClear_of_present answer.2⟩

theorem follows_attach (id : ResultSetId) (path : Option String) (cursor : Cursor ν) :
    cursor.Follows (cursor.attach id path).state := by
  have course := attaches_attach id path cursor
  -- what is attached to is empty, and not given up
  have present : ¬ (cursor.emptied id).result.suspended = true := by
    rw [emptied, detachRecorder_eq]
    exact Bool.false_ne_true
  have epoch_eq : (cursor.emptied id).epoch = cursor.epoch := by
    rw [emptied, detachRecorder_eq]
    exact epoch_closeOther id cursor
  generalize cursor.attach id path = outcome at course ⊢
  cases course with
  | unasked e => exact ⟨.inl epoch_eq, isClear_of_present present⟩
  | failed recorder disk options _ asked =>
    have answer := epoch_of_query asked present
    exact ⟨.inl (answer.1.trans epoch_eq), isClear_of_present answer.2⟩
  | answered recorder disk options _ asked =>
    have answer := epoch_of_query asked present
    exact ⟨.inr rfl, isClear_of_present answer.2⟩

theorem follows_openFile (clear : cursor.IsClear) (path : String) :
    cursor.Follows (cursor.openFile path).state := by
  have course := unpacks_openFile path cursor
  have present := present_close cursor
  generalize cursor.openFile path = outcome at course ⊢
  cases course with
  | refused e => exact ⟨.inl rfl, clear⟩
  | unread e => exact follows_close cursor
  | torn recorder disk | read recorder disk =>
    refine ⟨.inl (epoch_close cursor),
      isClear_of_present (present_taking ?_ cursor.close.state.session _)⟩
    exact present

omit [Network ν] in
/-- What is remembered of an error does not matter. -/
theorem follows_noting {action : Cursor ν → Outcome Unit (Cursor ν)}
    (follows : ({ cursor with error := none } : Cursor ν).Follows
      (action { cursor with error := none }).state) :
    cursor.Follows (cursor.noting action).state := by
  obtain ⟨error, noted, -⟩ := noting_cases action cursor
  rw [noted]
  exact ⟨follows.epoch_eq, follows.clear⟩

theorem Deed.follows (tidy : cursor.IsTidy) (deed : Deed ν) :
    cursor.Follows (deed.after cursor) := by
  by_cases ofSession : deed.ofSession = true
  · obtain ⟨session, moved⟩ := after_of_ofSession ofSession cursor
    rw [moved]
    exact ⟨.inl rfl, tidy.clear⟩
  · -- only the answer to a statement, and a new cursor, change the epoch
    cases deed with
    | acts act =>
      cases act with
      | sends sql =>
        have ran :
            (cursor.prepare sql).Follows ((cursor.prepare sql).noting (runStatement {})).state :=
          follows_noting (follows_runStatement {} _)
        exact ⟨ran.epoch_eq, ran.clear⟩
      | executes => exact follows_noting (follows_runStatement cursor.binds _)
      | reads row look => exact follows_ensureRow tidy row
      | closes => exact follows_close cursor
      | suspends =>
        show cursor.Follows cursor.suspendResultSet
        rw [suspendResultSet_eq]
        exact ⟨.inl rfl, fun _ => ⟨rfl, rfl⟩⟩
      | resumes id => exact follows_noting (follows_attach id none _)
      | resumesCached id path => exact follows_noting (follows_attach id (some path) _)
      | sets settings => exact ⟨.inl rfl, tidy.clear⟩
      | finds disk => exact ⟨.inl rfl, tidy.clear⟩
      | parks | reclaims => exact absurd rfl ofSession
    | calls call => exact absurd rfl ofSession
    | opensCached path =>
      have clear : ({ cursor with error := none } : Cursor ν).IsClear := tidy.clear
      exact follows_noting (follows_openFile clear path)
    | renews => exact ⟨.inr rfl, isClear_of_present Bool.false_ne_true⟩

/-- **Every cursor is tidy**, whatever was done with it. -/
theorem IsTidy.afterDeeds (tidy : cursor.IsTidy) (deeds : List (Deed ν)) :
    (cursor.afterDeeds deeds).IsTidy := by
  refine afterDeeds_keeps (fun cursor deed _ tidy => ?_)
    (fun _ _ => trivial) tidy
  exact (deed.follows tidy).isTidy tidy (deed.moves cursor).epoch_le

end Cursor

end ProxyClient
