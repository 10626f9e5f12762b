/-
ProxyClient/Proofs/Cursor/Leaving.lean

Cursors that have left their result set to the server.  Such a cursor asks
nothing more of it: the page was given up, or the session was parked or
replaced since, and then the page is given up before it is used again
(`Cursor.IsLeft`).  So reading brings nothing and closing does no more than to
close the recorder without an end frame, whichever comes first:

    disk behind either  =  disk of detachRecorder

and a cursor that attaches begins as if it had done nothing before
(`IsLeft.resumeCached_eq`).
-/
import ProxyClient.Proofs.Cursor.Opening
import ProxyClient.Proofs.Paging.Page

namespace ProxyClient

namespace Cursor

variable {ν : Type} {cursor : Cursor ν}

/-- To close the recorder does not depend on the page. -/
theorem detachRecorder_with (cursor : Cursor ν) (result : ResultSet) (source : Option CacheReader)
    (error : Option (String × Int64)) :
    ({ cursor with result, source, error } : Cursor ν).detachRecorder =
      { cursor with result, source, error, recorder := none, disk := cursor.detachRecorder.disk } := by
  obtain ⟨session, disk, now, sql, binds, substitutions, validates, bufferSize, columnInfo,
    nullsAsEmpty, cacheTarget, cacheTtl, - | writer, former, page, epoch, last⟩ := cursor <;> rfl

theorem detachRecorder_eq (cursor : Cursor ν) :
    cursor.detachRecorder =
      { cursor with recorder := none, disk := cursor.detachRecorder.disk } :=
  detachRecorder_with cursor cursor.result cursor.source cursor.error

theorem detachRecorder_of_none (none_ : cursor.recorder = none) :
    cursor.detachRecorder = cursor := by
  rw [detachRecorder]
  rw [none_]

/-- The cursor has closed its recorder, and done nothing else that others notice. -/
structure Detaches (cursor after : Cursor ν) : Prop where
  /-- The session is as it was. -/
  session_eq : after.session = cursor.session
  /-- There is no recorder any more. -/
  recorder_eq : after.recorder = none
  /-- On the disk is what the recorder left. -/
  disk_eq : after.disk = cursor.detachRecorder.disk

/-- The cursor has left its result set: nothing is recorded and there is nothing
to ask for, or the session is no longer the one of the result set. -/
structure IsLeft (cursor : Cursor ν) : Prop where
  /-- Rows come from no file. -/
  source_eq : cursor.source = none
  /-- The page is given up, or will be. -/
  given_up : cursor.recorder = none ∧ cursor.openAtServer? = none ∨
    cursor.result.id.isSome = true ∧ cursor.result.suspended = false ∧
      cursor.epoch < cursor.session.connection.epoch

theorem IsIdle.isLeft (idle : cursor.IsIdle) : cursor.IsLeft :=
  ⟨idle.source_eq, .inl ⟨idle.recorder_eq, idle.openAtServer?_eq⟩⟩

/-- Nothing is fetched if there is nothing to ask for. -/
theorem needsFetch_of_openAtServer?_eq_none (live : cursor.source = none)
    (nothing : cursor.openAtServer? = none) (row : Nat) : cursor.result.needsFetch row = false := by
  unfold openAtServer? at nothing
  rw [ResultSet.needsFetch]
  rw [live] at nothing
  cases ended : cursor.result.ended
  · cases suspended : cursor.result.suspended
    · rw [ended, suspended] at nothing
      rw [show cursor.result.id = none from nothing]
      simp
    · simp
  · simp

namespace IsLeft

/-- A later session does not bring it back. -/
theorem withSession (left : cursor.IsLeft) {session : Session ν}
    (later : cursor.session.connection.epoch ≤ session.connection.epoch) :
    ({ cursor with session } : Cursor ν).IsLeft := by
  refine ⟨left.source_eq, left.given_up.imp_right ?_⟩
  rintro ⟨known, present, older⟩
  exact ⟨known, present, Nat.lt_of_lt_of_le older later⟩

/-- Where the session is another, the page is given up and the recorder closed. -/
theorem checkEpoch_eq (left : cursor.IsLeft) :
    ∃ result : ResultSet,
      cursor.checkEpoch =
        { cursor with result, recorder := none, disk := cursor.detachRecorder.disk } ∧
      cursor.checkEpoch.openAtServer? = none := by
  by_cases far : cursor.source.isNone ∧ cursor.result.id.isSome ∧ !cursor.result.suspended ∧
      cursor.session.connection.epoch ≠ cursor.epoch
  · -- the session is another, and the page is given up here
    have eq : cursor.checkEpoch =
        ({ cursor with result := cursor.result.suspend } : Cursor ν).detachRecorder := by
      rw [checkEpoch]
      rw [if_pos far]
    refine ⟨cursor.result.suspend, ?_, ?_⟩
    · rw [eq]
      exact detachRecorder_with cursor cursor.result.suspend cursor.source cursor.error
    · rw [eq, detachRecorder_with cursor cursor.result.suspend cursor.source cursor.error]
      rw [openAtServer?]
      rw [if_neg]
      rintro ⟨-, -, present⟩
      contradiction
  · -- nothing is done, so the page was given up before
    have eq : cursor.checkEpoch = cursor := by
      rw [checkEpoch]
      rw [if_neg far]
    rcases left.given_up with ⟨none_, nothing⟩ | ⟨known, present, older⟩
    · refine ⟨cursor.result, ?_, ?_⟩
      · rw [eq]
        exact (detachRecorder_of_none none_).symm.trans (detachRecorder_eq cursor)
      · rw [eq, nothing]
    · refine absurd ⟨?_, known, ?_, Nat.ne_of_gt older⟩ far
      · rw [left.source_eq]
        rfl
      · rw [present]
        rfl

/-- With that the cursor has left for good. -/
theorem checkEpoch (left : cursor.IsLeft) : cursor.checkEpoch.IsLeft := by
  obtain ⟨result, eq, nothing⟩ := left.checkEpoch_eq
  refine ⟨?_, .inl ⟨?_, nothing⟩⟩
  · rw [eq]
    exact left.source_eq
  · rw [eq]

theorem detaches_checkEpoch (left : cursor.IsLeft) : cursor.Detaches cursor.checkEpoch := by
  obtain ⟨result, eq, -⟩ := left.checkEpoch_eq
  rw [eq]
  exact ⟨rfl, rfl, rfl⟩

theorem forget (left : cursor.IsLeft) :
    cursor.checkEpoch.forget = cursor.detachRecorder.forget := by
  obtain ⟨result, eq, -⟩ := left.checkEpoch_eq
  rw [eq, detachRecorder_eq]
  rfl

end IsLeft

/-- A cursor leaves its result set by giving the page up. -/
theorem suspendResultSet_eq (cursor : Cursor ν) :
    cursor.suspendResultSet =
      { cursor with
        result := cursor.result.suspend, source := none, recorder := none
        disk := cursor.detachRecorder.disk } :=
  detachRecorder_with cursor cursor.result.suspend none cursor.error

theorem isLeft_suspendResultSet (cursor : Cursor ν) : cursor.suspendResultSet.IsLeft := by
  rw [suspendResultSet_eq]
  refine ⟨rfl, .inl ⟨rfl, ?_⟩⟩
  rw [openAtServer?]
  rw [if_neg]
  rintro ⟨-, -, present⟩
  contradiction

theorem detaches_suspendResultSet (cursor : Cursor ν) :
    cursor.Detaches cursor.suspendResultSet := by
  rw [suspendResultSet_eq]
  exact ⟨rfl, rfl, rfl⟩

variable [Network ν]

namespace IsLeft

/-- A read brings nothing. -/
theorem ensureRow_eq (left : cursor.IsLeft) (row : Nat) :
    cursor.ensureRow row = cursor.checkEpoch := by
  obtain ⟨result, eq, nothing⟩ := left.checkEpoch_eq
  rw [ensureRow, fetchTo, dif_neg]
  rw [needsFetch_of_openAtServer?_eq_none left.checkEpoch.source_eq nothing]
  exact Bool.false_ne_true

/-- Closing asks nothing of the server. -/
theorem close_eq (left : cursor.IsLeft) : cursor.close = .ok () cursor.detachRecorder.forget := by
  obtain ⟨result, eq, nothing⟩ := left.checkEpoch_eq
  have none_ : cursor.checkEpoch.recorder = none := by
    rw [eq]
  rw [close, settle, none_]
  simp only [nothing]
  rw [← left.forget]
  rfl

theorem detaches_close (left : cursor.IsLeft) : cursor.Detaches cursor.close.state := by
  rw [left.close_eq, detachRecorder_eq]
  exact ⟨rfl, rfl, rfl⟩

/-- Nor does letting go of the cursor. -/
theorem release_eq (left : cursor.IsLeft) :
    cursor.release = (cursor.session, cursor.detachRecorder.disk) := by
  rw [release, left.close_eq, detachRecorder_eq]
  rfl

/-- An idle cursor in its place has no recorder. -/
theorem detaches_of_release (left : cursor.IsLeft) {other : Cursor ν} (idle : other.IsIdle)
    (same : (other.session, other.disk) = cursor.release) : cursor.Detaches other := by
  rw [left.release_eq] at same
  obtain ⟨session_eq, disk_eq⟩ := Prod.mk.inj same
  exact ⟨session_eq, idle.recorder_eq, disk_eq⟩

/-- Whatever else is attached to, nothing of the former result set is left. -/
theorem closeOther_eq (left : cursor.IsLeft) (id : ResultSetId) :
    ∃ after : Cursor ν, cursor.closeOther id = .ok () after ∧
      after.forget.detachRecorder = cursor.detachRecorder.forget := by
  have none_ : cursor.detachRecorder.forget.recorder = none := by
    rw [detachRecorder_eq]
    rfl
  unfold closeOther
  simp only
  split
  · refine ⟨cursor.checkEpoch, rfl, ?_⟩
    rw [left.forget, detachRecorder_of_none none_]
  · have none₁ : cursor.checkEpoch.recorder = none := by
      obtain ⟨result, eq, -⟩ := left.checkEpoch_eq
      rw [eq]
    refine ⟨_, left.checkEpoch.close_eq, ?_⟩
    rw [detachRecorder_of_none none₁, left.forget]
    exact detachRecorder_of_none none_

/-- **A cursor that has left attaches** as one that begins: its recorder is
closed, a recorder continues the file, and the server is asked. -/
theorem resumeCached_eq (left : cursor.IsLeft) (id : ResultSetId) (path : String) :
    cursor.resumeCached id path =
      match cursor.detachRecorder.cleared.continueRecorder path with
      | .error e after => .error e (after.note e)
      | .ok () armed =>
        match armed.query (.resume id armed.executeOptions) with
        | .error e after => .error e (after.note e)
        | .ok () after => .ok () after.opened := by
  have left' : ({ cursor with error := none } : Cursor ν).IsLeft := ⟨left.source_eq, left.given_up⟩
  obtain ⟨after, closed, eq⟩ := left'.closeOther_eq id
  have begins : ({ cursor with error := none } : Cursor ν).detachRecorder.forget =
      cursor.detachRecorder.cleared := by
    rw [detachRecorder_with cursor cursor.result cursor.source none, detachRecorder_eq cursor]
    rfl
  rw [resumeCached, noting, attach]
  simp only [closed, eq, begins]
  rcases cursor.detachRecorder.cleared.continueRecorder path with ⟨-, armed⟩ | ⟨e, armed⟩
  · simp only
    rcases armed.query (.resume id armed.executeOptions) with ⟨-, after⟩ | ⟨e, after⟩ <;> rfl
  · rfl

end IsLeft

end Cursor

end ProxyClient
