/-
ProxyClient/Proofs/Cursor/Beside.lean

Cursors beside the one that reads.  When a session is parked under a cursor,
another connection may reclaim it while the cursor is still there.  The
cursor has no link then, and what its recorder has taken is in the file to
the last byte (`Cursor.IsBeside`):

    whatever it does  →  disk and network are as they were

So the cursor that reads need not know of it, and it may come back later.
-/
import ProxyClient.Proofs.Cache.Recording
import ProxyClient.Proofs.Cursor.Leaving
import ProxyClient.Proofs.Session.Parking

namespace ProxyClient

namespace Cursor

variable {ν : Type} {cursor after : Cursor ν}

/-! ### Recorders without a backlog -/

/-- The recorder has handed over all that it has written. -/
def IsFlushed (cursor : Cursor ν) : Prop :=
  ∀ writer, cursor.recorder = some writer → writer.file.pending = []

theorem isFlushed_of_none (none_ : cursor.recorder = none) : cursor.IsFlushed := by
  intro writer there
  rw [none_] at there
  contradiction

/-- To close it changes nothing on the disk. -/
theorem IsFlushed.disk_detachRecorder (flushed : cursor.IsFlushed) :
    cursor.detachRecorder.disk = cursor.disk := by
  rw [detachRecorder]
  split
  · rfl
  · next writer there => exact CacheWriter.detach_of_nil (flushed writer there)

/-- Behind an answer there is no backlog. -/
theorem isFlushed_taking [Network ν] (cursor : Cursor ν) (session : Session ν)
    {answer events : List RowEvent} {batch : BatchEnd}
    (closed : answer = events ++ [.batchEnd batch]) : (cursor.taking session answer).IsFlushed := by
  intro writer there
  have taken := congrArg Prod.fst (taking_recorder cursor session answer)
  rw [closed] at taken there
  exact CacheWriter.pending_foldl_record events batch _ (taken.symm.trans there)

/-! ### Cursors in a session that is parked -/

/-- The cursor with the settings of another: the statement, its variables, how
rows are to be sent, where the next one is recorded, and the time. -/
def withSettings (cursor settings : Cursor ν) : Cursor ν :=
  { settings with
    session := cursor.session, disk := cursor.disk, recorder := cursor.recorder
    source := cursor.source, result := cursor.result, epoch := cursor.epoch }

/-- The cursor finds disk and network as others have left them. -/
def finding (cursor : Cursor ν) (disk : Disk) (traffic : Traffic ν) : Cursor ν :=
  { cursor with disk, session := { cursor.session with traffic } }

/-- What a cursor may do whose session is parked. -/
inductive Idles [Network ν] (cursor : Cursor ν) : Cursor ν → Prop
  /-- It reads. -/
  | reads {α : Type} (row : Nat) (look : ResultSet → α) :
      Idles cursor (Cursor.reading row look cursor).2
  /-- Its settings are changed. -/
  | sets (settings : Cursor ν) : Idles cursor (cursor.withSettings settings)
  /-- It leaves its result set. -/
  | leaves : Idles cursor cursor.suspendResultSet
  /-- It is closed. -/
  | closes : Idles cursor cursor.close.state
  /-- It is let go of, and there is another on its session. -/
  | renews {other : Cursor ν} (idle : other.IsIdle)
      (same : (other.session, other.disk) = cursor.release) : Idles cursor other

/-- The session of the cursor is parked, and the cursor has nothing to do with its
result set any more. -/
structure IsBeside (cursor : Cursor ν) : Prop where
  /-- It asks for nothing. -/
  left : cursor.IsLeft
  /-- It has no link. -/
  isParked : cursor.session.IsParked
  /-- It has nothing to write. -/
  flushed : cursor.IsFlushed

namespace IsBeside

/-- So it is whatever others do. -/
theorem finding (beside : cursor.IsBeside) (disk : Disk) (traffic : Traffic ν) :
    (cursor.finding disk traffic).IsBeside where
  left := ⟨beside.left.source_eq, beside.left.given_up⟩
  isParked := ⟨beside.isParked.usable, beside.isParked.gone⟩
  flushed := beside.flushed

/-- And when it closes its recorder. -/
theorem of_detaches (beside : cursor.IsBeside) (left : after.IsLeft)
    (detaches : cursor.Detaches after) :
    after.IsBeside ∧ after.disk = cursor.disk ∧
      after.session.traffic = cursor.session.traffic := by
  obtain ⟨session_eq, recorder_eq, disk_eq⟩ := detaches
  refine ⟨⟨left, ?_, isFlushed_of_none recorder_eq⟩, ?_, ?_⟩
  · rw [session_eq]
    exact beside.isParked
  · rw [disk_eq, beside.flushed.disk_detachRecorder]
  · rw [session_eq]

variable [Network ν]

/-- **Whatever it does, disk and network stay as they were.** -/
theorem idles (beside : cursor.IsBeside) (idles : cursor.Idles after) :
    after.IsBeside ∧ after.disk = cursor.disk ∧
      after.session.traffic = cursor.session.traffic := by
  have left := beside.left
  cases idles with
  | reads row look =>
    -- the page is not there any more, so nothing is fetched
    have stays : (Cursor.reading row look cursor).2 = cursor.checkEpoch := left.ensureRow_eq row
    rw [stays]
    exact beside.of_detaches left.checkEpoch left.detaches_checkEpoch
  | sets settings =>
    exact ⟨⟨⟨left.source_eq, left.given_up⟩, beside.isParked, beside.flushed⟩, rfl, rfl⟩
  | leaves =>
    exact beside.of_detaches cursor.isLeft_suspendResultSet cursor.detaches_suspendResultSet
  | closes => exact beside.of_detaches cursor.isIdle_close.isLeft left.detaches_close
  | renews idle same =>
    exact beside.of_detaches idle.isLeft (left.detaches_of_release idle same)

/-- To let go of it and of its connection does nothing either. -/
theorem release_eq (beside : cursor.IsBeside) :
    cursor.release.2 = cursor.disk ∧ cursor.release.1.release = cursor.session.traffic := by
  rw [beside.left.release_eq]
  exact ⟨beside.flushed.disk_detachRecorder, beside.isParked.release_eq⟩

end IsBeside

end Cursor

end ProxyClient
