/-
ProxyClient/Proofs/Cursor/Refusal.lean

Attaching in vain.  A cursor that attaches to a parked result set opens the
cache file first, and with that cuts an end frame off; then it asks the server.
If no description comes back, the recorder stays where it was opened, and the
cursor closes it as one that has seen all rows (`Cursor.bytesAt?_of_refused`):

    there was no file       →  a header with an end frame behind it
    there was a cache file  →  the same, and it has an end frame

So what was at the path is there again exactly if the file was not opened, or
had an end frame before (`Cursor.restores_refused`).
-/
import ProxyClient.Network.Script
import ProxyClient.Proofs.Cache.Cuts
import ProxyClient.Proofs.Cursor.Leaving
import ProxyClient.Proofs.Exchange.Journal

namespace ProxyClient

/-! ### Cache files -/

/-- The contents of a cache file. -/
structure CacheFile where
  /-- The header. -/
  header : CacheHeader
  /-- The description. -/
  describe : Describe
  /-- The rows. -/
  rows : List DataRow
  /-- There is an end frame. -/
  ended : Bool
  /-- The description is short enough for a frame. -/
  describe_fits : describe.frame.Fits
  /-- So is every row. -/
  rows_fit : ∀ row ∈ rows, row.frame.Fits

namespace CacheFile

open CacheWriter

/-- The bytes of the file. -/
def bytes (file : CacheFile) : Bytes :=
  recorded file.header file.describe file.rows ++ if file.ended then endFrame.encode else []

/-- The same result set, with an end frame or without. -/
def withEnd (file : CacheFile) (ended : Bool) : CacheFile :=
  { file with ended }

/-- The end frame can be told from the bytes. -/
theorem bytes_withEnd_inj (file : CacheFile) {ended ended' : Bool}
    (h : (file.withEnd ended).bytes = (file.withEnd ended').bytes) : ended = ended' := by
  have tails : (if ended then endFrame.encode else []) = (if ended' then endFrame.encode else []) :=
    List.append_cancel_left h
  have nonempty : endFrame.encode ≠ [] := endFrame.encode_ne_nil
  rcases ended with - | - <;> rcases ended' with - | -
  · rfl
  · exact absurd tails.symm nonempty
  · exact absurd tails nonempty
  · rfl

/-- The file is continued behind its last row. -/
theorem append (file : CacheFile) {path : String} {disk : Disk}
    (there : disk.bytesAt? path = some file.bytes) :
    ∃ id writer disk', disk.openFile path = .ok id ∧
      CacheWriter.append path disk = .ok writer disk' ∧
      Holds id disk (recorded file.header file.describe file.rows) true false (writer, disk') := by
  obtain ⟨id, found, bytes⟩ := Disk.openFile_of_bytesAt? there
  have stops := stops_of_closed file.ended (.inl rfl)
  rw [List.append_nil] at stops
  obtain ⟨writer, disk', appended, holds⟩ :=
    append_recorded found bytes file.describe_fits file.rows_fit stops
  exact ⟨id, writer, disk', found, appended, holds⟩

end CacheFile

/-- What was at a path is there again: nothing if there was nothing, and of a cache
file the header, the description and the rows, with an end frame at most if it had
one. -/
structure Disk.Restores (path : String) (found left : Disk) : Prop where
  /-- Where nothing was, there is nothing. -/
  absent : found.bytesAt? path = none → left.bytesAt? path = none
  /-- Where a cache file was, it is there again. -/
  file : ∀ file : CacheFile, found.bytesAt? path = some file.bytes →
    ∃ ended, left.bytesAt? path = some (file.withEnd ended).bytes ∧
      (ended = true → file.ended = true)

theorem Disk.restores_of_bytesAt?_eq {path : String} {found left : Disk}
    (same : left.bytesAt? path = found.bytesAt? path) : found.Restores path left where
  absent := same.trans
  file := fun file there => ⟨file.ended, same.trans there, id⟩

namespace Cursor

variable {ν : Type} {cursor after : Cursor ν}

variable [Network ν]

/-! ### Closing where there is no result set -/

/-- A recorder is closed as one that has seen all rows. -/
theorem disk_release_of_unknown (unknown : cursor.result.id = none) (live : cursor.source = none) :
    cursor.release.2 =
      match cursor.recorder with
      | some writer => writer.finish cursor.disk
      | none => cursor.disk := by
  rw [release_eq, checkEpoch_of_unknown unknown, settle]
  rcases cursor.recorder with - | writer
  · simp only [openAtServer?_of_unknown unknown]
    rfl
  · have nothing : ({ cursor with recorder := none } : Cursor ν).openAtServer? = none :=
      openAtServer?_of_unknown unknown
    have drained : ({ cursor with recorder := none } : Cursor ν).drain writer =
        .ok () (writer, { cursor with recorder := none }) :=
      drain_of_nothing writer live nothing
    simp only
    rw [drained]
    rfl

/-! ### Attaching -/

/-- The cursor when it has closed what it had open and is to attach to a result set.
So it finds the disk. -/
def vacated (id : ResultSetId) (cursor : Cursor ν) : Cursor ν :=
  (({ cursor with error := none } : Cursor ν).closeOther id).state.forget.detachRecorder

theorem isIdle_vacated (id : ResultSetId) (cursor : Cursor ν) : (cursor.vacated id).IsIdle := by
  rw [vacated, detachRecorder_eq]
  exact ⟨rfl, rfl, rfl, rfl⟩

section

variable {id : ResultSetId} {path : String} {e : Error}

/-- What could not be closed is given up. -/
theorem isIdle_of_closeOther_error (failed : cursor.closeOther id = .error e after) :
    after.IsIdle := by
  unfold closeOther at failed
  simp only at failed
  split at failed
  · contradiction
  · have idle := isIdle_close cursor.checkEpoch
    rw [failed] at idle
    exact idle

/-- An answer that lacks the description brings nothing. -/
theorem query_of_undescribed {request : QueryRequest}
    (expects : request.firstPhase = .waitingDescribe) (failed : cursor.query request = .error e after)
    (undescribed : after.result.id = none) : ∃ session, after = { cursor with session } := by
  rw [query_eq_ask] at failed
  obtain ⟨⟨session, events⟩, asked, rfl⟩ := Outcome.exists_of_mapState_eq_error failed
  have places : InPlace request.firstPhase events := by
    have places := (cursor.session.ask_inPlace request).1
    rw [asked] at places
    exact places
  rw [expects] at places
  rcases places.eq_nil_or_describe with rfl | ⟨describe, rest, rfl, behind⟩
  · exact ⟨session, rfl⟩
  · -- the page would have the identifier of the description
    rw [taking_result, List.foldl_cons, (behind.foldl_apply _).1] at undescribed
    contradiction

/-- **A cursor that attaches in vain** has opened no file, or has its recorder
where it was opened. -/
theorem resumeCached_error (failed : cursor.resumeCached id path = .error e after)
    (undescribed : after.result.id = none) :
    after.source = none ∧
      (after.recorder = none ∧ after.disk = (cursor.vacated id).disk ∨
        ∃ armed, (cursor.vacated id).continueRecorder path = .ok () armed ∧
          after.recorder = armed.recorder ∧ after.disk = armed.disk) := by
  rw [resumeCached, noting] at failed
  split at failed
  · contradiction
  · next e' last attached =>
    obtain ⟨-, rfl⟩ := EStateM.Result.error.inj failed
    have unknown : last.result.id = none := undescribed
    show last.source = none ∧ (last.recorder = none ∧ last.disk = _ ∨
      ∃ armed : Cursor ν, _ ∧ last.recorder = armed.recorder ∧ last.disk = armed.disk)
    unfold attach at attached
    split at attached
    · next e'' left closed =>
      -- what was open could not be closed
      obtain ⟨-, rfl⟩ := EStateM.Result.error.inj attached
      have idle := isIdle_of_closeOther_error closed
      refine ⟨idle.source_eq, .inl ⟨idle.recorder_eq, ?_⟩⟩
      rw [vacated, closed]
      show left.disk = left.forget.detachRecorder.disk
      rw [detachRecorder_of_none (show left.forget.recorder = none from idle.recorder_eq)]
      rfl
    · next left closed =>
      have vacant : left.forget.detachRecorder = cursor.vacated id := by
        rw [vacated, closed]
        rfl
      have idle := cursor.isIdle_vacated id
      rw [vacant] at attached
      simp only at attached
      split at attached
      · next e'' left' unopened =>
        -- the file could not be opened
        obtain ⟨-, rfl⟩ := EStateM.Result.error.inj attached
        obtain rfl := continueRecorder_error unopened
        exact ⟨idle.source_eq, .inl ⟨idle.recorder_eq, rfl⟩⟩
      · next armed opened =>
        split at attached
        · next e'' left' refused =>
          -- the server was asked, and did not describe the result set
          obtain ⟨-, rfl⟩ := EStateM.Result.error.inj attached
          obtain ⟨session, rfl⟩ := query_of_undescribed rfl refused unknown
          refine ⟨?_, .inr ⟨armed, opened, rfl, rfl⟩⟩
          obtain ⟨writer, disk, rfl, -⟩ := continueRecorder_ok opened
          exact idle.source_eq
        · contradiction

/-- **What becomes of the file** when the cursor is let go of. -/
theorem bytesAt?_of_refused (failed : cursor.resumeCached id path = .error e after)
    (undescribed : after.result.id = none) :
    after.recorder = none ∧ after.release.2 = (cursor.vacated id).disk ∨
      after.recorder ≠ none ∧
      ((cursor.vacated id).disk.bytesAt? path = none →
        ∃ header : CacheHeader, after.release.2.bytesAt? path =
          some (header.encode ++ CacheWriter.endFrame.encode)) ∧
      ∀ file : CacheFile, (cursor.vacated id).disk.bytesAt? path = some file.bytes →
        after.release.2.bytesAt? path = some (file.withEnd true).bytes := by
  obtain ⟨live, ⟨unopened, disk_eq⟩ | ⟨armed, opened, recorder_eq, disk_eq⟩⟩ :=
    resumeCached_error failed undescribed
  · left
    refine ⟨unopened, ?_⟩
    rw [disk_release_of_unknown undescribed live, unopened]
    exact disk_eq
  · right
    obtain ⟨writer, disk, rfl, how⟩ := continueRecorder_ok opened
    have left_ : after.release.2 = writer.finish disk := by
      rw [disk_release_of_unknown undescribed live, recorder_eq, disk_eq]
    rw [left_]
    refine ⟨by rw [recorder_eq]; exact Option.some_ne_none writer, ?_, ?_⟩
    · intro absent
      rcases how with appended | ⟨missing, created⟩
      · -- a file that was continued was there
        obtain ⟨fileId, found⟩ := CacheWriter.openFile_of_append appended
        rw [Disk.bytesAt?_eq found] at absent
        contradiction
      · have has : disk.Has writer.file.id := by
          refine Disk.has_of_createFile_of_occupied ?_ (CacheWriter.create_ok created).1
          intro other found
          rw [missing] at found
          contradiction
        obtain ⟨fresh, found, -⟩ := CacheWriter.createWithExpiry_of_has created has
        obtain ⟨bytes, only⟩ := fresh.finish
        exact ⟨⟨writer.expiresAt⟩, by rw [only.bytesAt?_eq found, bytes]⟩
    · intro file there
      obtain ⟨fileId, writer', disk', found, appended', holds⟩ := file.append there
      rcases how with appended | ⟨missing, -⟩
      · obtain ⟨rfl, rfl⟩ := EStateM.Result.ok.inj (appended'.symm.trans appended)
        obtain ⟨bytes, only⟩ := holds.finish
        rw [only.bytesAt?_eq found]
        exact congrArg some bytes
      · rw [missing] at found
        contradiction

/-- **A failed attach leaves the path as it was** exactly if the file was not opened,
or had an end frame.  Nothing, or a cache file, was at the path when the cursor
came to open it; the attach failed, whatever the session and the server did, and
no description was taken. -/
theorem restores_refused (failed : cursor.resumeCached id path = .error e after)
    (undescribed : after.result.id = none)
    (wellFormed : (cursor.vacated id).disk.bytesAt? path = none ∨
      ∃ file : CacheFile, (cursor.vacated id).disk.bytesAt? path = some file.bytes) :
    after.release.2 = after.close.state.disk ∧
      ((cursor.vacated id).disk.Restores path after.release.2 ↔
        after.recorder = none ∨
          ∃ file : CacheFile, file.ended = true ∧
            (cursor.vacated id).disk.bytesAt? path = some file.bytes) := by
  refine ⟨rfl, ?_⟩
  rcases bytesAt?_of_refused failed undescribed with ⟨unopened, same⟩ | ⟨opened, created, completed⟩
  · -- no recorder was begun, and the file is as it was
    refine iff_of_true ?_ (.inl unopened)
    exact Disk.restores_of_bytesAt?_eq (by rw [same])
  · constructor
    · intro restores
      rcases wellFormed with absent | ⟨file, there⟩
      · -- a new file is there, with a header
        obtain ⟨header, left⟩ := created absent
        rw [restores.absent absent] at left
        contradiction
      · -- the file has an end frame, and is restored only if it had one
        obtain ⟨ended, left, only⟩ := restores.file file there
        rw [completed file there] at left
        obtain rfl : true = ended := file.bytes_withEnd_inj (Option.some.inj left)
        exact .inr ⟨file, only rfl, there⟩
    · rintro (unopened | ⟨file, ended, there⟩)
      · contradiction
      · apply Disk.restores_of_bytesAt?_eq
        have same : file.withEnd true = file := by
          rw [CacheFile.withEnd, ← ended]
        rw [completed file there, there, same]

end

/-- A file with one row. -/
def oneRowFile (ended : Bool) : CacheFile where
  header := ⟨0⟩
  describe := Describe.ofParts ⟨7, 0, -1, -1, 0, 1⟩ []
  rows := [DataRow.ofValues [some (Bytes.ofText "r0")]]
  ended := ended
  describe_fits := Describe.fits_ofParts rfl []
  rows_fit := by
    intro row mem
    obtain rfl := List.mem_singleton.mp mem
    decide +kernel

/-- A cursor on a server that answers with an error.  One of its files has an end
frame, and one has not. -/
def refusedCursor : Cursor ScriptedNetwork :=
  let report : ErrorReport := ⟨.unknownResultSet, 0, ""⟩
  let answer : Frame := ⟨ServerMessage.Kind.error.toByte, report.payload⟩
  onSession
    { Session.answeredOnce with
      traffic := { network := { waiting := [], links := [[.bytes answer.encode]] } } }
    { entries := [(["whole"], .file 0), (["parked"], .file 1)]
      contents := [(oneRowFile true).bytes, (oneRowFile false).bytes] }
    0

/-- What is known of the file that has an end frame. -/
theorem restores_refused_whole :
    ∃ e after, refusedCursor.resumeCached 7 "whole" = .error e after ∧
      after.result.id = none ∧
      (refusedCursor.vacated 7).disk.bytesAt? "whole" = some (oneRowFile true).bytes ∧
      (refusedCursor.vacated 7).disk.Restores "whole" after.release.2 := by
  obtain ⟨e, failed⟩ := Outcome.exists_eq_error
    (show (refusedCursor.resumeCached 7 "whole").toExcept.toBool = false by decide +kernel)
  have undescribed : (refusedCursor.resumeCached 7 "whole").state.result.id = none := by
    decide +kernel
  have there : (refusedCursor.vacated 7).disk.bytesAt? "whole" = some (oneRowFile true).bytes := by
    decide +kernel
  exact ⟨e, _, failed, undescribed, there,
    (restores_refused failed undescribed (.inr ⟨_, there⟩)).2.mpr (.inr ⟨_, rfl, there⟩)⟩

/-- **A refusal ends a file** that was to be continued, and leaves one where none was. -/
theorem refused_ends_files :
    let left (path : String) := (refusedCursor.resumeCached 7 path).state.release.2
    (∀ path ∈ ["parked", "new"],
      (refusedCursor.resumeCached 7 path).toExcept.toBool = false ∧
        (refusedCursor.resumeCached 7 path).state.result.id = none) ∧
      refusedCursor.disk.bytesAt? "parked" = some (oneRowFile false).bytes ∧
      refusedCursor.disk.bytesAt? "new" = none ∧
      ¬ refusedCursor.disk.Restores "parked" (left "parked") ∧
      ¬ refusedCursor.disk.Restores "new" (left "new") := by
  intro left
  have parked : refusedCursor.disk.bytesAt? "parked" = some (oneRowFile false).bytes := by
    decide +kernel
  have absent : refusedCursor.disk.bytesAt? "new" = none := by
    decide +kernel
  refine ⟨by decide +kernel, parked, absent, ?_, ?_⟩
  · -- the parked file has got an end frame
    intro restores
    obtain ⟨ended, there, only⟩ := restores.file (oneRowFile false) parked
    have completed : (left "parked").bytesAt? "parked" = some (oneRowFile true).bytes := by
      decide +kernel
    rw [completed] at there
    obtain rfl : true = ended :=
      (oneRowFile false).bytes_withEnd_inj (Option.some.inj there)
    exact absurd (only rfl) Bool.false_ne_true
  · -- the new file is left behind
    intro restores
    have created : ((left "new").bytesAt? "new").isSome = true := by
      decide +kernel
    rw [restores.absent absent] at created
    contradiction

end Cursor

end ProxyClient
