/-
ProxyClient/Proofs/Cursor/Sparing.lean

Rejected statements spare the files.  A statement opens its target before the server is
asked, and creates it if there is none; but the target is emptied only by the first
frame.  So what a statement leaves that was never described is

    no target, or not asked        →  the disk as the closing left it
    target created for it          →  its name is removed again
    target was there, not empty    →  it is closed as it was

(`Cursor.rejected_statement_spares_files`).  Closing may complete a file, and that may
be the target itself; but a file that holds anything is never left empty
(`Disk.IsFilled`), so it does not matter when the target is looked at.
-/
import ProxyClient.Proofs.Cursor.Failure
import ProxyClient.Proofs.Cursor.Recorders
import ProxyClient.Proofs.Cursor.Settings

namespace ProxyClient

/-! ### Files that hold something -/

namespace Disk

variable {disk disk' : Disk} {id : FileId} {path : String}

/-- There is no file at the path, or it is not empty. -/
def IsFilled (disk : Disk) (path : String) : Prop :=
  ∀ id, disk.openFile path = .ok id → disk.bytesOf id ≠ []

theorem overwrite_ne_nil {old new : Bytes} (some_ : old ≠ [] ∨ new ≠ []) (position : Nat) :
    overwrite old position new ≠ [] := by
  by_cases nothing : new = []
  · rw [overwrite, if_pos (List.isEmpty_iff.mpr nothing)]
    exact some_.resolve_right (absurd nothing)
  · rw [overwrite, if_neg fun empty => nothing (List.isEmpty_iff.mp empty)]
    simp [nothing]

end Disk

namespace OutputFile

variable {file : OutputFile} {disk : Disk} {id : FileId} {bytes : Bytes}

/-- A file holds something, on the disk or in the buffer before it. -/
structure Fills (id : FileId) (state : OutputFile × Disk) : Prop where
  /-- The file exists. -/
  has : state.2.Has id
  /-- It is not empty, or will not be when the buffer is emptied. -/
  filled : state.2.bytesOf id ≠ [] ∨ state.1.id = id ∧ state.1.pending ≠ []

theorem fills_of_bytesOf (filled : disk.bytesOf id ≠ []) (file : OutputFile) :
    Fills id (file, disk) :=
  ⟨Disk.has_of_bytesOf_ne_nil filled, .inl filled⟩

/-- What is done to another file does not matter. -/
theorem Fills.of_keeps {after : OutputFile × Disk} (fills : Fills id (file, disk))
    (other : file.id ≠ id) (keeps : file.Keeps disk after) : Fills id after := by
  have filled : disk.bytesOf id ≠ [] := fills.filled.resolve_right fun here => other here.1
  refine ⟨(keeps.only.has_iff id).mpr fills.has, .inl ?_⟩
  rw [keeps.only.bytesOf_eq id (Ne.symm other)]
  exact filled

theorem bytesOf_writeThrough_ne_nil (has : disk.Has id)
    (filled : disk.bytesOf id ≠ [] ∨ file.id = id ∧ bytes ≠ []) :
    (file.writeThrough bytes disk).2.bytesOf id ≠ [] := by
  by_cases same : file.id = id
  · subst same
    show (disk.setBytes file.id _).bytesOf file.id ≠ []
    rw [Disk.bytesOf_setBytes has]
    exact Disk.overwrite_ne_nil (filled.imp_right And.right) _
  · show (disk.setBytes file.id _).bytesOf id ≠ []
    rw [Disk.bytesOf_setBytes_of_ne (Ne.symm same)]
    exact filled.resolve_right fun here => same here.1

/-- **With the buffer emptied it is on the disk.** -/
theorem bytesOf_flush_ne_nil (fills : Fills id (file, disk)) :
    (file.flush disk).2.bytesOf id ≠ [] := by
  show ((⟨file.id, file.position, []⟩ : OutputFile).writeThrough file.pending disk).2.bytesOf id ≠ []
  exact bytesOf_writeThrough_ne_nil fills.has fills.filled

/-- A file that was not empty is not empty when something was written, and neither is one
into which bytes were written. -/
theorem fills_write (has : disk.Has id)
    (filled : disk.bytesOf id ≠ [] ∨ file.id = id ∧ (file.pending ≠ [] ∨ bytes ≠ [])) :
    Fills id (file.write bytes disk) := by
  have has' : (file.write bytes disk).2.Has id :=
    ((keeps_write file disk bytes).only.has_iff id).mpr has
  have appended (held : file.pending ≠ [] ∨ bytes ≠ []) : file.pending ++ bytes ≠ [] :=
    held.elim (List.append_ne_nil_of_left_ne_nil · _) (List.append_ne_nil_of_right_ne_nil _)
  refine ⟨has', ?_⟩
  rw [write]
  simp only
  split
  · -- the bytes stay in the buffer
    exact filled.imp_right (And.imp_right appended)
  · by_cases tooLong : bufferSize - file.pending.length < bytes.length
    · -- the buffer is emptied into the file first
      have flushed : (file.flush disk).2.bytesOf id ≠ [] ∨ file.id = id ∧ bytes ≠ [] := by
        rcases filled with there | ⟨same, held | more⟩
        · exact .inl (bytesOf_flush_ne_nil ⟨has, .inl there⟩)
        · exact .inl (bytesOf_flush_ne_nil ⟨has, .inr ⟨same, held⟩⟩)
        · exact .inr ⟨same, more⟩
      rw [if_pos tooLong]
      split
      · exact .inl (bytesOf_writeThrough_ne_nil
          (((keeps_flush file disk).only.has_iff id).mpr has) flushed)
      · exact flushed
    · rw [if_neg tooLong]
      split
      · next large =>
        have more : bytes ≠ [] := by
          intro nothing
          rw [nothing] at large
          contradiction
        exact .inl (bytesOf_writeThrough_ne_nil has
          (filled.imp_right fun here => ⟨here.1, more⟩))
      · -- they just fill it
        exact filled.imp_right (And.imp_right appended)

end OutputFile

namespace CacheWriter

variable {writer : CacheWriter} {disk : Disk} {id : FileId}

/-- A file holds something, perhaps in the buffer of the writer. -/
abbrev Fills (id : FileId) (state : CacheWriter × Disk) : Prop :=
  OutputFile.Fills id (state.1.file, state.2)

/-- A frame does not leave a file empty: either the writer has another file, or the frame
is in it. -/
theorem fills_writeFrame (fills : Fills id (writer, disk)) (frame : Frame) :
    Fills id (writer.writeFrame frame disk) := by
  have keeps := writer.keeps_writeFrame frame disk
  by_cases same : writer.file.id = id
  · -- no frame is empty, so the file is not afterwards
    have written (file : OutputFile) (before : Disk) (id_eq : file.id = id) (has : before.Has id) :
        OutputFile.Fills id (file.write frame.encode before) :=
      OutputFile.fills_write has (.inr ⟨id_eq, .inr frame.encode_ne_nil⟩)
    rw [writeFrame]
    by_cases started : writer.started
    · rw [if_pos started]
      exact written writer.file disk same fills.has
    · rw [if_neg started]
      have emptied := OutputFile.keeps_truncate writer.file disk
      have headed := emptied.trans (OutputFile.keeps_write (writer.file.truncate disk).1
        (writer.file.truncate disk).2 (CacheHeader.encode ⟨writer.expiresAt⟩))
      exact written _ _ (headed.id_eq.trans same) ((headed.only.has_iff id).mpr fills.has)
  · -- another file
    exact OutputFile.Fills.of_keeps fills same keeps

theorem fills_flush (fills : Fills id (writer, disk)) : Fills id (writer.flush disk) :=
  OutputFile.fills_of_bytesOf (OutputFile.bytesOf_flush_ne_nil fills) _

theorem fills_batchEnd (fills : Fills id (writer, disk)) (ended : Bool) :
    Fills id (writer.batchEnd ended disk) := by
  rw [batchEnd]
  by_cases first : ended ∧ !writer.finished
  · rw [if_pos first]
    have written : Fills id ({ (writer.writeFrame endFrame disk).1 with finished := true },
        (writer.writeFrame endFrame disk).2) := fills_writeFrame fills endFrame
    exact fills_flush written
  · rw [if_neg first]
    exact fills_flush fills

/-- No event leaves a file empty. -/
theorem fills_apply (fills : Fills id (writer, disk)) (event : RowEvent) :
    Fills id (writer.apply event disk) := by
  cases event with
  | describe d =>
    rw [apply]
    simp only
    split
    · exact fills
    · exact fills_writeFrame fills d.frame
  | outputBinds binds => exact fills
  | row data => exact fills_writeFrame fills data.frame
  | batchEnd batch => exact fills_batchEnd fills batch.endOfResultSet

theorem fills_foldl {state : CacheWriter × Disk} (fills : Fills id state)
    (events : List RowEvent) :
    Fills id (events.foldl (fun state event => state.1.apply event state.2) state) := by
  induction events generalizing state with
  | nil => exact fills
  | cons event events ih => exact ih (fills_apply fills event)

/-- Closing a writer does not leave a file empty either. -/
theorem bytesOf_detach_ne_nil (fills : Fills id (writer, disk)) :
    (writer.detach disk).bytesOf id ≠ [] :=
  OutputFile.bytesOf_flush_ne_nil fills

theorem bytesOf_finish_ne_nil (fills : Fills id (writer, disk)) :
    (writer.finish disk).bytesOf id ≠ [] := by
  rw [finish]
  by_cases finished : writer.finished
  · rw [if_pos finished]
    exact bytesOf_detach_ne_nil fills
  · rw [if_neg finished]
    exact bytesOf_detach_ne_nil (fills_batchEnd fills true)

end CacheWriter

namespace Cursor

variable {ν : Type} [Network ν] {cursor : Cursor ν}

/-! ### Closing -/

/-- **Closing leaves no file empty that was not.** -/
theorem isFilled_close {path : String} (filled : cursor.disk.IsFilled path) :
    cursor.close.state.disk.IsFilled path := by
  intro id found
  obtain ⟨file, only⟩ := onlyChanges_close cursor
  rw [Disk.openFile_congr only.entries_eq] at found
  have before := filled id found
  rcases disk_close_cases cursor with same | ⟨writer, events, -, state, taken, closed⟩
  · rw [same]
    exact before
  · -- closing only adds to a file
    have fills : CacheWriter.Fills id (writer, cursor.disk) :=
      OutputFile.fills_of_bytesOf before writer.file
    have handed := CacheWriter.fills_foldl fills events
    rw [taken] at handed
    rcases closed with detached | finished
    · rw [detached]
      exact CacheWriter.bytesOf_detach_ne_nil handed
    · rw [finished]
      exact CacheWriter.bytesOf_finish_ne_nil handed

/-! ### Statements -/

omit [Network ν] in
/-- A target that is given up before anything was recorded leaves the files as they were. -/
theorem sameFiles_abandonRecorder {start armed : Cursor ν} (idle : start.IsIdle)
    (filled : ∀ path, start.cacheTarget = some path → start.disk.IsFilled path)
    (created : start.createTarget = .ok () armed) (session : Session ν) :
    start.disk.SameFiles ({ armed with session } : Cursor ν).abandonRecorder.disk := by
  rcases createTarget_cases created with ⟨-, rfl⟩ | ⟨path, writer, disk, target, opened, rfl⟩
  · have none_ : ({ armed with session } : Cursor ν).recorder = none := idle.recorder_eq
    rw [abandonRecorder, none_]
    exact .refl _
  · exact CacheWriter.sameFiles_abandon (filled path target) opened

/-- A statement that is never described fails, and leaves the files as the closing left
them. -/
theorem runStatement_of_undescribed {binds : BindSet}
    (filled : ∀ path, cursor.cacheTarget = some path → cursor.close.state.disk.IsFilled path)
    (undescribed : ∀ id, .described id ∉ cursor.statementStory binds) :
    (cursor.runStatement binds).toExcept.toBool = false ∧
      cursor.close.state.disk.SameFiles (cursor.runStatement binds).state.disk := by
  have course := runs_runStatement binds cursor
  have target : cursor.close.state.cacheTarget = cursor.cacheTarget := by
    obtain ⟨session, disk, closed⟩ := state_close cursor
    rw [closed]
  rw [← target] at filled
  generalize cursor.runStatement binds = outcome at course ⊢
  generalize cursor.statementStory binds = story at course undescribed
  cases course with
  | unasked e => exact ⟨rfl, .refl _⟩
  | @failed recorder disk sql options e after created asked =>
    rcases query_cases rfl asked with ⟨e', session, failed, -⟩ | ⟨-, id, described⟩
    · -- the recorder had written nothing, and is given up
      obtain ⟨-, rfl⟩ := EStateM.Result.error.inj failed
      exact ⟨rfl, sameFiles_abandonRecorder cursor.isIdle_close filled created session⟩
    · exact absurd (List.mem_append_right _ described) (undescribed id)
  | @answered recorder disk sql options after created asked =>
    rcases query_cases rfl asked with ⟨e', session, failed, -⟩ | ⟨-, id, described⟩
    · contradiction
    · exact absurd (List.mem_append_right _ described) (undescribed id)

/-- So it is with other settings, and if the error is remembered. -/
theorem noting_runStatement_of_undescribed {start : Cursor ν} {binds : BindSet}
    (alike : cursor.SameButSettings start)
    (filled : ∀ path, start.cacheTarget = some path →
      cursor.disk.IsFilled path ∨ cursor.close.state.disk.IsFilled path)
    (undescribed : ∀ id,
      .described id ∉ ({ start with error := none } : Cursor ν).statementStory binds) :
    (start.noting (runStatement binds)).toExcept.toBool = false ∧
      cursor.close.state.disk.SameFiles (start.noting (runStatement binds)).state.disk := by
  obtain ⟨error, noted, ended⟩ := noting_cases (runStatement binds) start
  have alike' : cursor.SameButSettings ({ start with error := none } : Cursor ν) :=
    alike.sets { start with error := none }
  have closed : ({ start with error := none } : Cursor ν).close.state.disk =
      cursor.close.state.disk := congrArg Prod.snd alike'.closes.2
  rw [noted, ended, ← closed]
  refine runStatement_of_undescribed (fun path target => ?_) undescribed
  rw [closed]
  exact (filled path target).elim isFilled_close id

/-- **A rejected statement spares the files.**  If no file is empty at the target, when
the statement is run or when the former result set was closed for it, and no description
is accepted of the answer, then the statement fails, and all names lead to the same
files as after the closing, with the same bytes in them. -/
theorem rejected_statement_spares_files {statement : Act ν}
    (isStatement : statement.isStatement = true)
    (filled : ∀ path, cursor.cacheTarget = some path →
      cursor.disk.IsFilled path ∨ cursor.close.state.disk.IsFilled path)
    (undescribed : ∀ id, .described id ∉ statement.story cursor) :
    statement.succeeds cursor = false ∧
      cursor.close.state.disk.SameFiles (statement.after cursor).disk := by
  cases statement with
  | sends sql => exact noting_runStatement_of_undescribed rfl filled undescribed
  | executes => exact noting_runStatement_of_undescribed rfl filled undescribed
  | reads | closes | suspends | resumes | resumesCached | parks | reclaims | sets | finds =>
    contradiction

/-- What is known of a statement that the server refuses, with a file at the target and
with none. -/
theorem rejected_statement_spares_files_refused :
    let refusal : List ServerMessage := [.error ⟨.semantic, 0, ""⟩]
    let disk : Disk := { entries := [(["c"], .file 0)], contents := [[7]] }
    let cursor (path : String) : Cursor ScriptedNetwork :=
      { onSession (Session.scripted [refusal] []) disk 0 with cacheTarget := some path }
    let after (path : String) := (Act.sends "q").after (cursor path)
    (disk.IsFilled "c" ∧ (after "c").session.traffic.events.length = 1 ∧
        (∀ id, .described id ∉ (Act.sends "q").story (cursor "c")) ∧
        (Act.sends "q").succeeds (cursor "c") = false ∧ disk.SameFiles (after "c").disk) ∧
      disk.IsFilled "d" ∧ (after "d").session.traffic.events.length = 1 ∧
        (∀ id, .described id ∉ (Act.sends "q").story (cursor "d")) ∧
        (Act.sends "q").succeeds (cursor "d") = false ∧ disk.SameFiles (after "d").disk := by
  intro refusal disk cursor after
  -- the refusal comes in place of a description
  have spares (path : String) (filled : disk.IsFilled path)
      (unknown : (({ (cursor path).prepare "q" with error := none } :
        Cursor ScriptedNetwork).runStatement {}).state.result.id = none) :
      (∀ id, .described id ∉ (Act.sends "q").story (cursor path)) ∧
        (Act.sends "q").succeeds (cursor path) = false ∧ disk.SameFiles (after path).disk := by
    rcases runStatement_cases {} ({ (cursor path).prepare "q" with error := none } :
      Cursor ScriptedNetwork) with ⟨-, -, -, undescribed⟩ | ⟨known, -⟩
    · exact ⟨undescribed, rejected_statement_spares_files rfl
        (fun target there => .inl (Option.some.inj there ▸ filled)) undescribed⟩
    · rw [unknown] at known
      contradiction
  have filled : disk.IsFilled "c" := by
    intro id found
    have first : (disk.openFile "c").toOption = some 0 := by decide +kernel
    rw [found] at first
    obtain rfl : id = 0 := Option.some.inj first
    decide
  have free : disk.IsFilled "d" := by
    intro id found
    have nothing : (disk.openFile "d").toOption = none := by decide +kernel
    rw [found] at nothing
    contradiction
  exact ⟨⟨filled, by decide +kernel, spares "c" filled (by decide +kernel)⟩, free,
    by decide +kernel, spares "d" free (by decide +kernel)⟩

end Cursor

end ProxyClient
