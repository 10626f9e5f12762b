/-
ProxyClient/Proofs/Cursor/Apart.lean

Cursors that read from a cache file have nothing to do with the session.  To put
another session under such a cursor, and to read, to close it or to let go of it, is
the same in either order:

    read { cursor with session }  =  { read cursor with session }

So a run of it, and of its session, is two runs, which know nothing of each other
(`Cursor.afterDeeds_apart`).
-/
import ProxyClient.Proofs.Cursor.Deeds

namespace ProxyClient.Cursor

variable {ν : Type} [Network ν] {cursor : Cursor ν}

/-! ### Reading and closing -/

theorem fetchPage_withSession (sourced : cursor.source.isSome = true) (session : Session ν)
    (skip : Nat) :
    ({ cursor with session } : Cursor ν).fetchPage skip =
      (cursor.fetchPage skip).mapState ({ · with session }) := by
  obtain ⟨reader, source⟩ := Option.isSome_iff_exists.mp sourced
  rcases known : cursor.result.id with - | id
  · -- nothing is open
    rw [fetchPage, fetchPage]
    simp only [known]
    rfl
  · -- the page is read from the file
    have source' : ({ cursor with session } : Cursor ν).source = some reader := source
    have parts : ({ cursor with session } : Cursor ν).begun.parts = cursor.begun.parts := rfl
    rw [fetchPage_eq_fetch source known, fetchPage_eq_fetch source' known, parts]
    rcases reader.fetch reception Reception.disk skip cursor.bufferSize.toNat cursor.begun.parts
      with ⟨⟨⟩, reader', parts⟩ | ⟨e, reader', parts⟩
    · rfl
    · rfl

theorem fetchPage_skipFor_withSession (sourced : cursor.source.isSome = true)
    (session : Session ν) (row : Nat) :
    ({ cursor with session } : Cursor ν).fetchPage
        (({ cursor with session } : Cursor ν).skipFor row) =
      (cursor.fetchPage (cursor.skipFor row)).mapState ({ · with session }) :=
  fetchPage_withSession sourced session (cursor.skipFor row)

theorem fetchTo_withSession (sourced : cursor.source.isSome = true) (session : Session ν)
    (row : Nat) :
    ({ cursor with session } : Cursor ν).fetchTo row = { cursor.fetchTo row with session } := by
  -- the induction follows the pages
  fun_induction fetchTo row cursor with
  | case1 cursor needs e after failed =>
    rw [fetchTo, dif_pos needs, fetchPage_skipFor_withSession sourced, failed]
    rfl
  | case2 cursor needs count after brought stuck =>
    rw [fetchTo, dif_pos needs, fetchPage_skipFor_withSession sourced, brought]
    exact if_pos stuck
  | case3 cursor needs count after brought moves further _ ih =>
    rw [fetchTo, dif_pos needs, fetchPage_skipFor_withSession sourced, brought]
    have sourced' := (fetchPage_of_silent (.inl sourced) (cursor.skipFor row)).2
    rw [brought] at sourced'
    refine (if_neg moves).trans ((if_pos further).trans (ih (sourced'.trans sourced)))
  | case4 cursor needs count after brought moves still =>
    rw [fetchTo, dif_pos needs, fetchPage_skipFor_withSession sourced, brought]
    exact (if_neg moves).trans (if_neg still)
  | case5 cursor enough =>
    rw [fetchTo, dif_neg enough]

theorem ensureRow_withSession (sourced : cursor.source.isSome = true) (session : Session ν)
    (row : Nat) :
    ({ cursor with session } : Cursor ν).ensureRow row = { cursor.ensureRow row with session } := by
  rw [ensureRow, ensureRow, checkEpoch_of_isSome_source sourced,
    checkEpoch_of_isSome_source (show ({ cursor with session } : Cursor ν).source.isSome = true
      from sourced)]
  exact fetchTo_withSession sourced session row

/-- A cursor goes on reading from its file. -/
theorem isSome_source_ensureRow (sourced : cursor.source.isSome = true) (row : Nat) :
    (cursor.ensureRow row).source.isSome = true := by
  rw [ensureRow, checkEpoch_of_isSome_source sourced]
  exact (fetchTo_of_silent (.inl sourced) row).2.trans sourced

/-- Where nothing is recorded and nothing is open at the server, there is nothing to settle. -/
theorem settle_of_unrecorded (unrecorded : cursor.recorder = none)
    (nothing : cursor.openAtServer? = none) : cursor.settle = .ok () cursor := by
  rw [settle, unrecorded]
  simp only [nothing]

theorem drain_withSession (sourced : cursor.source.isSome = true) (session : Session ν)
    (writer : CacheWriter) :
    ({ cursor with session } : Cursor ν).drain writer =
      (cursor.drain writer).mapState fun (writer, cursor) => (writer, { cursor with session }) := by
  obtain ⟨reader, source⟩ := Option.isSome_iff_exists.mp sourced
  by_cases finished : writer.finished = true
  · rw [drain, drain, if_pos finished, if_pos finished]
    rfl
  · rw [drain, drain, if_neg finished, if_neg finished]
    simp only [source]
    rw [Outcome.mapState_mapState]
    rfl

theorem settle_withSession (sourced : cursor.source.isSome = true) (session : Session ν) :
    ({ cursor with session } : Cursor ν).settle = cursor.settle.mapState ({ · with session }) := by
  rcases Option.eq_none_or_eq_some cursor.recorder with unrecorded | ⟨writer, recorder⟩
  · -- without a recorder there is nothing to do, since nothing is open at the server
    have nothing := openAtServer?_of_isSome_source sourced
    have unrecorded' : ({ cursor with session } : Cursor ν).recorder = none := unrecorded
    rw [settle_of_unrecorded unrecorded nothing]
    exact settle_of_unrecorded unrecorded' (openAtServer?_of_isSome_source sourced)
  · -- the recorder reads on from the file
    have recorder' : ({ cursor with session } : Cursor ν).recorder = some writer := recorder
    have drained := drain_withSession
      (show ({ cursor with recorder := none } : Cursor ν).source.isSome = true from sourced) session
      writer
    rw [settle, recorder', settle, recorder]
    simp only [drained]
    rcases ({ cursor with recorder := none } : Cursor ν).drain writer with
      ⟨⟨⟩, writer', after⟩ | ⟨e, writer', after⟩
    · rfl
    · rfl

theorem close_withSession (sourced : cursor.source.isSome = true) (session : Session ν) :
    ({ cursor with session } : Cursor ν).close = cursor.close.mapState ({ · with session }) := by
  rw [close, close, checkEpoch_of_isSome_source sourced,
    checkEpoch_of_isSome_source (show ({ cursor with session } : Cursor ν).source.isSome = true
      from sourced), settle_withSession sourced]
  rcases cursor.settle with ⟨⟨⟩, after⟩ | ⟨e, after⟩
  · rfl
  · rfl

/-! ### Runs -/

/-- The deed is one of a cursor that goes on reading from its file. -/
def Deed.ofFile : Deed ν → Bool
  | acts (.reads _ _) | acts (.sets _) | acts (.finds _) => true
  | acts _ | calls _ | opensCached _ | renews => false

/-- Such a deed knows nothing of the session. -/
theorem Deed.after_of_ofFile {deed : Deed ν} (ofFile : deed.ofFile = true)
    (sourced : cursor.source.isSome = true) :
    (deed.after cursor).source.isSome = true ∧
      ∀ session : Session ν,
        deed.after { cursor with session } = { deed.after cursor with session } := by
  cases deed with
  | acts act =>
    cases act with
    | reads row look =>
      exact ⟨isSome_source_ensureRow sourced row, fun session =>
        ensureRow_withSession sourced session row⟩
    | sets settings => exact ⟨sourced, fun session => rfl⟩
    | finds disk => exact ⟨sourced, fun session => rfl⟩
    | sends | executes | closes | suspends | resumes | resumesCached | parks | reclaims =>
      contradiction
  | calls | opensCached | renews => contradiction

/-- **The cursor does not notice what is done with the session.** -/
theorem afterDeeds_apart (sourced : cursor.source.isSome = true) {deeds : List (Deed ν)}
    (apart : ∀ deed ∈ deeds, deed.ofSession = true ∨ deed.ofFile = true) (session : Session ν) :
    ∃ later, ({ cursor with session } : Cursor ν).afterDeeds deeds =
        { cursor.afterDeeds (deeds.filter Deed.ofFile) with session := later } ∧
      (cursor.afterDeeds (deeds.filter Deed.ofFile)).source.isSome = true := by
  induction deeds generalizing cursor session with
  | nil => exact ⟨session, rfl, sourced⟩
  | cons deed deeds ih =>
    have rest : ∀ deed ∈ deeds, deed.ofSession = true ∨ deed.ofFile = true :=
      fun other mem => apart other (List.mem_cons_of_mem _ mem)
    by_cases ofFile : deed.ofFile = true
    · -- it is done in both runs
      obtain ⟨sourced', same⟩ := deed.after_of_ofFile ofFile sourced
      rw [List.filter_cons_of_pos ofFile]
      show ∃ later, (deed.after { cursor with session }).afterDeeds deeds = _ ∧ _
      rw [same session]
      exact ih sourced' rest session
    · -- it is one of the session, and leaves another one to the rest of the run
      obtain ⟨session', moved⟩ := Deed.after_of_ofSession
        ((apart deed List.mem_cons_self).resolve_right ofFile) { cursor with session }
      rw [List.filter_cons_of_neg ofFile]
      show ∃ later, (deed.after { cursor with session }).afterDeeds deeds = _ ∧ _
      rw [moved]
      exact ih sourced rest session'

end ProxyClient.Cursor
