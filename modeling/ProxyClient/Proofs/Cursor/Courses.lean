/-
ProxyClient/Proofs/Cursor/Courses.lean

What a statement, an attachment and the opening of a cache file come to, told once
with the states in between, so that no later proof has to look into them:

    close  →  (binds, target)  →  execute     →  opened       a statement
    close  →  (recorder)       →  resume      →  opened       an attachment
    close  →  (file, target)   →  first page                  a cache file

Each may stop after any arrow.  What is in brackets changes the recorder and the
disk at most.
-/
import ProxyClient.Proofs.Cursor.History
import ProxyClient.Proofs.Cursor.Offline

namespace ProxyClient.Cursor

variable {ν : Type} {cursor : Cursor ν}

/-- An action whose error is remembered ends as the action does. -/
theorem noting_cases (action : Cursor ν → Outcome Unit (Cursor ν)) (cursor : Cursor ν) :
    ∃ error, (cursor.noting action).state =
        { (action { cursor with error := none }).state with error } ∧
      (cursor.noting action).toExcept = (action { cursor with error := none }).toExcept := by
  rw [noting]
  rcases action { cursor with error := none } with ⟨⟨⟩, after⟩ | ⟨e, after⟩
  · exact ⟨after.error, rfl, rfl⟩
  · exact ⟨(after.note e).error, rfl, rfl⟩

/-- A recorder that is given up is not there any more. -/
theorem recorder_abandonRecorder (cursor : Cursor ν) : cursor.abandonRecorder.recorder = none := by
  rw [abandonRecorder]
  split
  · next none_ => exact none_
  · rfl

variable [Network ν]

/-- A cursor that was closed has nothing to forget. -/
theorem forget_close (cursor : Cursor ν) :
    cursor.close.state.forget.detachRecorder = cursor.close.state := by
  obtain ⟨session, disk, closed⟩ := state_close cursor
  rw [closed]
  rfl

/-! ### Answers -/

/-- Whatever a query comes to, the page and the recorder have taken some events, each of
them in place. -/
theorem exists_taking_of_query {request : QueryRequest} {outcome : Outcome Unit (Cursor ν)}
    (asked : cursor.query request = outcome) :
    ∃ session events, InPlace request.firstPhase events ∧
      outcome.state = cursor.taking session events := by
  rw [← asked, query_eq_ask, Outcome.state_mapState]
  exact ⟨_, _, (cursor.session.ask_inPlace request).1, rfl⟩

/-- So it is with a page, wherever its rows come from. -/
theorem fetchPage_cases (skip : Nat) (cursor : Cursor ν) :
    (cursor.fetchPage skip).state = cursor ∨
      ∃ session events source, InPlace .processingRows events ∧
        (cursor.fetchPage skip).state = { cursor.begun.taking session events with source } := by
  rcases known : cursor.result.id with - | id
  · -- nothing is open
    rw [fetchPage, known]
    exact .inl rfl
  · right
    rcases source : cursor.source with - | reader
    · -- the server answers
      obtain ⟨session, events, places, taken⟩ := exists_taking_of_query
        (show cursor.begun.query (.fetch id (UInt64.ofNat skip) cursor.bufferSize) = _ from rfl)
      rw [state_fetchPage source known, taken]
      exact ⟨session, events, cursor.source, places, rfl⟩
    · -- the file is read on
      rw [fetchPage_eq_fetch source known]
      rcases CacheReader.fetch_cases takes_reception Reception.disk skip cursor.bufferSize.toNat
        reader cursor.begun.parts with ⟨rows, batch, reader', fetched⟩ | ⟨rows, e, reader', fetched⟩
      · rw [fetched]
        have places : InPlace .processingRows (rows.map .row ++ [.batchEnd batch]) :=
          .rows rows ⟨rfl, trivial⟩
        exact ⟨cursor.session, _, some reader', places, rfl⟩
      · rw [fetched]
        have places : InPlace .processingRows (rows.map .row ++ []) := .rows rows trivial
        rw [List.append_nil] at places
        exact ⟨cursor.session, _, some reader', places, rfl⟩

/-! ### Statements -/

/-- What a statement comes to, with its story. -/
inductive Runs (binds : BindSet) (cursor : Cursor ν) :
    Outcome Unit (Cursor ν) → List Happening → Prop
  /-- The server is not asked: the former result set could not be closed, a bind variable
  is out of place, or there is no file to record into. -/
  | unasked (e : Error) : Runs binds cursor (.error e cursor.close.state) cursor.closeStory
  /-- The server is asked, and the answer is an error or cannot be taken. -/
  | failed (recorder : Option CacheWriter) (disk : Disk) (sql : String) (options : ExecuteOptions)
      {e : Error} {after : Cursor ν} :
      cursor.close.state.createTarget = .ok () { cursor.close.state with recorder, disk } →
      ({ cursor.close.state with recorder, disk } : Cursor ν).query (.execute sql binds options) =
        .error e after →
      Runs binds cursor (.error e after.abandonRecorder)
        (cursor.closeStory ++ cursor.close.state.session.querying (.execute sql binds options))
  /-- The server is asked and answers. -/
  | answered (recorder : Option CacheWriter) (disk : Disk) (sql : String)
      (options : ExecuteOptions) {after : Cursor ν} :
      cursor.close.state.createTarget = .ok () { cursor.close.state with recorder, disk } →
      ({ cursor.close.state with recorder, disk } : Cursor ν).query (.execute sql binds options) =
        .ok () after →
      Runs binds cursor
        (.ok () { after with session := after.session.statementExecuted }.opened)
        (cursor.closeStory ++ cursor.close.state.session.querying (.execute sql binds options))

theorem runs_runStatement (binds : BindSet) (cursor : Cursor ν) :
    Runs binds cursor (cursor.runStatement binds) (cursor.statementStory binds) := by
  have unasked := @Runs.unasked ν _ binds cursor
  have failed := @Runs.failed ν _ binds cursor
  have answered := @Runs.answered ν _ binds cursor
  rw [runStatement, statementStory]
  rcases closed : cursor.close with ⟨⟨⟩, start⟩ | ⟨e, start⟩
  · rw [closed] at unasked failed answered
    simp only
    rcases start.checkBinds (start.substitutions.expand start.sql) binds with e | ⟨⟩
    · -- the binds do not fit the statement
      rw [List.append_nil]
      exact unasked e
    · simp only
      rcases created : start.createTarget with ⟨⟨⟩, armed⟩ | ⟨e, after⟩
      · -- the recorder is there, and the server is asked
        obtain ⟨recorder, disk, rfl, -⟩ := createTarget_ok created
        simp only
        rcases ran : ({ start with recorder, disk } : Cursor ν).query
          (.execute (start.substitutions.expand start.sql) binds
            ({ start with recorder, disk } : Cursor ν).executeOptions) with ⟨⟨⟩, after⟩ | ⟨e, after⟩
        · exact answered recorder disk _ _ created ran
        · exact failed recorder disk _ _ created ran
      · -- the recorder cannot be created
        obtain rfl := createTarget_error created
        rw [List.append_nil]
        exact unasked e
  · rw [closed] at unasked
    rw [List.append_nil]
    exact unasked e

/-! ### Attachments -/

/-- The cursor when it has closed what it had open and is to attach to a result set. -/
def emptied (id : ResultSetId) (cursor : Cursor ν) : Cursor ν :=
  (cursor.closeOther id).state.forget.detachRecorder

/-- What could not be closed is given up. -/
theorem emptied_of_error {id : ResultSetId} {e : Error} {left : Cursor ν}
    (failed : cursor.closeOther id = .error e left) : cursor.emptied id = left := by
  rw [emptied, failed]
  unfold closeOther at failed
  simp only at failed
  split at failed
  · contradiction
  · have same := forget_close cursor.checkEpoch
    rw [failed] at same
    exact same

/-- The cursor has the recorder that an attachment starts. -/
def Arms (path : Option String) (cursor armed : Cursor ν) : Prop :=
  match path with
  | none => armed = cursor
  | some path => cursor.continueRecorder path = .ok () armed

/-- What an attachment comes to. -/
inductive Attaches (id : ResultSetId) (path : Option String) (cursor : Cursor ν) :
    Outcome Unit (Cursor ν) → Prop
  /-- The server is not asked: the former result set could not be closed, or there is no
  file to record into. -/
  | unasked (e : Error) : Attaches id path cursor (.error e (cursor.emptied id))
  /-- The server is asked, and the answer is an error or cannot be taken. -/
  | failed (recorder : Option CacheWriter) (disk : Disk) (options : ExecuteOptions) {e : Error}
      {after : Cursor ν} :
      Arms path (cursor.emptied id) { cursor.emptied id with recorder, disk } →
      ({ cursor.emptied id with recorder, disk } : Cursor ν).query (.resume id options) =
        .error e after →
      Attaches id path cursor (.error e after)
  /-- The server is asked and answers. -/
  | answered (recorder : Option CacheWriter) (disk : Disk) (options : ExecuteOptions)
      {after : Cursor ν} :
      Arms path (cursor.emptied id) { cursor.emptied id with recorder, disk } →
      ({ cursor.emptied id with recorder, disk } : Cursor ν).query (.resume id options) =
        .ok () after →
      Attaches id path cursor (.ok () after.opened)

theorem attaches_attach (id : ResultSetId) (path : Option String) (cursor : Cursor ν) :
    Attaches id path cursor (cursor.attach id path) := by
  have unasked := @Attaches.unasked ν _ id path cursor
  have failed := @Attaches.failed ν _ id path cursor
  have answered := @Attaches.answered ν _ id path cursor
  rw [attach]
  rcases closed : cursor.closeOther id with ⟨⟨⟩, left⟩ | ⟨e, left⟩
  · have begins : left.forget.detachRecorder = cursor.emptied id := by
      rw [emptied, closed]
      rfl
    simp only [begins]
    generalize cursor.emptied id = start at unasked failed answered
    rcases path with - | path
    · simp only
      rcases ran : start.query (.resume id start.executeOptions) with ⟨⟨⟩, after⟩ | ⟨e, after⟩
      · exact answered start.recorder start.disk _ rfl ran
      · exact failed start.recorder start.disk _ rfl ran
    · simp only
      rcases continued : start.continueRecorder path with ⟨⟨⟩, armed⟩ | ⟨e, after⟩
      · obtain ⟨writer, disk, rfl, -⟩ := continueRecorder_ok continued
        simp only
        rcases ran : ({ start with recorder := some writer, disk } : Cursor ν).query
          (.resume id ({ start with recorder := some writer, disk } : Cursor ν).executeOptions) with
          ⟨⟨⟩, after⟩ | ⟨e, after⟩
        · exact answered (some writer) disk _ continued ran
        · exact failed (some writer) disk _ continued ran
      · -- the file cannot be continued
        obtain rfl := continueRecorder_error continued
        exact unasked e
  · -- the other result set was not closed
    rw [← emptied_of_error closed]
    exact unasked e

/-! ### Cache files -/

/-- What the opening of a cache file comes to. -/
inductive Unpacks (path : String) (cursor : Cursor ν) : Outcome Unit (Cursor ν) → Prop
  /-- The file is the target. -/
  | refused (e : Error) : Unpacks path cursor (.error e cursor)
  /-- Nothing is read: the former result set could not be closed, the file cannot be opened,
  or there is no file to record into. -/
  | unread (e : Error) : Unpacks path cursor (.error e cursor.close.state)
  /-- The description is read, and the first page is not. -/
  | torn (recorder : Option CacheWriter) (disk : Disk) (describe : Describe) (rows : List DataRow)
      (e : Error) :
      cursor.close.state.createTarget = .ok () { cursor.close.state with recorder, disk } →
      Unpacks path cursor
        (.error e (({ cursor.close.state with recorder, disk } : Cursor ν).taking
          cursor.close.state.session (.describe describe :: rows.map .row)))
  /-- The first page is read. -/
  | read (recorder : Option CacheWriter) (disk : Disk) (describe : Describe) (rows : List DataRow)
      (batch : BatchEnd) (reader : CacheReader) :
      cursor.close.state.createTarget = .ok () { cursor.close.state with recorder, disk } →
      Unpacks path cursor
        (.ok ()
          { ({ cursor.close.state with recorder, disk } : Cursor ν).taking
              cursor.close.state.session
              (.describe describe :: (rows.map .row ++ [.batchEnd batch])) with
            source := some reader })

theorem unpacks_openFile (path : String) (cursor : Cursor ν) :
    Unpacks path cursor (cursor.openFile path) := by
  have unread := @Unpacks.unread ν _ path cursor
  have torn := @Unpacks.torn ν _ path cursor
  have read := @Unpacks.read ν _ path cursor
  rw [openFile]
  split
  · -- the file is the one that is recorded to
    exact .refused _
  · rcases closed : cursor.close with ⟨⟨⟩, start⟩ | ⟨e, start⟩
    · rw [closed] at unread torn read
      simp only
      rcases CacheReader.openNow path start.now start.disk with e | reader
      · exact unread e
      · rcases created : start.createTarget with ⟨⟨⟩, armed⟩ | ⟨e, after⟩
        · obtain ⟨recorder, disk, rfl, -⟩ := createTarget_ok created
          simp only
          rcases readFirstPage_cases ({ start with recorder, disk } : Cursor ν) reader with
            ⟨reader', rows, batch, done⟩ | ⟨e, rows, failed⟩
          · -- the first page is whole
            rw [done]
            exact read recorder disk reader.describe rows batch reader' created
          · -- it is torn
            rw [failed]
            exact torn recorder disk reader.describe rows e created
        · -- the copy cannot be created
          obtain rfl := createTarget_error created
          exact unread e
    · rw [closed] at unread
      exact unread e

end ProxyClient.Cursor
