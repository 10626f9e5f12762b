/-
ProxyClient/Proofs/Cursor/Driving.lean

The steps that a cursor makes with its result set.  Whatever the server answers, and
wherever the answer breaks off, they are in order, and a description comes only directly
behind a reset:

    statement, attachment, cache file    resets, takes .. takes
    page                                 begins, takes .. takes
    changed session, suspension          suspends
    closing, another cursor              resets

So all that holds of result sets after steps in close order holds of the page of a
cursor (`Cursor.exists_steps_afterDeeds`).
-/
import ProxyClient.Proofs.Cursor.Deeds
import ProxyClient.Proofs.Paging.Steps

namespace ProxyClient

namespace ResultSet

variable {rs later last : ResultSet} {phase : QueryPhase} {events : List RowEvent}

/-- Steps that have their place wherever they come have it behind any others. -/
theorem Fitting.append {fits : QueryPhase → Step → Prop} {front back : List Step}
    (first : Fitting fits phase front) (second : ∀ phase, Fitting fits phase back) :
    Fitting fits phase (front ++ back) := by
  induction front generalizing phase with
  | nil => exact second phase
  | cons step front ih => exact ⟨first.1, ih first.2⟩

/-- The events of an answer are steps in close order. -/
theorem inCloseOrder_of_inPlace (places : InPlace phase events) :
    InCloseOrder phase (events.map .takes) := by
  induction events generalizing phase with
  | nil => trivial
  | cons event events ih => exact ⟨places.1, ih places.2⟩

/-- A result set has come from another by steps that are in close order wherever they
come. -/
def Leads (rs later : ResultSet) : Prop :=
  ∃ steps : List Step, (∀ phase, InCloseOrder phase steps) ∧ steps.foldl Step.after rs = later

namespace Leads

theorem refl (rs : ResultSet) : rs.Leads rs :=
  ⟨[], fun _ => trivial, rfl⟩

theorem trans (first : rs.Leads later) (second : later.Leads last) : rs.Leads last := by
  obtain ⟨front, closely, rfl⟩ := first
  obtain ⟨back, closely', rfl⟩ := second
  exact ⟨front ++ back, fun phase => (closely phase).append closely', List.foldl_append⟩

theorem reset (rs : ResultSet) (nullsAsEmpty : Bool) : rs.Leads (reset nullsAsEmpty) :=
  ⟨[.resets nullsAsEmpty], fun _ => ⟨trivial, trivial⟩, rfl⟩

theorem suspend (rs : ResultSet) : rs.Leads rs.suspend :=
  ⟨[.suspends], fun _ => ⟨trivial, trivial⟩, rfl⟩

/-- The answer to a statement or an attachment comes behind a reset. -/
theorem answer (rs : ResultSet) (nullsAsEmpty : Bool) (places : InPlace .waitingDescribe events) :
    rs.Leads (events.foldl apply (ResultSet.reset nullsAsEmpty)) :=
  ⟨.resets nullsAsEmpty :: events.map .takes,
    fun _ => ⟨trivial, inCloseOrder_of_inPlace places⟩, List.foldl_map⟩

/-- The answer to a fetch comes when a page was begun. -/
theorem page (rs : ResultSet) (places : InPlace .processingRows events) :
    rs.Leads (events.foldl apply rs.beginPage) :=
  ⟨.begins :: events.map .takes,
    fun _ => ⟨trivial, inCloseOrder_of_inPlace places⟩, List.foldl_map⟩

end Leads

end ResultSet

namespace Cursor

variable {ν : Type}

/-! ### Deeds -/

theorem result_detachRecorder (cursor : Cursor ν) :
    cursor.detachRecorder.result = cursor.result := by
  rw [detachRecorder_eq]

theorem leads_checkEpoch (cursor : Cursor ν) : cursor.result.Leads cursor.checkEpoch.result := by
  rw [checkEpoch]
  split
  · rw [result_detachRecorder]
    exact .suspend cursor.result
  · exact .refl cursor.result

theorem leads_noting {action : Cursor ν → Outcome Unit (Cursor ν)}
    (leads : ∀ cursor : Cursor ν, cursor.result.Leads (action cursor).state.result)
    (cursor : Cursor ν) : cursor.result.Leads (cursor.noting action).state.result := by
  obtain ⟨error, noted, -⟩ := noting_cases action cursor
  rw [noted]
  exact leads { cursor with error := none }

variable [Network ν]

theorem leads_fetchPage (skip : Nat) (cursor : Cursor ν) :
    cursor.result.Leads (cursor.fetchPage skip).state.result := by
  rcases fetchPage_cases skip cursor with same | ⟨session, events, source, places, taken⟩
  · rw [same]
    exact .refl cursor.result
  · rw [taken]
    show cursor.result.Leads (cursor.begun.taking session events).result
    rw [taking_result]
    exact .page cursor.result places

theorem leads_ensureRow (row : Nat) (cursor : Cursor ν) :
    cursor.result.Leads (cursor.ensureRow row).result :=
  fetchTo_keeps (P := fun page => cursor.result.Leads page.result)
    (fun page leads _ => leads.trans (leads_fetchPage (page.skipFor row) page))
    (fun _ _ leads => leads) cursor.checkEpoch (leads_checkEpoch cursor)

/-- A cursor that was closed has a new result set. -/
theorem result_close (cursor : Cursor ν) :
    cursor.close.state.result = .reset cursor.nullsAsEmpty := by
  obtain ⟨session, disk, closed⟩ := state_close cursor
  rw [closed]

theorem leads_close (cursor : Cursor ν) : cursor.result.Leads cursor.close.state.result := by
  rw [result_close]
  exact .reset cursor.result cursor.nullsAsEmpty

/-- So has one that is to attach to another. -/
theorem result_emptied (id : ResultSetId) (cursor : Cursor ν) :
    ∃ nullsAsEmpty, (cursor.emptied id).result = .reset nullsAsEmpty := by
  rw [emptied, result_detachRecorder]
  exact ⟨(cursor.closeOther id).state.nullsAsEmpty, rfl⟩

/-- Behind a reset, the answer to a request that expects a description is in order. -/
theorem leads_of_query {request : QueryRequest} {start : Cursor ν}
    {outcome : Outcome Unit (Cursor ν)} {nullsAsEmpty : Bool}
    (asked : start.query request = outcome) (expects : request.firstPhase = .waitingDescribe)
    (empty : start.result = .reset nullsAsEmpty) (rs : ResultSet) :
    rs.Leads outcome.state.result := by
  obtain ⟨session, events, places, taken⟩ := exists_taking_of_query asked
  rw [taken, taking_result, empty]
  rw [expects] at places
  exact .answer rs nullsAsEmpty places

theorem leads_runStatement (binds : BindSet) (cursor : Cursor ν) :
    cursor.result.Leads (cursor.runStatement binds).state.result := by
  have course := runs_runStatement binds cursor
  have empty := result_close cursor
  generalize cursor.runStatement binds = outcome at course ⊢
  generalize cursor.statementStory binds = story at course
  cases course with
  | unasked e => exact leads_close cursor
  | @failed recorder disk sql options e after _ asked =>
    have answer := leads_of_query asked rfl empty cursor.result
    obtain ⟨recorder', disk', given_up⟩ := abandonRecorder_eq after
    rw [Outcome.state, given_up]
    exact answer
  | answered recorder disk sql options _ asked =>
    have answer := leads_of_query asked rfl empty cursor.result
    exact answer

theorem leads_attach (id : ResultSetId) (path : Option String) (cursor : Cursor ν) :
    cursor.result.Leads (cursor.attach id path).state.result := by
  have course := attaches_attach id path cursor
  obtain ⟨nullsAsEmpty, empty⟩ := result_emptied id cursor
  generalize cursor.attach id path = outcome at course ⊢
  cases course with
  | unasked e =>
    rw [Outcome.state, empty]
    exact .reset cursor.result nullsAsEmpty
  | failed recorder disk options _ asked | answered recorder disk options _ asked =>
    have answer := leads_of_query asked rfl empty cursor.result
    exact answer

theorem leads_openFile (path : String) (cursor : Cursor ν) :
    cursor.result.Leads (cursor.openFile path).state.result := by
  have course := unpacks_openFile path cursor
  have empty := result_close cursor
  generalize cursor.openFile path = outcome at course ⊢
  -- a file brings its description, then rows, as an answer would
  have unpacked (recorder : Option CacheWriter) (disk : Disk) (events : List RowEvent)
      (places : InPlace .waitingDescribe events) :
      cursor.result.Leads (({ cursor.close.state with recorder, disk } : Cursor ν).taking
        cursor.close.state.session events).result := by
    rw [taking_result]
    show cursor.result.Leads (events.foldl ResultSet.apply cursor.close.state.result)
    rw [empty]
    exact .answer cursor.result cursor.nullsAsEmpty places
  cases course with
  | refused e => exact .refl cursor.result
  | unread e => exact leads_close cursor
  | torn recorder disk describe rows e =>
    have places : InPlace .processingRows (rows.map .row ++ []) := .rows rows trivial
    rw [List.append_nil] at places
    exact unpacked recorder disk _ ⟨rfl, places⟩
  | read recorder disk describe rows batch reader =>
    have places : InPlace .processingRows (rows.map .row ++ [.batchEnd batch]) :=
      .rows rows ⟨rfl, trivial⟩
    exact unpacked recorder disk _ ⟨rfl, places⟩

/-- **Every deed makes steps in close order** with the result set of the cursor. -/
theorem Deed.leads (cursor : Cursor ν) (deed : Deed ν) :
    cursor.result.Leads (deed.after cursor).result := by
  by_cases ofSession : deed.ofSession = true
  · obtain ⟨session, after_eq⟩ := after_of_ofSession ofSession cursor
    rw [after_eq]
    exact .refl cursor.result
  · -- whatever fills the page anew empties it first
    cases deed with
    | acts act =>
      cases act with
      | sends sql => exact leads_noting (leads_runStatement {}) (cursor.prepare sql)
      | executes => exact leads_noting (leads_runStatement cursor.binds) cursor
      | reads row look => exact leads_ensureRow row cursor
      | closes => exact leads_close cursor
      | suspends =>
        show cursor.result.Leads cursor.suspendResultSet.result
        rw [suspendResultSet_eq]
        exact .suspend cursor.result
      | resumes id => exact leads_noting (leads_attach id none) cursor
      | resumesCached id path => exact leads_noting (leads_attach id (some path)) cursor
      | sets settings => exact .refl cursor.result
      | finds disk => exact .refl cursor.result
      | parks | reclaims => exact absurd rfl ofSession
    | calls call => exact absurd rfl ofSession
    | opensCached path => exact leads_noting (leads_openFile path) cursor
    | renews => exact .reset cursor.result false

/-! ### Runs -/

/-- **The page of a cursor is that of a new result set after steps in close order**,
whatever is done with the cursor and its session, and whatever the server answers. -/
theorem exists_steps_afterDeeds (session : Session ν) (disk : Disk) (now : Int64)
    (deeds : List (Deed ν)) :
    ∃ steps, ResultSet.InCloseOrder .finished steps ∧
      ((onSession session disk now).afterDeeds deeds).result = ResultSet.afterSteps steps := by
  have leads : ({} : ResultSet).Leads ((onSession session disk now).afterDeeds deeds).result :=
    afterDeeds_keeps (P := fun cursor => ({} : ResultSet).Leads cursor.result)
      (fun cursor deed (_ : True) before => before.trans (deed.leads cursor)) (fun _ _ => trivial)
      (.refl {})
  obtain ⟨steps, closely, made⟩ := leads
  exact ⟨steps, closely .finished, made.symm⟩

end Cursor

end ProxyClient
