/-
ProxyClient/Proofs/Cursor/Settings.lean

Settings that are changed while a result set is open.  A read looks at the page, the
recorder, the source, the session and the epoch, and at one setting: how many rows are
to be fetched at once.  So two cursors that are the same but for the other settings
(`SameButSettings`) stay so, whatever is read:

    cursor   ── sets ──  other settings
      │ read               │ read
    after    ── sets ──  other settings

A run with changes of settings between its reads is therefore the run of its reads
alone, as long as nothing is fetched after the number of rows was changed
(`KeepsSize`); and if the rows come from the server, only then, for a request tells the
number (`Cursor.reads_ignore_settings`).
-/
import ProxyClient.Proofs.Cursor.Fetching
import ProxyClient.Proofs.Paging.Exact

namespace ProxyClient

variable {ν : Type} [Network ν]

/-! ### Sessions that send no requests -/

/-- Nothing is asked, and nothing told. -/
theorem Session.querying_of_refuses {session : Session ν} (refuses : session.Refuses)
    (request : QueryRequest) : session.querying request = [] := by
  obtain ⟨e, refused⟩ := Session.exists_ask_of_refuses refuses
  rw [querying, asking, requests, if_pos refuses, refused]
  rfl

namespace Cursor

variable {cursor other after : Cursor ν}

/-! ### Fetching -/

/-- Whether a page that is wanted is asked for at all: at a source, or at a session that
sends requests. -/
def CanFetch (cursor : Cursor ν) : Prop :=
  cursor.source.isSome = true ∨ ¬ cursor.session.Refuses

/-- A page is fetched alike by cursors that fetch as many rows at once. -/
theorem fetchPage_withSettings {settings : Cursor ν}
    (sized : cursor.CanFetch → settings.bufferSize = cursor.bufferSize) (skip : Nat) :
    (cursor.withSettings settings).fetchPage skip =
      (cursor.fetchPage skip).mapState (·.withSettings settings) := by
  rcases known : cursor.result.id with - | id
  · -- nothing is open
    have known' : (cursor.withSettings settings).result.id = none := known
    rw [fetchPage, fetchPage, known']
    simp only [known]
    rfl
  · have known' : (cursor.withSettings settings).result.id = some id := known
    rcases source : cursor.source with - | reader
    · have source' : (cursor.withSettings settings).source = none := source
      -- the server is told the size, if it can be told anything
      have asked : (cursor.withSettings settings).session.ask
            (.fetch id (UInt64.ofNat skip) (cursor.withSettings settings).bufferSize) =
          cursor.session.ask (.fetch id (UInt64.ofNat skip) cursor.bufferSize) := by
        by_cases refuses : cursor.session.Refuses
        · obtain ⟨e, refused⟩ := Session.exists_ask_of_refuses refuses
          exact (refused _).trans (refused _).symm
        · exact congrArg (fun size => cursor.session.ask (.fetch id (UInt64.ofNat skip) size))
            (sized (.inr refuses))
      rw [fetchPage_eq_ask source known, fetchPage_eq_ask source' known', asked]
      rcases cursor.session.ask (.fetch id (UInt64.ofNat skip) cursor.bufferSize) with
        ⟨⟨⟩, session, events⟩ | ⟨e, session, events⟩
      · rfl
      · rfl
    · have source' : (cursor.withSettings settings).source = some reader := source
      have parts : (cursor.withSettings settings).begun.parts = cursor.begun.parts := rfl
      -- a file is read in pages of that size
      have size : (cursor.withSettings settings).bufferSize = cursor.bufferSize :=
        sized (.inl (by rw [source]; rfl))
      rw [fetchPage_eq_fetch source known, fetchPage_eq_fetch source' known', parts, size]
      rcases reader.fetch reception Reception.disk skip cursor.bufferSize.toNat cursor.begun.parts
        with ⟨⟨⟩, reader', parts⟩ | ⟨e, reader', parts⟩
      · rfl
      · rfl

/-- A session that sends no requests leaves nothing to tell of a page. -/
theorem pageStory_of_refuses (refuses : cursor.session.Refuses) (skip : Nat) :
    cursor.pageStory skip = [] := by
  rw [pageStory]
  split
  · exact Session.querying_of_refuses refuses _
  · rfl

/-- What there is to tell is the same, too. -/
theorem pageStory_withSettings {settings : Cursor ν}
    (sized : cursor.CanFetch → settings.bufferSize = cursor.bufferSize) (skip : Nat) :
    (cursor.withSettings settings).pageStory skip = cursor.pageStory skip := by
  by_cases refuses : cursor.session.Refuses
  · have refuses' : (cursor.withSettings settings).session.Refuses := refuses
    rw [pageStory_of_refuses refuses, pageStory_of_refuses refuses']
  · have size : (cursor.withSettings settings).bufferSize = cursor.bufferSize := sized (.inr refuses)
    rw [pageStory, pageStory, size]
    rfl

/-- The number of rows to fetch at once is not changed by fetching. -/
theorem bufferSize_fetchPage (skip : Nat) (cursor : Cursor ν) :
    (cursor.fetchPage skip).state.bufferSize = cursor.bufferSize := by
  rcases fetchPage_cases skip cursor with same | ⟨session, events, source, -, taken⟩
  · rw [same]
  · rw [taken]
    rfl

/-- Where a page came from, it could be fetched. -/
theorem canFetch_of_fetchPage (known : cursor.result.id.isSome = true) {skip count : Nat}
    (brought : cursor.fetchPage skip = .ok count after) : cursor.CanFetch := by
  obtain ⟨id, known⟩ := Option.isSome_iff_exists.mp known
  rcases source : cursor.source with - | reader
  · refine .inr fun refuses => ?_
    obtain ⟨e, refused⟩ := Session.exists_ask_of_refuses refuses
    rw [fetchPage_eq_ask source known, refused] at brought
    contradiction
  · exact .inl (by rw [source]; rfl)

/-! ### Stories of searches -/

section

variable {row : Nat} (needs : cursor.result.needsFetch row = true)

include needs

/-- Where a search ends with an error, the last request is all there is to tell. -/
theorem fetchStory_of_failed {e : Error}
    (failed : cursor.fetchPage (cursor.skipFor row) = .error e after) :
    cursor.fetchStory row = cursor.pageStory (cursor.skipFor row) := by
  rw [fetchStory, dif_pos needs, failed]
  exact List.append_nil _

/-- So it is where a page brings nothing. -/
theorem fetchStory_of_stuck (brought : cursor.fetchPage (cursor.skipFor row) = .ok 0 after)
    (more : after.result.ended = false) :
    cursor.fetchStory row = cursor.pageStory (cursor.skipFor row) := by
  rw [fetchStory, dif_pos needs, brought]
  simp only [more, Bool.not_false, and_self, if_true, List.append_nil]

/-- Else the story goes on. -/
theorem fetchStory_of_onward {count : Nat}
    (brought : cursor.fetchPage (cursor.skipFor row) = .ok count after)
    (moves : count = 0 → after.result.ended = true) :
    cursor.fetchStory row = cursor.pageStory (cursor.skipFor row) ++ after.fetchStory row := by
  rw [fetchStory, dif_pos needs, brought]
  congr 1
  simp only
  rw [if_neg fun stuck => by simp [moves stuck.1] at stuck]
  by_cases further : cursor.result.rowCount < after.result.rowCount
  · exact if_pos further
  · -- a page that counts no row was the last, and behind it nothing is asked for
    have counted := rowCount_of_fetchPage needs brought
    have ended := moves (by omega)
    rw [if_neg further, fetchStory, dif_neg]
    rw [ResultSet.needsFetch_of_ended ended]
    exact Bool.false_ne_true

end

/-- A search ends where reading up to the row does. -/
theorem Searches.last_eq {row pages : Nat} (search : Searches row pages cursor after) :
    after = cursor.fetchTo row := by
  obtain ⟨pages', fetched⟩ := exists_searches row cursor
  exact (fetched.unique search).2

/-! ### Cursors that differ in their settings -/

/-- The cursors are the same but for their settings, among which is the last error. -/
def SameButSettings (cursor other : Cursor ν) : Prop :=
  other = cursor.withSettings other

namespace SameButSettings

omit [Network ν] in
/-- They show the same page. -/
theorem result_eq (same : cursor.SameButSettings other) : other.result = cursor.result := by
  rw [same]
  rfl

omit [Network ν] in
/-- They want the same pages. -/
theorem needsFetch_eq (same : cursor.SameButSettings other) (row : Nat) :
    other.result.needsFetch row = cursor.result.needsFetch row := by
  rw [same.result_eq]

/-- They fetch a page alike, and tell the same of it. -/
theorem fetchPage_eq (same : cursor.SameButSettings other)
    (sized : cursor.CanFetch → other.bufferSize = cursor.bufferSize) (row : Nat) :
    other.fetchPage (other.skipFor row) =
        (cursor.fetchPage (cursor.skipFor row)).mapState (·.withSettings other) ∧
      other.pageStory (other.skipFor row) = cursor.pageStory (cursor.skipFor row) := by
  have fetched := congrArg (fun other => other.fetchPage (other.skipFor row)) same
  have told := congrArg (fun other => other.pageStory (other.skipFor row)) same
  exact ⟨fetched.trans (fetchPage_withSettings sized _),
    told.trans (pageStory_withSettings sized _)⟩

/-- They search alike. -/
theorem searches {row pages : Nat} (search : Searches row pages cursor after)
    (same : cursor.SameButSettings other)
    (sized : cursor.CanFetch → other.bufferSize = cursor.bufferSize) :
    (∃ after', Searches row pages other after' ∧ after.SameButSettings after') ∧
      other.fetchStory row = cursor.fetchStory row := by
  induction search generalizing other with
  | @enough cursor enough =>
    have enough' := (same.needsFetch_eq row).trans enough
    refine ⟨⟨other, .enough enough', same⟩, ?_⟩
    rw [fetchStory, fetchStory, dif_neg (by simp [enough']), dif_neg (by simp [enough])]
  | @failed cursor after e needs failed =>
    obtain ⟨fetched, told⟩ := same.fetchPage_eq sized row
    have needs' := (same.needsFetch_eq row).trans needs
    rw [failed] at fetched
    refine ⟨⟨_, .failed needs' fetched, rfl⟩, ?_⟩
    rw [fetchStory_of_failed needs' fetched, fetchStory_of_failed needs failed, told]
  | @stuck cursor after needs brought more =>
    obtain ⟨fetched, told⟩ := same.fetchPage_eq sized row
    have needs' := (same.needsFetch_eq row).trans needs
    rw [brought] at fetched
    refine ⟨⟨_, .stuck needs' fetched more, rfl⟩, ?_⟩
    rw [fetchStory_of_stuck needs' fetched more, fetchStory_of_stuck needs brought more, told]
  | @onward cursor after last count pages needs brought moves _ ih =>
    obtain ⟨fetched, told⟩ := same.fetchPage_eq sized row
    have needs' := (same.needsFetch_eq row).trans needs
    -- a page came, so the cursors agree on how many rows to fetch at once
    have agree := sized (canFetch_of_fetchPage (ResultSet.more_of_needsFetch needs).2.2 brought)
    have size := bufferSize_fetchPage (cursor.skipFor row) cursor
    rw [brought] at fetched size
    have rest : after.SameButSettings (after.withSettings other) := rfl
    obtain ⟨⟨last', search', same'⟩, told'⟩ := ih rest fun _ => agree.trans size.symm
    refine ⟨⟨last', .onward needs' fetched moves search', same'⟩, ?_⟩
    rw [fetchStory_of_onward needs' fetched moves, fetchStory_of_onward needs brought moves, told,
      told']

/-- They fetch the rows up to one alike. -/
theorem fetchTo (same : cursor.SameButSettings other)
    (sized : cursor.CanFetch → other.bufferSize = cursor.bufferSize) (row : Nat) :
    (cursor.fetchTo row).SameButSettings (other.fetchTo row) ∧
      other.fetchStory row = cursor.fetchStory row := by
  obtain ⟨pages, search⟩ := exists_searches row cursor
  obtain ⟨⟨after', search', same'⟩, told⟩ := same.searches search sized
  rw [search'.last_eq] at same'
  exact ⟨same', told⟩

end SameButSettings

/-! ### Reading and closing -/

omit [Network ν] in
theorem detachRecorder_withSettings (cursor settings : Cursor ν) :
    (cursor.withSettings settings).detachRecorder =
      cursor.detachRecorder.withSettings settings := by
  rcases there : cursor.recorder with - | writer
  · have there' : (cursor.withSettings settings).recorder = none := there
    rw [detachRecorder, there', detachRecorder, there]
  · have there' : (cursor.withSettings settings).recorder = some writer := there
    rw [detachRecorder, there', detachRecorder, there]
    rfl

omit [Network ν] in
theorem checkEpoch_withSettings (cursor settings : Cursor ν) :
    (cursor.withSettings settings).checkEpoch = cursor.checkEpoch.withSettings settings := by
  by_cases far : cursor.source.isNone ∧ cursor.result.id.isSome ∧ !cursor.result.suspended ∧
      cursor.session.connection.epoch ≠ cursor.epoch
  · have gone : (cursor.withSettings settings).checkEpoch =
        (({ cursor with result := cursor.result.suspend } : Cursor ν).withSettings
          settings).detachRecorder := if_pos far
    rw [gone, detachRecorder_withSettings, checkEpoch, if_pos far]
  · have stays : (cursor.withSettings settings).checkEpoch = cursor.withSettings settings :=
      if_neg far
    rw [stays, checkEpoch, if_neg far]

theorem drain_withSettings (cursor settings : Cursor ν) (writer : CacheWriter) :
    (cursor.withSettings settings).drain writer =
      (cursor.drain writer).mapState fun (writer, after) => (writer, after.withSettings settings) := by
  rw [drain, drain]
  split
  · rfl
  · rcases source : cursor.source with - | reader
    · -- from the server: all rows that are left, whatever the size
      have source' : (cursor.withSettings settings).source = none := source
      have there : (cursor.withSettings settings).openAtServer? = cursor.openAtServer? := rfl
      rw [source', there]
      rcases cursor.openAtServer? with - | id
      · rfl
      · simp only
        rw [Outcome.mapState_mapState]
        rfl
    · -- from a file
      have source' : (cursor.withSettings settings).source = some reader := source
      rw [source']
      simp only
      rw [Outcome.mapState_mapState]
      rfl

theorem settle_withSettings (cursor settings : Cursor ν) :
    (cursor.withSettings settings).settle = cursor.settle.mapState (·.withSettings settings) := by
  rw [settle, settle]
  rcases there : cursor.recorder with - | writer
  · -- the result set is aborted
    have there' : (cursor.withSettings settings).recorder = none := there
    have opened : (cursor.withSettings settings).openAtServer? = cursor.openAtServer? := rfl
    rw [there', opened]
    rcases cursor.openAtServer? with - | id
    · rfl
    · simp only
      rw [Outcome.mapState_mapState]
      rfl
  · -- the recorder completes its file
    have there' : (cursor.withSettings settings).recorder = some writer := there
    have drained := drain_withSettings { cursor with recorder := none } settings writer
    rw [there']
    simp only
    rw [show ({ cursor.withSettings settings with recorder := none } : Cursor ν) =
      ({ cursor with recorder := none } : Cursor ν).withSettings settings from rfl, drained]
    rcases ({ cursor with recorder := none } : Cursor ν).drain writer with
      ⟨⟨⟩, writer', after⟩ | ⟨e, writer', after⟩
    · rfl
    · rfl

/-- What closing does to session and disk does not depend on the settings. -/
theorem close_withSettings (cursor settings : Cursor ν) :
    (cursor.withSettings settings).close.state.session = cursor.close.state.session ∧
      (cursor.withSettings settings).close.state.disk = cursor.close.state.disk := by
  rw [close, close, checkEpoch_withSettings, settle_withSettings]
  simp only [Outcome.state_mapState]
  exact ⟨rfl, rfl⟩

theorem closeStory_withSettings (cursor settings : Cursor ν) :
    (cursor.withSettings settings).closeStory = cursor.closeStory := by
  rw [closeStory, checkEpoch_withSettings]
  rfl

omit [Network ν] in
theorem bufferSize_checkEpoch (cursor : Cursor ν) :
    cursor.checkEpoch.bufferSize = cursor.bufferSize := by
  obtain ⟨result, recorder, disk, checked⟩ := checkEpoch_with cursor
  rw [checked]

theorem bufferSize_ensureRow (cursor : Cursor ν) (row : Nat) :
    (cursor.ensureRow row).bufferSize = cursor.bufferSize := by
  rw [ensureRow, ← bufferSize_checkEpoch cursor]
  exact fetchTo_keeps (P := fun after => after.bufferSize = cursor.checkEpoch.bufferSize)
    (fun after kept _ => (bufferSize_fetchPage (after.skipFor row) after).trans kept)
    (fun _ _ kept => kept) cursor.checkEpoch rfl

/-- Rows that come from the server do not come from a file later. -/
theorem source_ensureRow (live : cursor.source = none) (row : Nat) :
    (cursor.ensureRow row).source = none := by
  refine fetchTo_keeps (P := fun after => after.source = none) (fun after live _ => ?_)
    (fun _ _ live => live) cursor.checkEpoch ((source_checkEpoch cursor).trans live)
  rcases known : after.result.id with - | id
  · rw [fetchPage, known]
    exact live
  · rw [state_fetchPage live known, query_eq_ask, Outcome.state_mapState]
    exact live

/-- To read a row a page is asked for. -/
structure Fetches (cursor : Cursor ν) (row : Nat) : Prop where
  /-- A page is wanted. -/
  needs : cursor.checkEpoch.result.needsFetch row = true
  /-- It can be asked for. -/
  can : cursor.CanFetch

namespace SameButSettings

omit [Network ν] in
theorem checkEpoch (same : cursor.SameButSettings other) :
    cursor.checkEpoch.SameButSettings other.checkEpoch := by
  have along := congrArg Cursor.checkEpoch same
  rw [checkEpoch_withSettings] at along
  rw [along]
  rfl

omit [Network ν] in
/-- They ask for pages at the same times. -/
theorem fetches_iff (same : cursor.SameButSettings other) (row : Nat) :
    other.Fetches row ↔ cursor.Fetches row := by
  have needs := same.checkEpoch.needsFetch_eq row
  have can : other.CanFetch ↔ cursor.CanFetch := by
    rw [same]
    rfl
  exact ⟨fun fetches => ⟨needs.symm.trans fetches.needs, can.mp fetches.can⟩,
    fun fetches => ⟨needs.trans fetches.needs, can.mpr fetches.can⟩⟩

/-- **They read alike**, and tell the same of it. -/
theorem reads (same : cursor.SameButSettings other) {row : Nat}
    (sized : other.Fetches row → other.bufferSize = cursor.bufferSize) :
    (cursor.ensureRow row).SameButSettings (other.ensureRow row) ∧
      other.checkEpoch.fetchStory row = cursor.checkEpoch.fetchStory row := by
  by_cases needs : cursor.checkEpoch.result.needsFetch row = true
  · refine same.checkEpoch.fetchTo (fun can => ?_) row
    rw [CanFetch, source_checkEpoch, session_checkEpoch] at can
    rw [bufferSize_checkEpoch, bufferSize_checkEpoch]
    exact sized ((same.fetches_iff row).mpr ⟨needs, can⟩)
  · have needs' : ¬ other.checkEpoch.result.needsFetch row = true := by
      rw [same.checkEpoch.needsFetch_eq]
      exact needs
    rw [ensureRow, ensureRow, Cursor.fetchTo, dif_neg needs, Cursor.fetchTo, dif_neg needs',
      fetchStory, dif_neg needs', fetchStory, dif_neg needs]
    exact ⟨same.checkEpoch, rfl⟩

omit [Network ν] in
/-- Other settings make no difference. -/
theorem sets (same : cursor.SameButSettings other) (settings : Cursor ν) :
    cursor.SameButSettings (other.withSettings settings) := by
  rw [same]
  rfl

/-- They are closed alike. -/
theorem closes (same : cursor.SameButSettings other) :
    other.closeStory = cursor.closeStory ∧ other.release = cursor.release := by
  obtain ⟨session, disk⟩ := close_withSettings cursor other
  have released : (cursor.withSettings other).release = cursor.release := by
    rw [release, release, session, disk]
  exact ⟨(congrArg closeStory same).trans (closeStory_withSettings cursor other),
    (congrArg release same).trans released⟩

end SameButSettings

/-! ### Runs -/

namespace Act

/-- The row that is read. -/
def row? : Act ν → Option Nat
  | reads row _ => some row
  | sends _ | executes | closes | suspends | resumes _ | resumesCached _ _ | parks | reclaims _
  | sets _ | finds _ => none

/-- A row is read. -/
def isRead (act : Act ν) : Bool :=
  act.row?.isSome

/-- Settings are changed. -/
def isSetting : Act ν → Bool
  | sets _ => true
  | sends _ | executes | reads _ _ | closes | suspends | resumes _ | resumesCached _ _ | parks
  | reclaims _ | finds _ => false

omit [Network ν] in
theorem eq_reads_or_sets {act : Act ν} (only : act.isRead = true ∨ act.isSetting = true) :
    (∃ (α : Type) (row : Nat) (look : ResultSet → α), act = .reads row look) ∨
      ∃ settings, act = .sets settings := by
  cases act with
  | reads row look => exact .inl ⟨_, row, look, rfl⟩
  | sets settings => exact .inr ⟨settings, rfl⟩
  | sends | executes | closes | suspends | resumes | resumesCached | parks | reclaims | finds =>
    rcases only with read | setting <;> contradiction

end Act

/-- The pages into which a run looks: what it reads of a row, it reads there. -/
def pagesRead : List (Act ν) → Cursor ν → List ResultSet
  | [], _ => []
  | act :: acts, cursor =>
    (if act.isRead then [(act.after cursor).result] else []) ++ (act.after cursor).pagesRead acts

/-- Whenever the run asks for a page, the number of rows to fetch at once is the given one. -/
def KeepsSize (size : UInt32) : List (Act ν) → Cursor ν → Prop
  | [], _ => True
  | act :: acts, cursor =>
    (∀ row, act.row? = some row → cursor.Fetches row → cursor.bufferSize = size) ∧
      (act.after cursor).KeepsSize size acts

/-- A run that reads and changes settings, as long as it leaves the number alone. -/
theorem keepsSize_of_sets {acts : List (Act ν)}
    (only : ∀ act ∈ acts, act.isRead = true ∨ act.isSetting = true)
    (sets : ∀ settings : Cursor ν, .sets settings ∈ acts →
      settings.bufferSize = cursor.bufferSize) : cursor.KeepsSize cursor.bufferSize acts := by
  induction acts generalizing cursor with
  | nil => trivial
  | cons act acts ih =>
    obtain ⟨here, rest⟩ := List.forall_mem_cons.mp only
    have size : (act.after cursor).bufferSize = cursor.bufferSize := by
      rcases Act.eq_reads_or_sets here with ⟨α, row, look, rfl⟩ | ⟨settings, rfl⟩
      · exact bufferSize_ensureRow cursor row
      · exact sets settings List.mem_cons_self
    refine ⟨fun _ _ _ => rfl, ?_⟩
    rw [← size]
    exact ih rest fun settings mem => (sets settings (List.mem_cons_of_mem _ mem)).trans size.symm

/-- **A run of reads is what remains of a run**, if its changes of settings are left out. -/
theorem SameButSettings.run {acts : List (Act ν)}
    (only : ∀ act ∈ acts, act.isRead = true ∨ act.isSetting = true)
    (same : cursor.SameButSettings other) (kept : other.KeepsSize cursor.bufferSize acts) :
    (cursor.afterActs (acts.filter Act.isRead)).SameButSettings (other.afterActs acts) ∧
      other.pagesRead acts = cursor.pagesRead (acts.filter Act.isRead) ∧
      other.history acts = cursor.history (acts.filter Act.isRead) := by
  induction acts generalizing cursor other with
  | nil => exact ⟨same, rfl, same.closes.1⟩
  | cons act acts ih =>
    obtain ⟨here, rest⟩ := List.forall_mem_cons.mp only
    obtain ⟨now, later⟩ := kept
    rcases Act.eq_reads_or_sets here with ⟨α, row, look, rfl⟩ | ⟨settings, rfl⟩
    · -- a read finds the size unchanged, where it matters
      obtain ⟨same', told⟩ := same.reads (now row rfl)
      rw [← bufferSize_ensureRow cursor row] at later
      obtain ⟨last, pages, story⟩ := ih rest same' later
      refine ⟨last, ?_, ?_⟩
      · show (other.ensureRow row).result :: (other.ensureRow row).pagesRead acts =
          (cursor.ensureRow row).result :: (cursor.ensureRow row).pagesRead _
        rw [same'.result_eq, pages]
      · show other.checkEpoch.fetchStory row ++ (other.ensureRow row).history acts =
          cursor.checkEpoch.fetchStory row ++ (cursor.ensureRow row).history _
        rw [told, story]
    · -- a change of settings leaves the page alone
      exact ih rest (same.sets settings) later

/-! ### Requests that tell the number of rows -/

/-- The first thing to tell of a read for which a page is asked for is the request. -/
theorem exists_fetchStory_eq (live : cursor.source = none) {row : Nat}
    (fetches : cursor.Fetches row) :
    ∃ id rest, cursor.checkEpoch.result.id = some id ∧
      cursor.checkEpoch.fetchStory row =
        .asked (.fetch id (UInt64.ofNat (cursor.checkEpoch.skipFor row)) cursor.bufferSize) ::
          rest := by
  obtain ⟨needs, can⟩ := fetches
  obtain ⟨id, known⟩ := Option.isSome_iff_exists.mp (ResultSet.more_of_needsFetch needs).2.2
  have live' : cursor.checkEpoch.source = none := (source_checkEpoch cursor).trans live
  have usable : ¬ cursor.checkEpoch.session.Refuses := by
    rw [session_checkEpoch]
    exact can.resolve_left (by rw [live]; exact Bool.false_ne_true)
  have asked : cursor.checkEpoch.session.requests
      (.fetch id (UInt64.ofNat (cursor.checkEpoch.skipFor row)) cursor.bufferSize) =
        [.fetch id (UInt64.ofNat (cursor.checkEpoch.skipFor row)) cursor.bufferSize] :=
    if_neg usable
  rw [fetchStory, dif_pos needs, pageStory, known, live', bufferSize_checkEpoch]
  simp only [Session.querying, Session.asking, QueryRequest.request, asked, List.map_cons,
    List.map_nil, List.cons_append, List.append_assoc]
  exact ⟨id, _, rfl, rfl⟩

/-- A request tells how many rows to fetch, so reads that tell the same ask for as many. -/
theorem SameButSettings.bufferSize_eq_of_fetches (same : cursor.SameButSettings other)
    (live : cursor.source = none) {row : Nat} {rest rest' : List Happening}
    (story : other.checkEpoch.fetchStory row ++ rest = cursor.checkEpoch.fetchStory row ++ rest')
    (fetches : other.Fetches row) : other.bufferSize = cursor.bufferSize := by
  have live_other : other.source = none := by
    rw [same]
    exact live
  obtain ⟨id, more, -, first⟩ := exists_fetchStory_eq live_other fetches
  obtain ⟨id', more', -, first'⟩ := exists_fetchStory_eq live ((same.fetches_iff row).mp fetches)
  rw [first, first'] at story
  have heads := (List.cons.inj story).1
  exact (Request.fetch.inj (Happening.asked.inj heads)).2.2

/-- Runs that tell the same do, too. -/
theorem SameButSettings.keepsSize {acts : List (Act ν)}
    (only : ∀ act ∈ acts, act.isRead = true ∨ act.isSetting = true)
    (same : cursor.SameButSettings other) (live : cursor.source = none)
    (story : other.history acts = cursor.history (acts.filter Act.isRead)) :
    other.KeepsSize cursor.bufferSize acts := by
  induction acts generalizing cursor other with
  | nil => trivial
  | cons act acts ih =>
    obtain ⟨here, rest⟩ := List.forall_mem_cons.mp only
    rcases Act.eq_reads_or_sets here with ⟨α, row, look, rfl⟩ | ⟨settings, rfl⟩
    · have told : other.checkEpoch.fetchStory row ++ (other.ensureRow row).history acts =
          cursor.checkEpoch.fetchStory row ++
            (cursor.ensureRow row).history (acts.filter Act.isRead) := story
      have sized := same.bufferSize_eq_of_fetches live told
      -- the first read tells the same story, so the others do
      obtain ⟨same', told'⟩ := same.reads sized
      rw [told'] at told
      have later := ih rest same' (source_ensureRow live row) (List.append_cancel_left told)
      rw [bufferSize_ensureRow] at later
      refine ⟨fun row' there fetches => ?_, later⟩
      obtain rfl := Option.some.inj there
      exact sized fetches
    · exact ⟨fun row none_ => by contradiction, ih rest (same.sets settings) live story⟩

/-- **Reads ignore the settings**, but for the number of rows to fetch at once.  Take a
run that reads rows and changes settings, and leave the changes out.  As long as no page
is asked for with another number than at the start, it is the same run: the same
requests are sent up to the next closing, the same pages are read from, and at the end
nothing but the settings is different; when the result set is closed then, the session
and the disk are the same.  If the rows come from the server, the requests are the same
only under this condition. -/
theorem reads_ignore_settings {acts : List (Act ν)}
    (only : ∀ act ∈ acts, act.isRead = true ∨ act.isSetting = true) (cursor : Cursor ν) :
    let reads := acts.filter Act.isRead
    (cursor.KeepsSize cursor.bufferSize acts →
      cursor.history acts = cursor.history reads ∧
        cursor.pagesRead acts = cursor.pagesRead reads ∧
        (cursor.afterActs reads).SameButSettings (cursor.afterActs acts) ∧
        (cursor.afterActs acts).release = (cursor.afterActs reads).release) ∧
      (cursor.source = none →
        (cursor.history acts = cursor.history reads ↔
          cursor.KeepsSize cursor.bufferSize acts)) := by
  intro reads
  have same : cursor.SameButSettings cursor := rfl
  refine ⟨fun kept => ?_, fun live => ⟨same.keepsSize only live, fun kept => ?_⟩⟩
  · obtain ⟨last, pages, story⟩ := same.run only kept
    exact ⟨story, pages, last, last.closes.2⟩
  · exact (same.run only kept).2.2

end Cursor

namespace TableServer

/-- What is known of a cursor that changes all other settings between its reads. -/
theorem reads_ignore_settings_pagingCursor :
    let opened := pagingCursor.execute.state
    let other : Cursor TableServer :=
      { opened with
        columnInfo := false, nullsAsEmpty := true, cacheTarget := some "other", cacheTtl := 0 }
    let reads : List (Cursor.Act TableServer) :=
      [.reads 0 (·.rowTexts 0), .reads 2 (·.rowTexts 2), .reads 4 (·.rowTexts 4)]
    let acts : List (Cursor.Act TableServer) :=
      [.reads 0 (·.rowTexts 0), .sets other, .reads 2 (·.rowTexts 2),
        .sets { other with cacheTarget := none }, .reads 4 (·.rowTexts 4)]
    (∀ act ∈ acts, act.isRead = true ∨ act.isSetting = true) ∧
      opened.KeepsSize opened.bufferSize acts ∧ (opened.afterActs acts).result.rowCount = 5 ∧
      opened.history acts = opened.history reads ∧
      opened.pagesRead acts = opened.pagesRead reads ∧
      (opened.afterActs acts).release = (opened.afterActs reads).release := by
  intro opened other reads acts
  have only : ∀ act ∈ acts, act.isRead = true ∨ act.isSetting = true := by
    simp [acts, Cursor.Act.isRead, Cursor.Act.row?, Cursor.Act.isSetting]
  have kept : opened.KeepsSize opened.bufferSize acts := by
    refine Cursor.keepsSize_of_sets only fun settings mem => ?_
    simp only [acts, List.mem_cons, Cursor.Act.sets.injEq, reduceCtorEq, List.not_mem_nil,
      false_or, or_false] at mem
    rcases mem with rfl | rfl <;> rfl
  obtain ⟨alike, -⟩ := Cursor.reads_ignore_settings only opened
  obtain ⟨story, pages, -, released⟩ := alike kept
  exact ⟨only, kept, by decide +kernel, story, pages, released⟩

/-- **The number of rows to fetch at once takes effect at the next read**: the server,
which answers as documented, is asked for three rows in place of two. -/
theorem reads_follow_bufferSize :
    let opened := pagingCursor.execute.state
    let reads : List (Cursor.Act TableServer) := [.reads 2 (·.rowTexts 2)]
    let acts : List (Cursor.Act TableServer) := .sets { opened with bufferSize := 3 } :: reads
    PagingServer fiveRowStore (Substitutions.expand {} "") [] 0 (IsFreeAt fiveRowStore) ∧
      IsFreeAt fiveRowStore none pagingCursor.session.traffic.network ∧
      opened.result.id = some 7 ∧ opened.result.rowCount = 2 ∧
      (∃ bytes, (Request.fetch 7 0 2).encode = .ok bytes ∧
        (opened.afterActs reads).session.traffic.events =
          opened.session.traffic.events ++ [.sent 0 bytes] ∧
        (opened.afterActs reads).result.rowCount = 4) ∧
      ∃ bytes, (Request.fetch 7 0 3).encode = .ok bytes ∧
        (opened.afterActs acts).session.traffic.events =
          opened.session.traffic.events ++ [.sent 0 bytes] ∧
        (opened.afterActs acts).result.rowCount = 5 :=
  ⟨pagingServer fiveRowStore _ [] 0, isFreeAt_pagingCursor, by decide +kernel, by decide +kernel,
    ⟨_, rfl, by decide +kernel, by decide +kernel⟩,
    ⟨_, rfl, by decide +kernel, by decide +kernel⟩⟩

end TableServer

end ProxyClient
