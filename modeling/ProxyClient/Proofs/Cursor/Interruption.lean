/-
ProxyClient/Proofs/Cursor/Interruption.lean

What a fetch that fails leaves of the page.  A page is begun in the place of
the former one, and takes the rows as they arrive; so when the fetch breaks
off, whatever the reason and wherever the rows come from,

    rows   →  those that had arrived by then, and none of the former page
    count  →  what it was when the page was begun, as only the end of a batch
              counts its rows
    rest   →  the identifier, the columns and the flags stay

The first row of the page is then the one behind all that were counted, so it
has moved, and no row that was shown before is shown any more.  A read may
fetch more than one page; those that came to their end are counted
(`BreaksOff`).  What has arrived is what a journal is told that stands beside
the page (`Cursor.told`).  The headline is `Cursor.failed_fetch_gives_up_page`.
-/
import ProxyClient.Proofs.Cursor.Fetching
import ProxyClient.Proofs.Paging.Sources

namespace ProxyClient

/-! ### Answers that break off -/

/-- An answer that breaks off has not told of the end of a batch. -/
theorem Query.more_of_failed {ι : Type} [ByteSource ι] (request : QueryRequest) (input : ι)
    (query : Query (List RowEvent)) {e : Error}
    (failed : (readAnswer (exchange request Handler.journal) input query).toExcept = .error e) :
    ∃ events : List RowEvent,
      (readAnswer (exchange request Handler.journal) input query).state.2.handler =
        query.handler ++ events ∧
      ∀ event ∈ events, progressAfter event = .more := by
  -- the induction follows the frames of the answer
  fun_induction readAnswer (exchange request Handler.journal) input query with
  | case1 | case2 => exact ⟨[], (List.append_nil _).symm, by simp⟩
  | case3 input query frame input' _ err query' step =>
    rcases step_journal request frame query with ⟨e, phase, step'⟩ | ⟨event, -, step'⟩
    · obtain ⟨-, rfl⟩ := EStateM.Result.error.inj (step.symm.trans step')
      exact ⟨[], (List.append_nil _).symm, by simp⟩
    · rw [step] at step'
      contradiction
  | case4 => contradiction
  | case5 input query frame input' _ query' step _ ih =>
    rcases step_journal request frame query with ⟨e, phase, step'⟩ | ⟨event, place, step'⟩
    · rw [step] at step'
      contradiction
    · obtain ⟨more, rfl⟩ := EStateM.Result.ok.inj (step.symm.trans step')
      obtain ⟨events, kept, all⟩ := ih failed
      refine ⟨event :: events, ?_, List.forall_mem_cons.mpr ⟨more.symm, all⟩⟩
      rw [kept, List.append_assoc]
      rfl

/-- Before the end of a batch there are rows and output variables. -/
theorem InPlace.inside_of_more {events : List RowEvent} (places : InPlace .processingRows events)
    (more : ∀ event ∈ events, Query.progressAfter event = .more) :
    ∀ event ∈ events, (∃ row, event = .row row) ∨ ∃ binds, event = .outputBinds binds := by
  induction events with
  | nil => simp
  | cons event events ih =>
    obtain ⟨place, rest⟩ := places
    obtain ⟨first, others⟩ := List.forall_mem_cons.mp more
    cases event with
    | describe d =>
      have place : QueryPhase.waitingDescribe = .processingRows := place
      contradiction
    | batchEnd batch => contradiction
    | outputBinds binds => exact List.forall_mem_cons.mpr ⟨.inr ⟨binds, rfl⟩, ih rest others⟩
    | row row => exact List.forall_mem_cons.mpr ⟨.inl ⟨row, rfl⟩, ih rest others⟩

/-- So it is with what a session is told of an answer that breaks off. -/
theorem Session.inside_of_failed {ν : Type} [Network ν] {request : QueryRequest}
    {session : Session ν} {e : Error} (expects : request.firstPhase = .processingRows)
    (failed : (session.ask request).toExcept = .error e) :
    ∀ event ∈ (session.ask request).state.2,
      (∃ row, event = .row row) ∨ ∃ binds, event = .outputBinds binds := by
  have places := (session.ask_inPlace request).1
  rw [expects] at places
  refine places.inside_of_more ?_
  rcases session.ask_cases request with ⟨e, after, asked⟩ | ⟨input, ends, kept⟩
  · rw [asked]
    simp [Outcome.state]
  · rw [ends] at failed
    obtain ⟨events, told, more⟩ := Query.more_of_failed request input _ failed
    rw [kept, told]
    exact more

/-- Rows and output variables fill the page, and change nothing that is known of the
result set. -/
theorem ResultSet.foldl_inside {events : List RowEvent}
    (inside : ∀ event ∈ events, (∃ row, event = .row row) ∨ ∃ binds, event = .outputBinds binds)
    (rs : ResultSet) :
    let arrived := (RowEvent.rowsOf events).map DataRow.values
    events.foldl apply rs = { rs with
      rows := rs.rows ++ arrived
      longest := arrived.foldl widen rs.longest
      outputs := (events.filterMap RowEvent.binds?).getLastD rs.outputs } := by
  induction events generalizing rs with
  | nil => simp [RowEvent.rowsOf]
  | cons event events ih =>
    obtain ⟨first, others⟩ := List.forall_mem_cons.mp inside
    rw [List.foldl_cons, ih others]
    rcases first with ⟨row, rfl⟩ | ⟨binds, rfl⟩
    · have front : RowEvent.rowsOf (.row row :: events) = row :: RowEvent.rowsOf events := rfl
      have same : (RowEvent.row row :: events).filterMap RowEvent.binds? =
          events.filterMap RowEvent.binds? := rfl
      simp [front, same, apply, addRow]
    · -- of output variables the last ones count
      have front : RowEvent.rowsOf (.outputBinds binds :: events) = RowEvent.rowsOf events := rfl
      have last : (RowEvent.outputBinds binds :: events).filterMap RowEvent.binds? =
          binds :: events.filterMap RowEvent.binds? := rfl
      rw [front, last, List.getLastD_cons]
      rfl

/-! ### Files beside a journal -/

namespace CacheReader

variable {σ η : Type} {f : σ → η} {image : Handler η} {handler : Handler σ}

/-- Rows are handed over alike to a handler that does the same with images of states. -/
theorem sendRows_map (same : ∀ event state, image event (f state) = (handler event state).mapState f)
    (diskOf : η → Disk) (count : Nat) (reader : CacheReader) (state : σ) :
    sendRows image diskOf count reader (f state) =
      (sendRows handler (fun s => diskOf (f s)) count reader state).mapState (Prod.map id f) := by
  -- both read the same rows, since the disk is seen through the map
  induction count generalizing reader state with
  | zero => rfl
  | succ count ih =>
    rw [sendRows, sendRows]
    rcases reader.nextRow (diskOf (f state)) with ⟨- | payload, after⟩ | ⟨e, after⟩
    · rfl
    · simp only
      rcases decoded DataRow.decoder payload with fault | row
      · rfl
      · simp only [same]
        rcases handler (.row row) state with ⟨⟨⟩, state'⟩ | ⟨e, state'⟩
        · exact ih after state'
        · rfl
    · rfl

/-- So are pages. -/
theorem fetch_map (same : ∀ event state, image event (f state) = (handler event state).mapState f)
    (diskOf : η → Disk) (skip limit : Nat) (reader : CacheReader) (state : σ) :
    reader.fetch image diskOf skip limit (f state) =
      (reader.fetch handler (fun s => diskOf (f s)) skip limit state).mapState (Prod.map id f) := by
  rw [fetch, fetch]
  rcases skipRows (diskOf (f state)) skip reader with ⟨skipped, reader'⟩ | ⟨e, reader'⟩
  · simp only [sendRows_map same]
    rcases sendRows handler (fun s => diskOf (f s)) _ reader' state with
      ⟨⟨⟩, after, state'⟩ | ⟨e, after, state'⟩
    · show (image _ (f state')).mapState _ = ((handler _ state').mapState _).mapState _
      rw [same, Outcome.mapState_mapState, Outcome.mapState_mapState]
      rfl
    · rfl
  · rfl

/-- A journal beside a handler that takes everything. -/
theorem takes_journal_tee {take : η → RowEvent → η} (takes : image.Takes take) :
    (Handler.journal.tee image).Takes fun s event => (s.1 ++ [event], take s.2 event) := by
  rintro event ⟨log, state⟩
  have noted : Handler.journal event log = .ok () (log ++ [event]) := rfl
  exact Handler.tee_of_ok noted (takes event state)

theorem foldl_journal_tee (take : η → RowEvent → η) (events log : List RowEvent) (state : η) :
    events.foldl (fun s event => (s.1 ++ [event], take s.2 event)) (log, state) =
      (log ++ events, events.foldl take state) := by
  induction events generalizing log state with
  | nil => rw [List.append_nil]; rfl
  | cons event events ih =>
    rw [List.foldl_cons, ih, List.append_assoc]
    rfl

/-- A page with a journal beside the handler: the journal keeps rows, and a batch end if
the page comes to its end; and the handler takes what the journal keeps. -/
theorem fetch_journal {take : η → RowEvent → η} (takes : image.Takes take) (diskOf : η → Disk)
    (skip limit : Nat) (reader : CacheReader) (state : η) :
    let beside := reader.fetch (Handler.journal.tee image) (fun s => diskOf s.2) skip limit ([], state)
    reader.fetch image diskOf skip limit state =
        beside.mapState (fun s => (s.1, s.2.1.foldl take state)) ∧
      ∀ e s, beside = .error e s → ∃ rows : List DataRow, s.2.1 = rows.map .row := by
  intro beside
  -- the journal stands beside the handler, and can be taken away again
  have same (event : RowEvent) (s : List RowEvent × η) :
      image event s.2 = ((Handler.journal.tee image) event s).mapState Prod.snd := by
    show _ = ((image event s.2).mapState _).mapState _
    rw [Outcome.mapState_mapState]
    rcases image event s.2 with ⟨⟨⟩, state'⟩ | ⟨e, state'⟩
    · rfl
    · rfl
  have along : reader.fetch image diskOf skip limit state = beside.mapState (Prod.map id Prod.snd) :=
    fetch_map same diskOf skip limit reader ([], state)
  rw [along]
  rcases fetch_cases (takes_journal_tee takes) (fun s => diskOf s.2) skip limit reader ([], state) with
    ⟨rows, batch, after, fetched⟩ | ⟨rows, e, after, fetched⟩
  · rw [foldl_journal_tee, List.nil_append] at fetched
    rw [show beside = _ from fetched]
    exact ⟨rfl, fun e s failed => by contradiction⟩
  · rw [foldl_journal_tee, List.nil_append] at fetched
    rw [show beside = _ from fetched]
    refine ⟨rfl, fun e s failed => ⟨rows, ?_⟩⟩
    obtain ⟨-, rfl⟩ := EStateM.Result.error.inj failed
    rfl

end CacheReader

/-! ### What is kept -/

/-- What was shown is shown still, and the counters are as they were. -/
structure ResultSet.Survives (rs after : ResultSet) : Prop where
  /-- Rows of the page are rows of the other one, with their values. -/
  shown : ∀ i values, rs.bufferedRow i = some values → after.bufferedRow i = some values
  /-- The counters are the same. -/
  counters : after.counters = rs.counters

/-- Where all rows of a page are counted, none is shown behind them. -/
theorem ResultSet.IsClosed.lt_of_bufferedRow {rs : ResultSet} (closed : rs.IsClosed) {i : Nat}
    (shown : (rs.bufferedRow i).isSome = true) : i < rs.rowCount := by
  have counted : rs.rowCount = rs.firstRow + rs.rows.length := closed
  rw [bufferedRow] at shown
  split at shown
  · contradiction
  · have inside : i - rs.firstRow < rs.rows.length := by simpa using shown
    omega

/-- A page that is replaced by one behind its rows survives only if there were none. -/
theorem ResultSet.IsClosed.survives_iff {rs after : ResultSet} (closed : rs.IsClosed)
    (fits : after.rowCount < 2 ^ 64) (grown : rs.rowCount ≤ after.rowCount)
    (begun : after.firstRow = after.rowCount) :
    rs.Survives after ↔ after.rowCount = rs.firstRow := by
  have counted : rs.rowCount = rs.firstRow + rs.rows.length := closed
  constructor
  · intro survives
    -- the words are equal only if the numbers are, which fit into them
    have same := congrArg (fun words => words.1.toNat) survives.counters
    simp only [counters, UInt64.toNat_ofNat'] at same
    omega
  · intro nothing
    have empty : rs.rows = [] := List.length_eq_zero_iff.mp (by omega)
    refine ⟨fun i values shown => ?_, ?_⟩
    · rw [bufferedRow_of_nil empty] at shown
      contradiction
    · rw [counters, counters, begun, nothing, counted, empty]
      rfl

namespace Cursor

variable {ν : Type} [Network ν] {cursor before after : Cursor ν} {row pages : Nat} {e : Error}

/-! ### What has arrived -/

/-- The events of the answer to a fetch, as a journal is told them that stands beside the
page and the recorder. -/
def told (skip : Nat) (cursor : Cursor ν) : List RowEvent :=
  match cursor.result.id, cursor.source with
  | none, _ => []
  | some id, none =>
    (cursor.session.ask (.fetch id (UInt64.ofNat skip) cursor.bufferSize)).state.2
  | some _, some reader =>
    (reader.fetch (Handler.journal.tee reception) (fun s => Reception.disk s.2) skip
      cursor.bufferSize.toNat ([], cursor.begun.parts)).state.2.1

/-- The page takes these events. -/
theorem result_fetchPage (there : cursor.result.id.isSome = true) (skip : Nat) :
    (cursor.fetchPage skip).state.result =
      (cursor.told skip).foldl ResultSet.apply cursor.begun.result := by
  obtain ⟨id, known⟩ := Option.isSome_iff_exists.mp there
  rcases source : cursor.source with - | reader
  · -- of the server
    rw [fetchPage_eq_ask source known, told, known, source]
    simp only
    rcases cursor.session.ask (.fetch id (UInt64.ofNat skip) cursor.bufferSize) with
      ⟨⟨⟩, session, events⟩ | ⟨e, session, events⟩
    · exact taking_result ..
    · exact taking_result ..
  · -- from a file
    rw [fetchPage_eq_fetch source known, told, known, source]
    simp only
    rw [(CacheReader.fetch_journal takes_reception Reception.disk skip cursor.bufferSize.toNat reader
      cursor.begun.parts).1]
    rcases reader.fetch (Handler.journal.tee reception) (fun s => Reception.disk s.2) skip
      cursor.bufferSize.toNat ([], cursor.begun.parts) with ⟨⟨⟩, reader', events, parts⟩ |
        ⟨e, reader', events, parts⟩
    · exact rereading_result cursor.begun reader' events
    · exact rereading_result cursor.begun reader' events

/-- If the fetch fails there is no end of a batch among them. -/
theorem inside_of_failed {skip : Nat} (failed : cursor.fetchPage skip = .error e after) :
    ∀ event ∈ cursor.told skip,
      (∃ row, event = .row row) ∨ ∃ binds, event = .outputBinds binds := by
  rw [told]
  rcases known : cursor.result.id with - | id
  · simp
  · rcases source : cursor.source with - | reader
    · -- the server would have closed the page with a batch end
      rw [fetchPage_eq_ask source known] at failed
      refine Session.inside_of_failed (e := e) rfl ?_
      generalize cursor.session.ask (.fetch id (UInt64.ofNat skip) cursor.bufferSize) = asked at failed
      rcases asked with ⟨⟨⟩, session, events⟩ | ⟨e, session, events⟩
      · contradiction
      · obtain ⟨rfl, -⟩ := EStateM.Result.error.inj failed
        rfl
    · -- the file broke off within the rows
      rw [fetchPage_eq_fetch source known] at failed
      obtain ⟨same, rows⟩ := CacheReader.fetch_journal takes_reception Reception.disk skip
        cursor.bufferSize.toNat reader cursor.begun.parts
      rw [same] at failed
      simp only
      generalize reader.fetch (Handler.journal.tee reception) (fun s => Reception.disk s.2) skip
        cursor.bufferSize.toNat ([], cursor.begun.parts) = fetched at failed rows
      rcases fetched with ⟨⟨⟩, s⟩ | ⟨e, s⟩
      · contradiction
      · obtain ⟨rows, same⟩ := rows e s rfl
        intro event mem
        rw [show (Outcome.state (.error e s)).2.1 = _ from same] at mem
        obtain ⟨row, -, rfl⟩ := List.mem_map.mp mem
        exact .inl ⟨row, rfl⟩

/-- From a session that sends nothing nothing arrives. -/
theorem told_of_refuses (live : cursor.source = none) (refuses : cursor.session.Refuses)
    (skip : Nat) : cursor.told skip = [] := by
  obtain ⟨e, refused⟩ := Session.exists_ask_of_refuses refuses
  rw [told, live]
  rcases cursor.result.id with - | id
  · rfl
  · simp only [refused]
    rfl

/-! ### Searches that break off -/

/-- A search for a row breaks off: behind some pages that are fetched whole, the page
that is wanted before the search ends cannot be fetched. -/
inductive BreaksOff (row : Nat) (before : Cursor ν) (e : Error) (after : Cursor ν) :
    Nat → Cursor ν → Prop
  /-- The next page cannot be fetched. -/
  | here : before.result.needsFetch row = true →
      before.fetchPage (before.skipFor row) = .error e after → BreaksOff row before e after 0 before
  /-- The search goes on behind a page. -/
  | later {cursor next : Cursor ν} {count pages : Nat} : cursor.result.needsFetch row = true →
      cursor.fetchPage (cursor.skipFor row) = .ok count next →
      (count = 0 → next.result.ended = true) → BreaksOff row before e after pages next →
      BreaksOff row before e after (pages + 1) cursor

variable {start : Cursor ν}

theorem BreaksOff.searches (breaks : BreaksOff row before e after pages start) :
    Searches row (pages + 1) start (after.note e) := by
  induction breaks with
  | here needs failed => exact .failed needs failed
  | later needs brought ended _ ih => exact .onward needs brought ended ih

/-- The page that fails is wanted. -/
theorem BreaksOff.last (breaks : BreaksOff row before e after pages start) :
    before.result.needsFetch row = true ∧
      before.fetchPage (before.skipFor row) = .error e after := by
  induction breaks with
  | here needs failed => exact ⟨needs, failed⟩
  | later _ _ _ _ ih => exact ih

/-- The pages in front of it are counted. -/
theorem BreaksOff.rowCount_le (breaks : BreaksOff row before e after pages start) :
    start.result.rowCount ≤ before.result.rowCount := by
  induction breaks with
  | here => exact Nat.le_refl _
  | later needs brought _ _ ih =>
    have counted := rowCount_of_fetchPage needs brought
    omega

theorem BreaksOff.eq_start (breaks : BreaksOff row before e after pages start)
    (first : pages = 0) : before = start := by
  cases breaks with
  | here => rfl
  | later => contradiction

/-- The page that was there when the read began was not given up before. -/
theorem BreaksOff.checkEpoch_eq (breaks : BreaksOff row before e after pages cursor.checkEpoch) :
    cursor.checkEpoch = cursor := by
  have needs : cursor.checkEpoch.result.needsFetch row = true := by
    cases breaks with
    | here needs => exact needs
    | later needs => exact needs
  obtain ⟨-, present, -⟩ := ResultSet.more_of_needsFetch needs
  rw [checkEpoch] at present ⊢
  split at present
  · rw [detachRecorder_eq] at present
    contradiction
  · next near => exact if_neg near

/-- **A fetch that fails gives up the former page.**  The page that is begun in its place
holds the rows that arrived, its first row is the one behind all that were counted, and the
error is remembered; of what else is known of the result set nothing changes.  So no row
that was shown is shown any more, and the first row has moved.  All is as it was only if
the page was empty and no other was fetched whole by the same read.

The counters have to fit into their 64 bits. -/
theorem failed_fetch_gives_up_page
    (breaks : BreaksOff row before e after pages cursor.checkEpoch)
    (fits : before.result.rowCount < 2 ^ 64) :
    let read := cursor.ensureRow row
    let events := before.told (before.skipFor row)
    let arrived := (RowEvent.rowsOf events).map DataRow.values
    read = after.note e ∧
    read.result = { before.result with
      rows := arrived
      pageStart := before.result.rowCount
      firstRow := before.result.rowCount
      longest := arrived.foldl ResultSet.widen before.result.longest
      outputs := (events.filterMap RowEvent.binds?).getLastD before.result.outputs } ∧
    (pages = 0 → before = cursor) ∧
    cursor.result.counters.2 ≤ read.result.counters.2 ∧
    (before.source = none → before.session.Refuses → arrived = []) ∧
    (cursor.result.IsClosed →
      (∀ i, (cursor.result.bufferedRow i).isSome = true → read.result.bufferedRow i = none) ∧
      (cursor.result.Survives read.result ↔ before.result.rowCount = cursor.result.firstRow)) := by
  intro read events arrived
  obtain ⟨_, search⟩ := exists_searches row cursor.checkEpoch
  have noted : read = after.note e := (breaks.searches.unique search).2
  obtain ⟨needs, failed⟩ := breaks.last
  obtain ⟨-, -, there⟩ := ResultSet.more_of_needsFetch needs
  -- the page that was begun takes what arrives
  have taken := result_fetchPage there (before.skipFor row)
  rw [failed] at taken
  have result : read.result = { before.result with
      rows := arrived
      pageStart := before.result.rowCount
      firstRow := before.result.rowCount
      longest := arrived.foldl ResultSet.widen before.result.longest
      outputs := (events.filterMap RowEvent.binds?).getLastD before.result.outputs } := by
    rw [noted]
    exact taken.trans (ResultSet.foldl_inside (inside_of_failed failed) before.begun.result)
  have grown := breaks.rowCount_le
  rw [rowCount_checkEpoch] at grown
  have counted : read.result.rowCount = before.result.rowCount := by rw [result]
  have begun : read.result.firstRow = read.result.rowCount := by rw [result]
  refine ⟨noted, result, ?_, ?_, ?_, fun closed => ⟨fun i shown => ?_, ?_⟩⟩
  · -- the first page of the read
    intro first
    rw [breaks.eq_start first, breaks.checkEpoch_eq]
  · -- the counters do not overflow
    show UInt64.ofNat cursor.result.rowCount ≤ UInt64.ofNat read.result.rowCount
    rw [counted, UInt64.ofNat_le_iff_le (Nat.lt_of_le_of_lt grown fits) fits]
    exact grown
  · -- nothing arrives over a connection that cannot be used
    intro live refuses
    show (RowEvent.rowsOf (before.told _)).map DataRow.values = []
    rw [told_of_refuses live refuses]
    rfl
  · have early := closed.lt_of_bufferedRow shown
    exact if_pos (by omega)
  · rw [closed.survives_iff (counted ▸ fits) (counted ▸ grown) begun, counted]

end Cursor

namespace TableServer

/-- What is known of a read whose only fetch brings two rows and breaks off. -/
theorem failed_fetch_gives_up_page_failingCursor :
    ∃ e after, Cursor.BreaksOff 2 failingCursor.checkEpoch e after 0 failingCursor.checkEpoch ∧
      failingCursor.result.IsClosed ∧
      (failingCursor.ensureRow 2).result.rows = [[some (Bytes.ofText "r2")], [some (Bytes.ofText "r3")]] ∧
      (failingCursor.ensureRow 2).result.firstRow = 2 ∧
      (failingCursor.ensureRow 2).result.bufferedRow 0 = none ∧
      ¬ failingCursor.result.Survives (failingCursor.ensureRow 2).result := by
  -- what the fetch asks for, and what arrives of it
  have needs : failingCursor.checkEpoch.result.needsFetch 2 = true := by decide +kernel
  have fails : (failingCursor.checkEpoch.fetchPage (failingCursor.checkEpoch.skipFor 2)).toExcept
      matches .error _ := by decide +kernel
  have arrived : (RowEvent.rowsOf (failingCursor.checkEpoch.told
      (failingCursor.checkEpoch.skipFor 2))).map DataRow.values =
        [[some (Bytes.ofText "r2")], [some (Bytes.ofText "r3")]] := by decide +kernel
  have count : failingCursor.checkEpoch.result.rowCount = 2 := by decide +kernel
  have fits : failingCursor.checkEpoch.result.rowCount < 2 ^ 64 := by
    rw [count]
    decide
  have closed : failingCursor.result.IsClosed := by decide +kernel
  have first : failingCursor.result.firstRow = 0 := by decide +kernel
  rcases fetched : failingCursor.checkEpoch.fetchPage (failingCursor.checkEpoch.skipFor 2) with
    ⟨count, after⟩ | ⟨e, after⟩
  · rw [fetched] at fails
    contradiction
  · have breaks : Cursor.BreaksOff 2 failingCursor.checkEpoch e after 0 failingCursor.checkEpoch :=
      .here needs fetched
    obtain ⟨-, result, -, -, -, given_up⟩ :=
      Cursor.failed_fetch_gives_up_page breaks fits
    obtain ⟨hidden, survives⟩ := given_up closed
    refine ⟨e, after, breaks, closed, ?_, ?_, hidden 0 (by decide +kernel), ?_⟩
    · rw [result]
      exact arrived
    · rw [result]
      exact count
    · rw [survives, count, first]
      decide

/-- A cursor that records what it reads, of a server that can send two pages of two rows
and one row more. -/
def recordingCursor : Cursor TableServer :=
  ({ (TableServer.mk fiveRowStore none (some 127)).cursor {} with
      bufferSize := 2, cacheTarget := some "rows" } : Cursor TableServer).execute.state

/-- **A row that was readable is not readable any more** when the fetch for another one
has failed, and the first row has moved to where the next page was to begin; and a read
that fetched a page whole before has counted its rows. -/
theorem failed_fetch_gives_up_rows :
    (failingCursor.result.rowTexts 0 = some [some "r0"] ∧
      failingCursor.result.counters = (0, 2) ∧
      failingCursor.result.needsFetch 2 = true ∧ failingCursor.error = none ∧
      (failingCursor.ensureRow 2).error.isSome = true ∧
      (failingCursor.ensureRow 2).result.rowTexts 0 = none ∧
      (failingCursor.ensureRow 2).result.counters = (2, 2)) ∧
    recordingCursor.result.rowCount = 2 ∧ recordingCursor.error = none ∧
      (recordingCursor.ensureRow 4).error.isSome = true ∧
      (recordingCursor.ensureRow 4).result.rowCount = 4 := by
  refine ⟨⟨?_, ?_, ?_, ?_, ?_, ?_, ?_⟩, ?_, ?_, ?_, ?_⟩
  all_goals decide +kernel

end TableServer

end ProxyClient
