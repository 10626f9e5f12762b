/-
ProxyClient/Proofs/Cursor/Fetching.lean

The search for a row ends, whoever supplies the rows.  A search goes on from page to
page, and each page leaves it by one of four ways:

    the row is there, or no rows are left  →  the search ends
    the page cannot be fetched             →  it ends, and the error is remembered
    the page is empty, but not the last    →  it ends
    the page is any other                  →  it goes on, with more rows counted

`Searches` says so page by page, without a bound on the pages.  A page that is not
empty counts at least one row more, whatever it claims to have skipped, and behind an
empty page that is the last no other is asked for.  So there are as many pages as rows
were missing, and one more, at most (`Cursor.search_ends`).
-/
import ProxyClient.Proofs.Cursor.Courses

namespace ProxyClient

/-! ### Pages -/

/-- In front of the end of a batch there are rows and output variables. -/
theorem InPlace.inside {front : List RowEvent} {batch : BatchEnd}
    (places : InPlace .processingRows (front ++ [.batchEnd batch])) :
    ∀ event ∈ front, (∃ row, event = .row row) ∨ ∃ binds, event = .outputBinds binds := by
  induction front with
  | nil => simp
  | cons event front ih =>
    obtain ⟨place, rest⟩ := places
    cases event with
    | describe d =>
      have place : QueryPhase.waitingDescribe = .processingRows := place
      contradiction
    | batchEnd early =>
      -- nothing comes behind the end of a batch, and so not the other one
      have nothing : front ++ [RowEvent.batchEnd batch] = [] := eq_nil_of_finished rest
      simp at nothing
    | outputBinds binds => exact List.forall_mem_cons.mpr ⟨.inr ⟨binds, rfl⟩, ih rest⟩
    | row row => exact List.forall_mem_cons.mpr ⟨.inl ⟨row, rfl⟩, ih rest⟩

/-- At the end of a batch its rows are counted, and those that were skipped. -/
theorem ResultSet.IsOpenAt.rowCount_batchEnd {rs page : ResultSet} {id : ResultSetId}
    {position : Nat} (open_ : rs.IsOpenAt id position) {front : List RowEvent} {batch : BatchEnd}
    (inside : ∀ event ∈ front, (∃ row, event = .row row) ∨ ∃ binds, event = .outputBinds binds)
    (taken : page = (front ++ [RowEvent.batchEnd batch]).foldl apply rs) :
    page.rowCount = position + batch.rowsSkipped.toNat + page.rows.length := by
  have begun := (open_.foldl inside).pageStart
  rw [List.foldl_append] at taken
  generalize front.foldl apply rs = before at begun taken
  obtain rfl : page = before.endPage batch := taken
  show before.pageStart + batch.rowsSkipped.toNat + before.rows.length = _
  rw [begun]
  rfl

/-- The request asks for rows. -/
def Request.AsksForRows (request : Request) : Prop :=
  ∃ id skip limit, request = .fetch id skip limit

namespace Cursor

variable {ν : Type} [Network ν] {cursor after last : Cursor ν} {row : Nat}

/-- A page that was fetched took rows, and then the end of their batch. -/
theorem taken_of_fetchPage (there : cursor.result.id.isSome = true) {skip count : Nat}
    (brought : cursor.fetchPage skip = .ok count after) :
    ∃ front batch,
      (∀ event ∈ front, (∃ row, event = .row row) ∨ ∃ binds, event = .outputBinds binds) ∧
        after.result = (front ++ [RowEvent.batchEnd batch]).foldl ResultSet.apply
          cursor.begun.result ∧ count = after.result.rows.length := by
  obtain ⟨id, known⟩ := Option.isSome_iff_exists.mp there
  rcases source : cursor.source with - | reader
  · -- the server answers up to a batch end
    rw [fetchPage_eq_ask source known] at brought
    obtain ⟨places, closed⟩ := cursor.session.ask_inPlace
      (.fetch id (UInt64.ofNat skip) cursor.bufferSize)
    generalize cursor.session.ask _ = outcome at brought places closed
    rcases outcome with ⟨⟨⟩, session, events⟩ | ⟨e, session, events⟩
    · obtain ⟨front, batch, rfl⟩ := closed rfl
      obtain ⟨rfl, rfl⟩ := EStateM.Result.ok.inj brought
      exact ⟨front, batch, places.inside, taking_result .., rfl⟩
    · contradiction
  · -- a file is read up to one
    rw [fetchPage_eq_fetch source known] at brought
    rcases CacheReader.fetch_cases takes_reception Reception.disk skip cursor.bufferSize.toNat
      reader cursor.begun.parts with ⟨rows, batch, reader', fetched⟩ | ⟨rows, e, reader', fetched⟩
    · rw [fetched] at brought
      obtain ⟨rfl, rfl⟩ := EStateM.Result.ok.inj brought
      refine ⟨rows.map .row, batch, ?_, rereading_result cursor.begun reader' _, rfl⟩
      intro event mem
      obtain ⟨row, -, rfl⟩ := List.mem_map.mp mem
      exact .inl ⟨row, rfl⟩
    · rw [fetched] at brought
      contradiction

/-- Every row of a page is counted when the page was fetched. -/
theorem rowCount_of_fetchPage (needs : cursor.result.needsFetch row = true) {skip count : Nat}
    (brought : cursor.fetchPage skip = .ok count after) :
    cursor.result.rowCount + count ≤ after.result.rowCount := by
  obtain ⟨more, present, there⟩ := ResultSet.more_of_needsFetch needs
  obtain ⟨id, known⟩ := Option.isSome_iff_exists.mp there
  obtain ⟨front, batch, inside, taken, rfl⟩ := taken_of_fetchPage there brought
  have total := (isOpenAt_begun known more present).rowCount_batchEnd inside taken
  omega

/-- For a page the server is asked once at most, and not at all if the rows come from a
file. -/
theorem asks_fetchPage (skip : Nat) (cursor : Cursor ν) :
    ∃ requests, cursor.session.traffic.Asks requests (cursor.fetchPage skip).state.session.traffic ∧
      requests.length ≤ 1 ∧ (∀ request ∈ requests, request.AsksForRows) ∧
      (cursor.source.isSome = true → requests = []) := by
  by_cases silent : cursor.source.isSome = true
  · -- a file
    rw [(fetchPage_of_silent (.inl silent) skip).1]
    exact ⟨[], .refl _, Nat.zero_le 1, by simp, fun _ => rfl⟩
  · have source : cursor.source = none := by simpa using silent
    rcases known : cursor.result.id with - | id
    · -- nothing is open
      rw [fetchPage, known]
      exact ⟨[], .refl _, Nat.zero_le 1, by simp, fun _ => rfl⟩
    · -- a result set of the server: one request
      rw [state_fetchPage source known, query, Outcome.state_mapState]
      have asks := Session.asks_run
        (Query.sends_exchange (.fetch id (UInt64.ofNat skip) cursor.bufferSize) reception)
        cursor.begun.session { handler := cursor.begun.parts }
      refine ⟨_, asks, Session.length_requests_le .., fun request mem => ?_,
        fun some_ => absurd some_ silent⟩
      exact ⟨id, UInt64.ofNat skip, cursor.bufferSize, Session.eq_of_mem_requests mem⟩

/-! ### Searches -/

/-- A search for a row that asks for a number of pages, told page by page. -/
inductive Searches (row : Nat) : Nat → Cursor ν → Cursor ν → Prop
  /-- The row is there, or there are no more rows. -/
  | enough {cursor : Cursor ν} : cursor.result.needsFetch row = false →
      Searches row 0 cursor cursor
  /-- A page cannot be fetched, and the error is remembered. -/
  | failed {cursor after : Cursor ν} {e : Error} : cursor.result.needsFetch row = true →
      cursor.fetchPage (cursor.skipFor row) = .error e after →
      Searches row 1 cursor (after.note e)
  /-- A page is empty, and not the last. -/
  | stuck {cursor after : Cursor ν} : cursor.result.needsFetch row = true →
      cursor.fetchPage (cursor.skipFor row) = .ok 0 after → after.result.ended = false →
      Searches row 1 cursor after
  /-- The search goes on behind a page. -/
  | onward {cursor after last : Cursor ν} {count pages : Nat} :
      cursor.result.needsFetch row = true →
      cursor.fetchPage (cursor.skipFor row) = .ok count after →
      (count = 0 → after.result.ended = true) → Searches row pages after last →
      Searches row (pages + 1) cursor last

/-- Two searches from the same state come to the same. -/
theorem Searches.unique {pages pages' : Nat} {last' : Cursor ν}
    (h : Searches row pages cursor last) (h' : Searches row pages' cursor last') :
    pages' = pages ∧ last' = last := by
  induction h generalizing pages' last' with
  | enough enough =>
    cases h' with
    | enough => exact ⟨rfl, rfl⟩
    | failed needs | stuck needs | onward needs => rw [enough] at needs; contradiction
  | failed needs failed =>
    cases h' with
    | enough enough => rw [enough] at needs; contradiction
    | failed _ failed' =>
      obtain ⟨rfl, rfl⟩ := EStateM.Result.error.inj (failed.symm.trans failed')
      exact ⟨rfl, rfl⟩
    | stuck _ brought | onward _ brought => rw [failed] at brought; contradiction
  | stuck needs brought more =>
    cases h' with
    | enough enough => rw [enough] at needs; contradiction
    | failed _ failed => rw [brought] at failed; contradiction
    | stuck _ brought' =>
      obtain ⟨-, rfl⟩ := EStateM.Result.ok.inj (brought.symm.trans brought')
      exact ⟨rfl, rfl⟩
    | onward _ brought' ended =>
      obtain ⟨rfl, rfl⟩ := EStateM.Result.ok.inj (brought.symm.trans brought')
      rw [ended rfl] at more
      contradiction
  | onward needs brought ended _ ih =>
    cases h' with
    | enough enough => rw [enough] at needs; contradiction
    | failed _ failed => rw [brought] at failed; contradiction
    | stuck _ brought' more =>
      obtain ⟨rfl, rfl⟩ := EStateM.Result.ok.inj (brought.symm.trans brought')
      rw [ended rfl] at more
      contradiction
    | onward _ brought' _ search =>
      obtain ⟨rfl, rfl⟩ := EStateM.Result.ok.inj (brought.symm.trans brought')
      obtain ⟨rfl, rfl⟩ := ih search
      exact ⟨rfl, rfl⟩

/-- Reading up to a row is a search for it. -/
theorem exists_searches (row : Nat) (cursor : Cursor ν) :
    ∃ pages, Searches row pages cursor (cursor.fetchTo row) := by
  -- the induction follows the pages
  fun_induction Cursor.fetchTo row cursor with
  | case1 cursor needs e after failed => exact ⟨1, .failed needs failed⟩
  | case2 cursor needs count after brought stuck =>
    obtain ⟨rfl, more⟩ := stuck
    exact ⟨1, .stuck needs brought (by simpa using more)⟩
  | case3 cursor needs count after brought some_ _ _ ih =>
    obtain ⟨pages, search⟩ := ih
    refine ⟨pages + 1, .onward needs brought (fun zero => ?_) search⟩
    simpa [zero] using some_
  | case4 cursor needs count after brought some_ still =>
    -- a page that counts no row is empty, so it is the last
    have counted := rowCount_of_fetchPage needs brought
    have zero : count = 0 := by omega
    have ended : after.result.ended = true := by simpa [zero] using some_
    exact ⟨1, .onward needs brought (fun _ => ended) (.enough (ResultSet.needsFetch_of_ended ended))⟩
  | case5 cursor enough => exact ⟨0, .enough (by simpa using enough)⟩

/-- There are as many pages as rows are missing, and one more, at most. -/
theorem Searches.pages_le {pages : Nat} (search : Searches row pages cursor last) :
    pages ≤ row + 1 - cursor.result.rowCount := by
  have missing {cursor : Cursor ν} (needs : cursor.result.needsFetch row = true) :
      cursor.result.rowCount ≤ row := ResultSet.rowCount_le_of_needsFetch needs
  induction search with
  | enough => exact Nat.zero_le _
  | failed needs => have := missing needs; omega
  | stuck needs => have := missing needs; omega
  | @onward cursor after last count pages needs brought ended rest ih =>
    have counted := rowCount_of_fetchPage needs brought
    have before := missing needs
    by_cases zero : count = 0
    · -- behind the last page nothing is asked for
      have done := (rest.unique (.enough (ResultSet.needsFetch_of_ended (ended zero)))).1
      omega
    · omega

/-- For every page the server is asked once at most, and not at all if the rows come from
a file. -/
theorem Searches.asks {pages : Nat} (search : Searches row pages cursor last) :
    ∃ requests, cursor.session.traffic.Asks requests last.session.traffic ∧
      requests.length ≤ pages ∧ (∀ request ∈ requests, request.AsksForRows) ∧
      (cursor.source.isSome = true → requests = []) := by
  -- each page of the search asks once at most, and not at all for a file
  induction search with
  | enough => exact ⟨[], .refl _, Nat.le_refl 0, by simp, fun _ => rfl⟩
  | @failed cursor after e needs failed =>
    have asks := asks_fetchPage (cursor.skipFor row) cursor
    rw [failed] at asks
    exact asks
  | @stuck cursor after needs brought =>
    have asks := asks_fetchPage (cursor.skipFor row) cursor
    rw [brought] at asks
    exact asks
  | @onward cursor after last count pages needs brought ended rest ih =>
    obtain ⟨requests, asks, once, forRows, silent⟩ := asks_fetchPage (cursor.skipFor row) cursor
    obtain ⟨requests', asks', bounded, forRows', silent'⟩ := ih
    have stays (source : cursor.source.isSome = true) :=
      (fetchPage_of_silent (.inl source) (cursor.skipFor row)).2
    rw [brought] at asks stays
    refine ⟨requests ++ requests', asks.trans asks', ?_,
      List.forall_mem_append.mpr ⟨forRows, forRows'⟩, fun source => ?_⟩
    · rw [List.length_append]
      omega
    · rw [silent source, silent' ((stays source).trans source)]
      rfl

omit [Network ν] in
/-- A page that is given up keeps its counters. -/
theorem rowCount_checkEpoch (cursor : Cursor ν) :
    cursor.checkEpoch.result.rowCount = cursor.result.rowCount := by
  rw [checkEpoch]
  split
  · rw [detachRecorder_eq]
    rfl
  · rfl

omit [Network ν] in
theorem source_checkEpoch (cursor : Cursor ν) : cursor.checkEpoch.source = cursor.source := by
  obtain ⟨result, recorder, disk, checked⟩ := checkEpoch_with cursor
  rw [checked]

/-- **Reading a row ends.**  It searches page by page to the end, which there is one of;
it asks the server for nothing but rows, at most once for every row that was missing and
once more, and not at all if the row was counted already or the rows come from a file. -/
theorem search_ends (row : Nat) (cursor : Cursor ν) :
    ∃ pages requests,
      Searches row pages cursor.checkEpoch (cursor.ensureRow row) ∧
      (∀ pages' last, Searches row pages' cursor.checkEpoch last →
        pages' = pages ∧ last = cursor.ensureRow row) ∧
      (row < cursor.result.rowCount → pages = 0) ∧
      (cursor.result.rowCount ≤ row → pages ≤ row - cursor.result.rowCount + 1) ∧
      cursor.session.traffic.Asks requests (cursor.ensureRow row).session.traffic ∧
      (∀ request ∈ requests, request.AsksForRows) ∧
      requests.length ≤ pages ∧
      (cursor.source.isSome = true → requests = []) := by
  obtain ⟨pages, search⟩ := exists_searches row cursor.checkEpoch
  have bounded := search.pages_le
  obtain ⟨requests, asks, once, forRows, silent⟩ := search.asks
  rw [rowCount_checkEpoch] at bounded
  rw [source_checkEpoch] at silent
  rw [session_checkEpoch] at asks
  exact ⟨pages, requests, search, fun _ _ other => search.unique other, fun there => by omega,
    fun missing => by omega, asks, forRows, once, silent⟩

end Cursor

end ProxyClient
