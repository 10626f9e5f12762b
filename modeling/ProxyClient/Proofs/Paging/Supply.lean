/-
ProxyClient/Proofs/Paging/Supply.lean

Where the rows of a cursor come from: a server over a link that may be lost,
a cache file that may be torn, or nowhere any more.  `IsSupplied rows p` says
that the next rows are those from `p` on.  A fetch skips rows and then

    brings a batch             →  the page holds it, and the supply stands behind it
    is cut off in the batch    →  the page shows the rows behind those that were
                                  skipped, but is open where it was begun
-/
import ProxyClient.Proofs.Cache.Reading
import ProxyClient.Proofs.Paging.Server

namespace ProxyClient

variable {ν : Type}

/-! ### Files beside a recorder -/

/-- A writer changes no other file than its own. -/
theorem CacheWriter.leaves_other (id : FileId) (bytes : Bytes) :
    CacheReader.Leaves Prod.snd (fun state event => state.1.apply event state.2) id bytes
      fun state : CacheWriter × Disk => state.1.file.id ≠ id ∧ state.2.bytesOf id = bytes where
  bytesOf_eq := And.right
  keeps := by
    rintro ⟨writer, disk⟩ ⟨other, same⟩ event
    have keeps := writer.keeps_apply event disk
    refine ⟨?_, ?_⟩
    · rw [show (writer.apply event disk).1.file.id = writer.file.id from keeps.id_eq]
      exact other
    · rw [← same]
      exact keeps.only.bytesOf_eq id (Ne.symm other)

namespace Cursor

/-- The recorder writes into another file than that with these bytes. -/
structure Reception.Spares (id : FileId) (bytes : Bytes) (parts : Reception) : Prop where
  /-- It has another file. -/
  apart : ∀ writer, parts.2.1 = some writer → writer.file.id ≠ id
  /-- The file is as it was. -/
  bytesOf_eq : parts.disk.bytesOf id = bytes

theorem Reception.leaves_spares (id : FileId) (bytes : Bytes) :
    CacheReader.Leaves Reception.disk Reception.take id bytes (Reception.Spares id bytes) where
  bytesOf_eq := fun spares => spares.bytesOf_eq
  keeps := by
    rintro ⟨rs, - | writer, disk⟩ ⟨apart, bytesOf_eq⟩ event
    · refine ⟨?_, bytesOf_eq⟩
      intro writer there
      contradiction
    · have left : (writer, disk).1.file.id ≠ id ∧ (writer, disk).2.bytesOf id = bytes :=
        ⟨apart writer rfl, bytesOf_eq⟩
      obtain ⟨other, same⟩ := (CacheWriter.leaves_other id bytes).keeps left event
      refine ⟨?_, same⟩
      intro writer' there
      obtain rfl := Option.some.inj there
      exact other

/-- The cursor with a reader that has moved on, after its parts took some events. -/
def rereading (cursor : Cursor ν) (reader : CacheReader) (events : List RowEvent) : Cursor ν :=
  { cursor.taking cursor.session events with source := some reader }

theorem rereading_result (cursor : Cursor ν) (reader : CacheReader) (events : List RowEvent) :
    (cursor.rereading reader events).result = events.foldl ResultSet.apply cursor.result :=
  taking_result cursor cursor.session events

theorem rereading_recorder (cursor : Cursor ν) (reader : CacheReader) (events : List RowEvent) :
    ((cursor.rereading reader events).recorder, (cursor.rereading reader events).disk) =
      events.foldl CacheWriter.record (cursor.recorder, cursor.disk) :=
  taking_recorder cursor cursor.session events

theorem spares_rereading {cursor : Cursor ν} {id : FileId} {bytes : Bytes} (reader : CacheReader)
    (spares : cursor.parts.Spares id bytes) (events : List RowEvent) :
    (cursor.rereading reader events).parts.Spares id bytes :=
  (Reception.leaves_spares id bytes).foldl spares events

theorem isSome_rereading_recorder (cursor : Cursor ν) (reader : CacheReader)
    (events : List RowEvent) :
    (cursor.rereading reader events).recorder.isSome = cursor.recorder.isSome :=
  isSome_taking_recorder cursor cursor.session events

/-! ### Supplies -/

variable [Network ν]

/-- The next rows that a fetch brings are those from a position on, if it
brings any. -/
inductive IsSupplied (rows : List DataRow) (position : Nat) (cursor : Cursor ν) : Prop
  /-- A server stands there. -/
  | server {store : RowStore} {sql : String} {binds : List Bind} {link : LinkId}
      {stands : Option Nat → ν → Prop} (server : LossyServer store sql binds link stands)
      (rows_eq : store.rows = rows) (live : cursor.source = none)
      (known : cursor.result.id = some store.id) (ready : cursor.session.Ready link)
      (at_ : stands (some position) cursor.session.traffic.network)
  /-- Nobody is asked any more. -/
  | silent (live : cursor.source = none) (refuses : cursor.session.Refuses)
  /-- The reader of a file stands there. -/
  | file {reader : CacheReader} {bytes : Bytes} (fit : ∀ row ∈ rows, row.frame.Fits)
      (source : cursor.source = some reader) (at_ : reader.StandsAt bytes rows position)
      (spares : cursor.parts.Spares reader.file.id bytes)

/-- What a fetch from a position makes of a cursor. -/
structure HasFetched (rows : List DataRow) (id : ResultSetId) (position skip : Nat)
    (recording : Bool) (outcome : Outcome Nat (Cursor ν)) : Prop where
  /-- The supply goes on behind the rows that are counted. -/
  supplied : outcome.state.IsSupplied rows outcome.state.result.rowCount
  /-- A recorder stays, and none is started. -/
  recording_eq : outcome.state.recorder.isSome = recording
  /-- The page holds a batch of the rows, or it was cut off. -/
  page : (∃ count batch, outcome = .ok count outcome.state ∧
      outcome.state.result.HoldsBatch id rows position batch ∧
      batch.next position ≤ rows.length) ∨
    ∃ e count, outcome = .error e outcome.state ∧ outcome.state.result.IsOpenAt id position ∧
      outcome.state.result.rows = window rows (position + skip) count

section

variable {cursor : Cursor ν} {rows : List DataRow} {id : ResultSetId} {skip : Nat}

omit [Network ν] in
theorem isOpenAt_begun (known : cursor.result.id = some id) (more : cursor.result.ended = false)
    (present : cursor.result.suspended = false) :
    cursor.begun.result.IsOpenAt id cursor.result.rowCount :=
  ResultSet.isOpenAt_beginPage known rfl more present

/-- A fetch from a server that may be lost. -/
theorem hasFetched_of_server {store : RowStore} {sql : String} {binds : List Bind} {link : LinkId}
    {stands : Option Nat → ν → Prop} (server : LossyServer store sql binds link stands)
    (live : cursor.source = none) (known : cursor.result.id = some store.id)
    (ready : cursor.session.Ready link)
    (at_ : stands (some cursor.result.rowCount) cursor.session.traffic.network)
    (more : cursor.result.ended = false) (present : cursor.result.suspended = false)
    (small : skip < 2 ^ 64) :
    HasFetched store.rows store.id cursor.result.rowCount skip cursor.recorder.isSome
      (cursor.fetchPage skip) := by
  have open_ := isOpenAt_begun known more present
  obtain ⟨batch, within, delivers | loses⟩ :=
    server.fetches at_ (UInt64.ofNat skip) cursor.bufferSize
  · obtain ⟨session, ready', -, at', fetched⟩ := fetchPage_of_delivered live known ready delivers
    -- the answer arrived, and the batch end tells how many rows were skipped
    have page : (cursor.begun.taking session
        (store.fetched cursor.result.rowCount batch)).result.HoldsBatch store.id store.rows
          cursor.result.rowCount batch := by
      rw [taking_result]
      exact open_.holdsBatch rfl within.toNat_skipped within.next_le
    rw [fetched]
    refine ⟨.server server rfl live page.id_eq ready' ?_, isSome_taking_recorder ..,
      .inl ⟨_, batch, rfl, page, within.next_le⟩⟩
    rw [← page.rowCount] at at'
    exact at'
  · obtain ⟨e, session, count, broken, -, fetched⟩ := fetchPage_of_lost live known ready loses
    -- some rows of it may have arrived, behind as many as were to be skipped
    have asked : (UInt64.ofNat skip).toNat = skip := by
      rw [UInt64.toNat_ofNat', Nat.mod_eq_of_lt small]
    rw [within.drop_eq, asked, List.take_take] at fetched
    obtain ⟨cut, shown⟩ := open_.foldl_rows
      ((store.rows.drop (cursor.result.rowCount + skip)).take (min count batch.count))
    rw [← taking_result cursor.begun session] at cut shown
    rw [fetched]
    exact ⟨.silent live (.inl broken), isSome_taking_recorder .., .inr ⟨e, _, rfl, cut, shown⟩⟩

/-- A fetch for which nobody is asked. -/
theorem hasFetched_of_silent (live : cursor.source = none) (refuses : cursor.session.Refuses)
    (known : cursor.result.id = some id) (more : cursor.result.ended = false)
    (present : cursor.result.suspended = false) :
    HasFetched rows id cursor.result.rowCount skip cursor.recorder.isSome
      (cursor.fetchPage skip) := by
  obtain ⟨e, refused⟩ := query_of_refuses cursor.begun
    (.fetch id (UInt64.ofNat skip) cursor.bufferSize) refuses
  have fetched : cursor.fetchPage skip = .error e cursor.begun := by
    rw [fetchPage_eq_query live known, refused]
  rw [fetched]
  refine ⟨.silent live refuses, rfl, .inr ⟨e, 0, rfl, isOpenAt_begun known more present, ?_⟩⟩
  rw [window_zero]
  rfl

/-- A cursor on a file asks its reader for the page. -/
theorem fetchPage_eq_fetch {reader : CacheReader} (source : cursor.source = some reader)
    (known : cursor.result.id = some id) :
    cursor.fetchPage skip =
      match (reader.fetch reception Reception.disk skip cursor.bufferSize.toNat
        cursor.begun.parts).mapState
          fun (reader, parts) => { cursor.begun with source := some reader }.withParts parts with
      | .ok () after => .ok after.result.rows.length after
      | .error e after => .error e after := by
  rw [begun, Cursor.fetchPage]
  rw [known]
  exact source ▸ rfl

/-- A fetch from a file that may be torn. -/
theorem hasFetched_of_file {reader : CacheReader} {bytes : Bytes}
    (fit : ∀ row ∈ rows, row.frame.Fits) (source : cursor.source = some reader)
    (at_ : reader.StandsAt bytes rows cursor.result.rowCount)
    (spares : cursor.parts.Spares reader.file.id bytes) (known : cursor.result.id = some id)
    (more : cursor.result.ended = false) (present : cursor.result.suspended = false)
    (small : skip < 2 ^ 64) :
    HasFetched rows id cursor.result.rowCount skip cursor.recorder.isSome
      (cursor.fetchPage skip) := by
  have open_ := isOpenAt_begun known more present
  have begun : cursor.begun.parts.Spares reader.file.id bytes := ⟨spares.apart, spares.bytesOf_eq⟩
  obtain ⟨after, id_eq, ⟨batch, few, stands, fetched⟩ | ⟨empty, e, count, fetched⟩⟩ :=
    at_.fetch takes_reception fit skip cursor.bufferSize.toNat (Reception.leaves_spares _ _) begun
  · -- the page was read whole
    have page : (cursor.begun.taking cursor.session
        (batch.events rows cursor.result.rowCount)).result.HoldsBatch id rows
          cursor.result.rowCount batch := by
      rw [taking_result]
      exact open_.holdsBatch rfl
        (Batch.toNat_rowsSkipped_ending (Nat.lt_of_le_of_lt few small)) stands.position_le
    have fetched' : cursor.fetchPage skip =
        .ok (cursor.begun.rereading after
            (batch.events rows cursor.result.rowCount)).result.rows.length
          (cursor.begun.rereading after (batch.events rows cursor.result.rowCount)) := by
      rw [fetchPage_eq_fetch source known, fetched]
      rfl
    have spares' := spares_rereading after begun (batch.events rows cursor.result.rowCount)
    rw [← id_eq] at spares'
    have stands' := stands
    rw [← page.rowCount] at stands'
    rw [fetched']
    exact ⟨.file fit rfl stands' spares', isSome_rereading_recorder ..,
      .inl ⟨_, batch, rfl, page, stands.position_le⟩⟩
  · have fetched' : cursor.fetchPage skip =
        .error e (cursor.begun.rereading after
          (((rows.drop (cursor.result.rowCount + skip)).take count).map RowEvent.row)) := by
      rw [fetchPage_eq_fetch source known, fetched]
      rfl
    obtain ⟨cut, shown⟩ := open_.foldl_rows
      ((rows.drop (cursor.result.rowCount + skip)).take count)
    rw [← taking_result cursor.begun cursor.session] at cut shown
    have spares' := spares_rereading after begun
      (((rows.drop (cursor.result.rowCount + skip)).take count).map RowEvent.row)
    rw [← id_eq] at spares'
    -- nothing is left to read, so the reader may be said to stand anywhere
    have stands : after.StandsAt bytes rows cursor.result.rowCount :=
      CacheReader.standsAt_of_unread_nil empty at_.position_le
    rw [← cut.rowCount] at stands
    rw [fetched']
    exact ⟨.file fit rfl stands spares', isSome_rereading_recorder ..,
      .inr ⟨e, _, rfl, cut, shown⟩⟩

/-- **A fetch from any supply.** -/
theorem IsSupplied.fetchPage (supplied : cursor.IsSupplied rows cursor.result.rowCount)
    (known : cursor.result.id = some id) (more : cursor.result.ended = false)
    (present : cursor.result.suspended = false) (small : skip < 2 ^ 64) :
    HasFetched rows id cursor.result.rowCount skip cursor.recorder.isSome
      (cursor.fetchPage skip) := by
  cases supplied with
  | server server rows_eq live known' ready at_ =>
    obtain rfl := Option.some.inj (known'.symm.trans known)
    rw [← rows_eq]
    exact hasFetched_of_server server live known ready at_ more present small
  | silent live refuses => exact hasFetched_of_silent live refuses known more present
  | file fit source at_ spares =>
    exact hasFetched_of_file fit source at_ spares known more present small

end

end Cursor

end ProxyClient
