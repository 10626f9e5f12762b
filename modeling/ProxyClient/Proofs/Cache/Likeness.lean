/-
ProxyClient/Proofs/Cache/Likeness.lean

A cached result set reads like the live one.  Two cursors are compared: one
reads a whole cache file, the other asks a server that describes its rows in
the same way and pages through them as documented.

    the reader stands before the rows from p on
    the server stands at row p                     →  both send the same batch
    both pages took the same events                →  both pages show the same

Only the values of output variables are not in the file.  So the two stay
alike (`ReadsAlike`) whatever is read and however many rows are asked for at
once, and nothing that is read tells them apart (`Cursor.reads_alike`).
-/
import ProxyClient.Proofs.Cache.Whole
import ProxyClient.Proofs.Paging.Sources

namespace ProxyClient

/-! ### Pages that are alike -/

namespace ResultSet

/-- The result sets differ at most in the values of output variables. -/
def IsLike (rs other : ResultSet) : Prop :=
  ∃ outputs, rs = { other with outputs }

/-- What can be read of one result set is what can be read of another. -/
structure ReadsLike (rs other : ResultSet) : Prop where
  /-- The values of every row. -/
  field : ∀ row key, rs.field row key = other.field row key
  /-- Their texts. -/
  fieldText : ∀ row key, rs.fieldText row key = other.fieldText row key
  /-- Their lengths. -/
  fieldLength : ∀ row key, rs.fieldLength row key = other.fieldLength row key
  /-- The texts of every row. -/
  rowTexts : ∀ row, rs.rowTexts row = other.rowTexts row
  /-- Its lengths. -/
  rowLengths : ∀ row, rs.rowLengths row = other.rowLengths row
  /-- Its texts with the names of their columns. -/
  rowPairs : ∀ row, rs.rowPairs row = other.rowPairs row
  /-- The rows in the page. -/
  rows : rs.rows = other.rows
  /-- The rows that were counted. -/
  rowCount : rs.rowCount = other.rowCount
  /-- The first row of the page. -/
  firstRow : rs.firstRow = other.firstRow
  /-- Whether the end was reached. -/
  ended : rs.ended = other.ended
  /-- The number of all rows. -/
  totalRows : rs.totalRows = other.totalRows
  /-- The number of columns. -/
  columnCount : rs.columnCount = other.columnCount
  /-- The descriptions of the columns. -/
  columns : rs.columns = other.columns
  /-- The column of every name and index. -/
  column : ∀ key, rs.column key = other.column key
  /-- The longest value in each. -/
  longestIn : ∀ key, rs.longestIn key = other.longestIn key
  /-- The rows that the statement changed. -/
  affectedRows : rs.affectedRows = other.affectedRows

namespace IsLike

variable {rs other : ResultSet}

theorem refl (rs : ResultSet) : rs.IsLike rs :=
  ⟨rs.outputs, rfl⟩

theorem readsLike (like : rs.IsLike other) : rs.ReadsLike other := by
  obtain ⟨outputs, rfl⟩ := like
  constructor
  all_goals intros
  all_goals rfl

theorem beginPage (like : rs.IsLike other) : rs.beginPage.IsLike other.beginPage := by
  obtain ⟨outputs, rfl⟩ := like
  exact ⟨outputs, rfl⟩

theorem needsFetch_eq (like : rs.IsLike other) (row : Nat) :
    rs.needsFetch row = other.needsFetch row := by
  obtain ⟨outputs, rfl⟩ := like
  rfl

/-- The same events leave them alike. -/
theorem foldl (like : rs.IsLike other) (events : List RowEvent) :
    (events.foldl apply rs).IsLike (events.foldl apply other) := by
  induction events generalizing rs other with
  | nil => exact like
  | cons event events ih =>
    apply ih
    obtain ⟨outputs, rfl⟩ := like
    cases event with
    | describe describe => exact ⟨outputs, rfl⟩
    | outputBinds binds => exact ⟨binds, rfl⟩
    | row row => exact ⟨outputs, rfl⟩
    | batchEnd batch => exact ⟨outputs, rfl⟩

/-- The values of output variables may be missing from an answer. -/
theorem foldl_opening (like : rs.IsLike other) (batch : Batch) (describe : Describe)
    (outputs : List (List OutputBind)) (rows : List DataRow) :
    ((batch.opening describe [] rows).foldl apply rs).IsLike
      ((batch.opening describe outputs rows).foldl apply other) := by
  have described := like.foldl [.describe describe]
  obtain ⟨values, same⟩ := foldl_outputs outputs (other.apply (.describe describe))
  have valued : ((rs.apply (.describe describe))).IsLike
      ((outputs.map RowEvent.outputBinds).foldl apply (other.apply (.describe describe))) := by
    obtain ⟨former, e⟩ := described
    refine ⟨former, ?_⟩
    rw [same]
    exact e
  rw [Batch.opening, Batch.opening, List.foldl_cons, List.foldl_cons, List.foldl_append,
    List.foldl_append]
  exact valued.foldl (batch.events rows 0)

end IsLike

/-- A batch does not change the identifier. -/
theorem id_foldl_events (rs : ResultSet) (batch : Batch) (rows : List DataRow) (position : Nat) :
    ((batch.events rows position).foldl apply rs).id = rs.id := by
  obtain ⟨longest, e⟩ :=
    foldl_rows ((rows.drop (position + batch.skipped)).take batch.count) rs
  rw [Batch.events, List.foldl_append, e]
  rfl

/-- A description does. -/
theorem id_foldl_opening (rs : ResultSet) (batch : Batch) (describe : Describe)
    (outputs : List (List OutputBind)) (rows : List DataRow) :
    ((batch.opening describe outputs rows).foldl apply rs).id = some describe.head.id := by
  obtain ⟨values, e⟩ := foldl_outputs outputs (rs.apply (.describe describe))
  rw [Batch.opening, List.foldl_cons, List.foldl_append, id_foldl_events, e]
  rfl

end ResultSet

/-! ### The server -/

variable {ν ν' : Type} [Network ν] [Network ν']

/-- A server that describes a result set in one way, and pages through its rows as
documented, over a link that does not fail. -/
structure DescribedServer (describe : Describe) (outputs : List (List OutputBind))
    (rows : List DataRow) (sql : String) (binds : List Bind) (options : ExecuteOptions)
    (link : LinkId) (stands : Option Nat → ν → Prop) : Prop where
  /-- It stands at one of the rows, or behind the last. -/
  bounded : ∀ {network : ν} {position : Nat}, stands (some position) network →
    position ≤ rows.length
  /-- The statement is answered by the description and the first batch. -/
  executes : ∀ {network : ν}, stands none network →
    let batch := Batch.documented rows.length 0 0 options.bufferSize
    Network.Delivers network link (.execute sql binds options)
      (RowEvent.encodeAll (batch.opening describe outputs rows)) (stands (some (batch.next 0)))
  /-- A fetch is answered by the batch that was asked for. -/
  fetches : ∀ {network : ν} {position : Nat}, stands (some position) network →
    ∀ (skip : UInt64) (limit : UInt32),
    let batch := Batch.documented rows.length position skip limit
    Network.Delivers network link (.fetch describe.head.id skip limit)
      (RowEvent.encodeAll (batch.events rows position)) (stands (some (batch.next position)))

/-- A server with a result set is one, for each way in which it can be asked. -/
theorem PagingServer.described {store : RowStore} {sql : String} {binds : List Bind} {link : LinkId}
    {stands : Option Nat → ν → Prop} (server : PagingServer store sql binds link stands)
    (options : ExecuteOptions) :
    DescribedServer (store.describe options 0) store.outputs store.rows sql binds options link
      stands where
  bounded := server.bounded
  executes := fun at_ => server.executes at_ options
  fetches := by
    intro network position at_ skip limit
    rw [store.describe_id]
    exact server.fetches at_ skip limit

/-! ### Batches of the rows that are left -/

/-- A batch of the rows from a position on is a page of them. -/
theorem Batch.events_documented (rows : List DataRow) (position : Nat) (skip : UInt64)
    (limit : UInt32) :
    (Batch.documented rows.length position skip limit).events rows position =
      (Batch.page (rows.drop position).length skip.toNat limit.toNat).events (rows.drop position)
        0 := by
  rw [documented_eq_page, List.length_drop, events, events, List.drop_drop, Nat.zero_add]

theorem Batch.drop_next_documented (rows : List DataRow) (position : Nat) (skip : UInt64)
    (limit : UInt32) :
    rows.drop ((Batch.documented rows.length position skip limit).next position) =
      (rows.drop position).drop
        ((Batch.page (rows.drop position).length skip.toNat limit.toNat).next 0) := by
  rw [documented_eq_page, List.length_drop, List.drop_drop, next, next, Nat.zero_add, Nat.add_assoc]

/-! ### Pages of a file -/

namespace Cursor

variable {cursor : Cursor ν} {reader : CacheReader} {bytes : Bytes} {rows : List DataRow}

omit [Network ν] in
/-- The first page of a whole file. -/
theorem readFirstPage_of_standsBefore (before : reader.StandsBefore bytes rows)
    (spares : cursor.parts.Spares reader.file.id bytes) :
    ∃ after : CacheReader, after.file.id = reader.file.id ∧
      after.StandsBefore bytes
        (rows.drop ((Batch.page rows.length 0 cursor.bufferSize.toNat).next 0)) ∧
      cursor.readFirstPage reader =
        .ok () (cursor.rereading after
          ((Batch.page rows.length 0 cursor.bufferSize.toNat).opening reader.describe [] rows)) := by
  have fed : reader.feedDescribe reception cursor.parts =
      .ok () (Reception.take cursor.parts (.describe reader.describe)) :=
    takes_reception (.describe reader.describe) cursor.parts
  have spares₁ := (Reception.leaves_spares _ _).keeps spares (.describe reader.describe)
  obtain ⟨after, id_eq, read, behind⟩ := before.fetch 0 cursor.bufferSize.toNat
    ((Reception.leaves_spares _ _).keepsFile takes_reception) spares₁
  rw [takes_reception.run_eq] at read behind
  refine ⟨after, id_eq, behind _ rfl, ?_⟩
  rw [readFirstPage]
  simp only [fed, read]
  rfl

/-- A page of the rows before which the reader stands. -/
theorem fetchPage_of_standsBefore {id : ResultSetId} (source : cursor.source = some reader)
    (known : cursor.result.id = some id) (before : reader.StandsBefore bytes rows)
    (spares : cursor.parts.Spares reader.file.id bytes) (skip : Nat) :
    let page := Batch.page rows.length skip cursor.bufferSize.toNat
    ∃ after : CacheReader, after.file.id = reader.file.id ∧
      after.StandsBefore bytes (rows.drop (page.next 0)) ∧
      (cursor.begun.rereading after (page.events rows 0)).result.id = some id ∧
      cursor.fetchPage skip =
        .ok (cursor.begun.rereading after (page.events rows 0)).result.rows.length
          (cursor.begun.rereading after (page.events rows 0)) := by
  intro page
  have begun : cursor.begun.parts.Spares reader.file.id bytes := ⟨spares.apart, spares.bytesOf_eq⟩
  obtain ⟨after, id_eq, read, behind⟩ := before.fetch skip cursor.bufferSize.toNat
    ((Reception.leaves_spares _ _).keepsFile takes_reception) begun
  rw [takes_reception.run_eq] at read behind
  refine ⟨after, id_eq, behind _ rfl, ?_, ?_⟩
  · rw [rereading_result, ResultSet.id_foldl_events]
    exact known
  · rw [fetchPage_eq_fetch source known, read]
    rfl

end Cursor

/-! ### Cursors that are alike -/

/-- One cursor reads a file, the other asks the server, and both have come to the
same row. -/
structure ReadsAlike (describe : Describe) (rows : List DataRow) (link : LinkId)
    (stands : Option Nat → ν → Prop) (file : Cursor ν') (live : Cursor ν) : Prop where
  /-- Their pages are alike. -/
  like : file.result.IsLike live.result
  /-- They fetch as many rows at once. -/
  size_eq : file.bufferSize = live.bufferSize
  /-- Both record what they read, or neither does. -/
  recording_eq : file.recorder.isSome = live.recorder.isSome
  /-- The result set is that of the server. -/
  id_eq : live.result.id = some describe.head.id
  /-- The one has its rows from the server. -/
  live_eq : live.source = none
  /-- Its session can be used. -/
  ready : live.session.Ready link
  /-- The session was neither parked nor replaced. -/
  epoch_eq : live.session.connection.epoch = live.epoch
  /-- The server stands where the reader of the file stands. -/
  position : ∃ (position : Nat) (reader : CacheReader) (bytes : Bytes),
    stands (some position) live.session.traffic.network ∧ file.source = some reader ∧
      reader.StandsBefore bytes (rows.drop position) ∧ file.parts.Spares reader.file.id bytes

namespace ReadsAlike

variable {describe : Describe} {outputs : List (List OutputBind)} {rows : List DataRow}
  {sql : String} {binds : List Bind} {options : ExecuteOptions} {link : LinkId}
  {stands : Option Nat → ν → Prop} {file : Cursor ν'} {live : Cursor ν}

/-- A fetch brings both the same batch. -/
theorem fetchPage (fit : ∀ row ∈ rows, row.frame.Fits)
    (server : DescribedServer describe outputs rows sql binds options link stands)
    (alike : ReadsAlike describe rows link stands file live) {skip : Nat} (small : skip < 2 ^ 64) :
    ∃ (count : Nat) (file' : Cursor ν') (live' : Cursor ν), file.fetchPage skip = .ok count file' ∧
      live.fetchPage skip = .ok count live' ∧ ReadsAlike describe rows link stands file' live' := by
  obtain ⟨position, reader, bytes, at_, source, before, spares⟩ := alike.position
  have known : file.result.id = some describe.head.id := by
    obtain ⟨values, e⟩ := alike.like
    rw [e]
    exact alike.id_eq
  have asked : (UInt64.ofNat skip).toNat = skip := by
    rw [UInt64.toNat_ofNat', Nat.mod_eq_of_lt small]
  -- the server sends a batch, and it is a page of the rows that are left
  obtain ⟨session, ready, same, at', fetched⟩ :=
    Cursor.fetchPage_of_answer alike.live_eq alike.id_eq alike.ready (by rfl)
      (Batch.orderly_events fit) (server.fetches at_ (UInt64.ofNat skip) live.bufferSize)
  have sent := Batch.events_documented rows position (UInt64.ofNat skip) live.bufferSize
  have left := Batch.drop_next_documented rows position (UInt64.ofNat skip) live.bufferSize
  rw [asked] at sent left
  rw [sent, ← alike.size_eq] at fetched
  rw [← alike.size_eq] at left at'
  -- so the reader hands it over
  obtain ⟨after, id_eq, before', -, reread⟩ :=
    Cursor.fetchPage_of_standsBefore source known before spares skip
  rw [← left] at before'
  have same_id := live.begun.result.id_foldl_events
    (Batch.page (rows.drop position).length skip file.bufferSize.toNat) (rows.drop position) 0
  generalize (Batch.page (rows.drop position).length skip file.bufferSize.toNat).events
    (rows.drop position) 0 = events at fetched reread same_id
  have like : (file.begun.rereading after events).result.IsLike
      (live.begun.taking session events).result := by
    rw [Cursor.rereading_result, Cursor.taking_result]
    exact alike.like.beginPage.foldl events
  have count_eq : (file.begun.rereading after events).result.rows.length =
      (live.begun.taking session events).result.rows.length :=
    congrArg List.length like.readsLike.rows
  have begun : file.begun.parts.Spares reader.file.id bytes := ⟨spares.apart, spares.bytesOf_eq⟩
  have spares' := Cursor.spares_rereading after begun events
  rw [← id_eq] at spares'
  refine ⟨_, _, _, reread, count_eq ▸ fetched, ?_⟩
  refine ⟨like, alike.size_eq, ?_, ?_, alike.live_eq, ready, same.epoch_eq.trans alike.epoch_eq,
    _, after, bytes, at', rfl, before', spares'⟩
  · rw [Cursor.isSome_rereading_recorder, Cursor.isSome_taking_recorder]
    exact alike.recording_eq
  · rw [Cursor.taking_result, same_id]
    exact alike.id_eq

/-- The page that the one fetches on the way to a row is fetched by the other. -/
theorem fetchPage_skipFor (fit : ∀ row ∈ rows, row.frame.Fits)
    (server : DescribedServer describe outputs rows sql binds options link stands) {row : Nat}
    (small : row < 2 ^ 64) (alike : ReadsAlike describe rows link stands file live) :
    ∃ (count : Nat) (file' : Cursor ν') (live' : Cursor ν),
      file.fetchPage (file.skipFor row) = .ok count file' ∧
      live.fetchPage (live.skipFor row) = .ok count live' ∧
      ReadsAlike describe rows link stands file' live' := by
  have skip_eq : live.skipFor row = file.skipFor row := by
    rw [Cursor.skipFor, Cursor.skipFor, alike.recording_eq, alike.like.readsLike.rowCount]
  have fewer : file.skipFor row < 2 ^ 64 := by
    rw [Cursor.skipFor]
    split <;> omega
  rw [skip_eq]
  exact alike.fetchPage fit server fewer

/-- So they fetch the same pages up to a row. -/
theorem fetchTo (fit : ∀ row ∈ rows, row.frame.Fits)
    (server : DescribedServer describe outputs rows sql binds options link stands) {row : Nat}
    (small : row < 2 ^ 64) (alike : ReadsAlike describe rows link stands file live) :
    ReadsAlike describe rows link stands (file.fetchTo row) (live.fetchTo row) := by
  -- what the one looks at behind a page, the other sees too
  have follow {file after : Cursor ν'} {live : Cursor ν} {count : Nat}
      (alike : ReadsAlike describe rows link stands file live)
      (needs : file.result.needsFetch row = true)
      (fetched : file.fetchPage (file.skipFor row) = .ok count after) :
      ∃ live' : Cursor ν, ReadsAlike describe rows link stands after live' ∧
        live.fetchTo row =
          if count = 0 ∧ !after.result.ended then live'
          else if file.result.rowCount < after.result.rowCount then live'.fetchTo row
          else live' := by
    obtain ⟨count', file', live', fetched', fetchedLive, alike'⟩ :=
      alike.fetchPage_skipFor fit server small
    obtain ⟨rfl, rfl⟩ := EStateM.Result.ok.inj (fetched'.symm.trans fetched)
    have needs' : live.result.needsFetch row = true := alike.like.needsFetch_eq row ▸ needs
    refine ⟨live', alike', ?_⟩
    rw [Cursor.fetchTo.eq_1 row live, dif_pos needs', fetchedLive, alike.like.readsLike.rowCount,
      alike'.like.readsLike.rowCount, alike'.like.readsLike.ended]
  fun_induction Cursor.fetchTo row file generalizing live with
  | case1 file needs e after failed =>
    obtain ⟨count, file', live', fetched, -⟩ := alike.fetchPage_skipFor fit server small
    rw [fetched] at failed
    contradiction
  | case2 file needs count after fetched stuck =>
    obtain ⟨live', alike', same⟩ := follow alike needs fetched
    rw [same, if_pos stuck]
    exact alike'
  | case3 file needs count after fetched going further _ ih =>
    obtain ⟨live', alike', same⟩ := follow alike needs fetched
    rw [same, if_neg going, if_pos further]
    exact ih alike'
  | case4 file needs count after fetched going still =>
    obtain ⟨live', alike', same⟩ := follow alike needs fetched
    rw [same, if_neg going, if_neg still]
    exact alike'
  | case5 file enough =>
    have enough' : ¬ live.result.needsFetch row = true := alike.like.needsFetch_eq row ▸ enough
    rw [Cursor.fetchTo, dif_neg enough']
    exact alike

/-- A read keeps them alike. -/
theorem ensureRow (fit : ∀ row ∈ rows, row.frame.Fits)
    (server : DescribedServer describe outputs rows sql binds options link stands)
    (alike : ReadsAlike describe rows link stands file live) (row : UInt64) :
    ReadsAlike describe rows link stands (file.ensureRow row.toNat) (live.ensureRow row.toNat) := by
  obtain ⟨position, reader, bytes, -, source, -⟩ := alike.position
  rw [Cursor.ensureRow, Cursor.ensureRow,
    Cursor.checkEpoch_of_isSome_source (by rw [source]; rfl),
    Cursor.checkEpoch_of_epoch_eq alike.epoch_eq]
  exact alike.fetchTo fit server row.toNat_lt

end ReadsAlike

/-! ### Opening -/

/-- A cursor can read a whole file: it is not expired, and it is not the one to be
recorded into. -/
structure Cursor.CanRead (cursor : Cursor ν) (path : String) (describe : Describe)
    (rows : List DataRow) : Prop where
  /-- There is the file. -/
  whole : ∃ header, cursor.disk.HasRecorded path header describe rows ∧
    header.isExpired (CacheHeader.timeOn cursor.now) = false
  /-- The path is not that of the target. -/
  other : cursor.cacheTarget.any (Disk.samePath path) = false
  /-- If there is a target, it can be created, and is another file. -/
  creates : ∀ target, cursor.cacheTarget = some target →
    ∃ id disk, cursor.disk.createFile target = .ok (id, disk) ∧ cursor.disk.openFile path ≠ .ok id

section

variable {describe : Describe} {outputs : List (List OutputBind)} {rows : List DataRow}
  {link : LinkId} {stands : Option Nat → ν → Prop}

/-- **A recorded result set that is not expired can be opened**, if it is not the
target and the target can be created beside it. -/
theorem Cursor.openCached_of_hasRows {cursor : Cursor ν} {path : String} {header : CacheHeader}
    (idle : cursor.IsIdle) (has : cursor.disk.HasRows path header describe rows)
    (live : header.isExpired (CacheHeader.timeOn cursor.now) = false)
    (other : cursor.cacheTarget.any (Disk.samePath path) = false)
    (creates : ∀ target, cursor.cacheTarget = some target →
      ∃ id disk, cursor.disk.createFile target = .ok (id, disk) ∧
        cursor.disk.openFile path ≠ .ok id) :
    ∃ (armed : Cursor ν) (reader : CacheReader), cursor.IsArmed armed ∧
      cursor.disk.openFile path = .ok reader.file.id ∧
      armed.parts.Spares reader.file.id (cursor.disk.bytesOf reader.file.id) ∧
      reader.StandsBefore (cursor.disk.bytesOf reader.file.id)
        (rows.drop ((Batch.page rows.length 0 cursor.bufferSize.toNat).next 0)) ∧
      cursor.openCached path =
        .ok () (armed.rereading reader
          ((Batch.page rows.length 0 cursor.bufferSize.toNat).opening describe [] rows)) := by
  obtain ⟨reader, opened, found, described, before⟩ := has.openAt live
  -- the target is created beside the file
  obtain ⟨armed, created⟩ := createTarget_of_creates cursor.cleared fun target there => by
    obtain ⟨id, disk, created, -⟩ := creates target there
    exact ⟨id, disk, created⟩
  have isArmed := idle.isArmed created
  have spares : armed.parts.Spares reader.file.id (cursor.disk.bytesOf reader.file.id) := by
    apply spares_of_createTarget idle _ created
    rintro target there id disk created rfl
    obtain ⟨id', disk', created', apart⟩ := creates target there
    obtain ⟨rfl, -⟩ := Prod.mk.inj (Except.ok.inj (created'.symm.trans created))
    exact apart found
  -- and the first page is read
  obtain ⟨after, id_eq, before', read⟩ := readFirstPage_of_standsBefore before spares
  rw [isArmed.bufferSize_eq] at before' read
  rw [described] at read
  rw [← id_eq] at found spares before'
  refine ⟨armed, after, isArmed, found, spares, before', ?_⟩
  rw [idle.openCached_eq, if_neg (by rw [other]; exact Bool.false_ne_true),
    show CacheReader.openNow path cursor.now cursor.disk = .ok reader from opened]
  simp only [created, read]

/-- **A statement and a file that are opened are alike.** -/
theorem Cursor.readsAlike_of_opened {start : Cursor ν} {start' : Cursor ν'} {path : String}
    (prepared : start.IsPrepared)
    (server : DescribedServer describe outputs rows (start.substitutions.expand start.sql)
      start.binds.entries start.executeOptions link stands)
    (outputs_legible : ∀ binds ∈ outputs, (RowEvent.outputBinds binds).Legible)
    (ready : start.session.Ready link) (fresh : stands none start.session.traffic.network)
    (idle : start'.IsIdle) (readable : start'.CanRead path describe rows)
    (size : start'.bufferSize = start.bufferSize) (nulls : start'.nullsAsEmpty = start.nullsAsEmpty)
    (recording : start'.cacheTarget.isSome = start.cacheTarget.isSome) :
    ∃ (live : Cursor ν) (file : Cursor ν'), start.execute = .ok () live ∧
      start'.openCached path = .ok () file ∧ ReadsAlike describe rows link stands file live := by
  obtain ⟨header, whole, unexpired⟩ := readable.whole
  obtain ⟨armed, session, isArmed, ready', at_, ran⟩ := prepared.execute_of_answer ready
    (Batch.opening_eq _ _ _ _)
    (Batch.orderly_opening whole.legible outputs_legible whole.fit) (server.executes fresh)
  obtain ⟨armed', reader, isArmed', -, spares, before, ran'⟩ :=
    Cursor.openCached_of_hasRows idle whole.hasRows unexpired readable.other readable.creates
  -- the server sends the first page, too
  have page : Batch.documented rows.length 0 0 start.executeOptions.bufferSize =
      Batch.page rows.length 0 start'.bufferSize.toNat := by
    rw [size, Batch.documented_eq_page]
    rfl
  rw [page] at ran at_
  generalize Batch.page rows.length 0 start'.bufferSize.toNat = batch at ran at_ before ran'
  refine ⟨_, _, ran, ran', ?_⟩
  have like : (armed'.rereading reader (batch.opening describe [] rows)).result.IsLike
      (armed.taking session (batch.opening describe outputs rows)).result := by
    rw [Cursor.rereading_result, Cursor.taking_result, isArmed.result_eq, isArmed'.result_eq, nulls]
    exact (ResultSet.IsLike.refl _).foldl_opening batch describe outputs rows
  refine ⟨like, ?_, ?_, ?_, isArmed.source_eq, ready'.statementExecuted, rfl,
    _, reader, _, at_, rfl, before, Cursor.spares_rereading reader spares _⟩
  · show armed'.bufferSize = armed.bufferSize
    rw [isArmed'.bufferSize_eq, isArmed.bufferSize_eq, size]
  · show (armed'.rereading reader _).recorder.isSome = (armed.taking session _).recorder.isSome
    rw [Cursor.isSome_rereading_recorder, Cursor.isSome_taking_recorder,
      isArmed'.recorder_isSome, isArmed.recorder_isSome, recording]
  · show (armed.taking session _).result.id = _
    rw [Cursor.taking_result, ResultSet.id_foldl_opening]

end

/-! ### Runs -/

/-- What a program does with a result set. -/
inductive PageStep where
  /-- Another number of rows is to be fetched at once. -/
  | resize (rows : UInt32)
  /-- A row is read. -/
  | read (row : UInt64)
  deriving DecidableEq, Repr

/-- What a cursor is behind a step. -/
def PageStep.take (step : PageStep) (cursor : Cursor ν) : Cursor ν :=
  match step with
  | .resize rows => { cursor with bufferSize := rows }
  | .read row => cursor.ensureRow row.toNat

/-- Steps, one after the other. -/
def Cursor.afterSteps (steps : List PageStep) (cursor : Cursor ν) : Cursor ν :=
  steps.foldl (fun cursor step => step.take cursor) cursor

section

variable {describe : Describe} {outputs : List (List OutputBind)} {rows : List DataRow}
  {sql : String} {binds : List Bind} {options : ExecuteOptions}
  {link : LinkId} {stands : Option Nat → ν → Prop}

/-- Every step keeps the two alike. -/
theorem ReadsAlike.afterSteps {file : Cursor ν'} {live : Cursor ν}
    (fit : ∀ row ∈ rows, row.frame.Fits)
    (server : DescribedServer describe outputs rows sql binds options link stands)
    (alike : ReadsAlike describe rows link stands file live) (steps : List PageStep) :
    ReadsAlike describe rows link stands (file.afterSteps steps) (live.afterSteps steps) := by
  induction steps generalizing file live with
  | nil => exact alike
  | cons step steps ih =>
    apply ih
    cases step with
    | resize size =>
      exact ⟨alike.like, rfl, alike.recording_eq, alike.id_eq, alike.live_eq, alike.ready,
        alike.epoch_eq, alike.position⟩
    | read row => exact alike.ensureRow fit server row

/-- **A cached result set reads like the live one.**  One cursor closes what it
has open and runs its statement on a server that pages through its rows as
documented; another one, with the same settings, opens a whole and unexpired
file with the same description and the same rows.  Both succeed, and whatever
is read then and however many rows are fetched at once, what can be read of
the one is after every step what can be read of the other. -/
theorem Cursor.reads_alike {former start : Cursor ν} {former' start' : Cursor ν'} {path : String}
    (clears : former.Clears start) (prepared : start.IsPrepared)
    (server : DescribedServer describe outputs rows (start.substitutions.expand start.sql)
      start.binds.entries start.executeOptions link stands)
    (outputs_legible : ∀ binds ∈ outputs, (RowEvent.outputBinds binds).Legible)
    (ready : start.session.Ready link) (fresh : stands none start.session.traffic.network)
    (clears' : former'.Clears start') (readable : start'.CanRead path describe rows)
    (size : start'.bufferSize = start.bufferSize) (nulls : start'.nullsAsEmpty = start.nullsAsEmpty)
    (recording : start'.cacheTarget.isSome = start.cacheTarget.isSome) :
    ∃ (live : Cursor ν) (file : Cursor ν'), former.execute = .ok () live ∧
      former'.openCached path = .ok () file ∧
      ∀ steps : List PageStep,
        (file.afterSteps steps).result.ReadsLike (live.afterSteps steps).result := by
  obtain ⟨live, file, ran, ran', alike⟩ := readsAlike_of_opened prepared server outputs_legible ready
    fresh clears'.isIdle readable size nulls recording
  have other : former'.cacheTarget.any (Disk.samePath path) = false := by
    rw [← clears'.again.2.2.2]
    exact readable.other
  refine ⟨live, file, clears.execute_eq.trans ran, (clears'.openCached_eq other).trans ran', ?_⟩
  intro steps
  obtain ⟨header, whole, -⟩ := readable.whole
  exact (alike.afterSteps whole.fit server steps).like.readsLike

end

namespace TableServer

/-- A disk on which five rows are recorded, without an end frame. -/
def recordedDisk : Disk where
  entries := [(["cached"], .file 0)]
  contents := [CacheWriter.recorded ⟨0⟩ (fiveRowStore.describe ⟨true, 2⟩ 0) fiveRows]

/-- A cursor that reads them two at a time, and records them in another file. -/
def cachedCursor : Cursor TableServer :=
  { (TableServer.mk fiveRowStore none none).cursor recordedDisk with
    bufferSize := 2, cacheTarget := some "rows" }

theorem canRead_cachedCursor :
    cachedCursor.CanRead "cached" (fiveRowStore.describe ⟨true, 2⟩ 0) fiveRows where
  whole := by
    refine ⟨⟨0⟩, ⟨fiveRowStore.describe_legible _ _, fiveRowStore.row_fits, false, ?_⟩, by decide⟩
    decide +kernel
  other := by decide +kernel
  creates := by
    intro target there
    obtain rfl := Option.some.inj there
    have found : (cachedCursor.disk.openFile "cached").toOption = some 0 := by decide +kernel
    refine ⟨1, _, rfl, ?_⟩
    intro same
    rw [same] at found
    contradiction

/-- What is known of this cursor, and of the one that asks the server. -/
theorem reads_alike_cachedCursor :
    pagingCursor.Clears pagingCursor ∧ pagingCursor.IsPrepared ∧
      DescribedServer (fiveRowStore.describe ⟨true, 2⟩ 0) [] fiveRows (Substitutions.expand {} "") []
        ⟨true, 2⟩ 0 (IsFreeAt fiveRowStore) ∧
      (∀ binds ∈ ([] : List (List OutputBind)), (RowEvent.outputBinds binds).Legible) ∧
      pagingCursor.session.Ready 0 ∧
      IsFreeAt fiveRowStore none pagingCursor.session.traffic.network ∧
      cachedCursor.Clears cachedCursor ∧
      cachedCursor.CanRead "cached" (fiveRowStore.describe ⟨true, 2⟩ 0) fiveRows ∧
      cachedCursor.bufferSize = pagingCursor.bufferSize ∧
      cachedCursor.nullsAsEmpty = pagingCursor.nullsAsEmpty ∧
      cachedCursor.cacheTarget.isSome = pagingCursor.cacheTarget.isSome ∧
      ∃ live file : Cursor TableServer, pagingCursor.execute = .ok () live ∧
        cachedCursor.openCached "cached" = .ok () file ∧
        ∀ steps : List PageStep,
          (file.afterSteps steps).result.ReadsLike (live.afterSteps steps).result := by
  have server : DescribedServer (fiveRowStore.describe ⟨true, 2⟩ 0) [] fiveRows
      (Substitutions.expand {} "") [] ⟨true, 2⟩ 0 (IsFreeAt fiveRowStore) :=
    (pagingServer fiveRowStore _ [] 0).described ⟨true, 2⟩
  have none_legible : ∀ binds ∈ ([] : List (List OutputBind)), (RowEvent.outputBinds binds).Legible :=
    List.forall_mem_nil _
  have ready : pagingCursor.session.Ready 0 := ready_cursor _ {}
  have clears : pagingCursor.Clears pagingCursor := isPrepared_pagingCursor.clears
  have idle : cachedCursor.IsIdle := ⟨rfl, rfl, rfl, rfl⟩
  have clears' : cachedCursor.Clears cachedCursor := idle.clears
  exact ⟨clears, isPrepared_pagingCursor, server, none_legible, ready, isFreeAt_pagingCursor, clears',
    canRead_cachedCursor, rfl, rfl, rfl,
    Cursor.reads_alike clears isPrepared_pagingCursor server none_legible ready isFreeAt_pagingCursor clears'
      canRead_cachedCursor rfl rfl rfl⟩

end TableServer

end ProxyClient
