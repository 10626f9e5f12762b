/-
ProxyClient/Proofs/Paging/Exact.lean

Paging over a network that does not fail is exact.  The cursor and the
server stay in step (`InStep`): the server stands where the cursor has
counted to, and the page shows the rows from its first one up to there.
Whatever is skipped on the way, and whether or not a recorder wants to see
every row, a fetch keeps them in step (`InStep.fetchPage`), and fetching
goes on until the row is counted or known not to exist
(`InStep.fetchTo`).
-/
import ProxyClient.Proofs.Cursor.Opening
import ProxyClient.Proofs.Paging.TableServer

namespace ProxyClient

variable {ν : Type} [Network ν]

/-- A statement whose answer is delivered succeeds, and the armed cursor takes the answer. -/
theorem Cursor.IsPrepared.execute_of_answer {cursor : Cursor ν} {link : LinkId}
    {answer events : List RowEvent} {batch : BatchEnd} {after : ν → Prop}
    (prepared : cursor.IsPrepared) (ready : cursor.session.Ready link)
    (closed : answer = events ++ [RowEvent.batchEnd batch])
    (orderly : Orderly .waitingDescribe answer)
    (delivers : Network.Delivers cursor.session.traffic.network link
      (.execute (cursor.substitutions.expand cursor.sql) cursor.binds.entries cursor.executeOptions)
      (RowEvent.encodeAll answer) after) :
    ∃ (armed : Cursor ν) (session : Session ν),
      cursor.IsArmed armed ∧ session.Ready link ∧ after session.traffic.network ∧
      cursor.execute =
        .ok () (Cursor.opened
          { armed.taking session answer with session := session.statementExecuted }) := by
  obtain ⟨armed, isArmed, ran⟩ := prepared.execute_eq
  obtain ⟨recorder, disk, same⟩ := isArmed.same
  obtain ⟨bytes, written⟩ := Request.encode_execute_of_lt
    (cursor.substitutions.expand cursor.sql) prepared.few cursor.executeOptions
  -- creating the recorder changes nothing of the session
  have ready₁ : armed.session.Ready link := by
    rw [same]
    exact ready
  have delivers₁ : Network.Delivers armed.session.traffic.network link
      (.execute (cursor.substitutions.expand cursor.sql) cursor.binds.entries cursor.executeOptions)
      (RowEvent.encodeAll answer) after := by
    rw [same]
    exact delivers
  obtain ⟨session, ready', -, stands, query⟩ :=
    Cursor.query_of_delivered armed
      (.execute (cursor.substitutions.expand cursor.sql) cursor.binds cursor.executeOptions) ready₁
      written closed orderly delivers₁
  rw [Cursor.executed, query] at ran
  exact ⟨armed, session, isArmed, ready', stands, ran⟩

/-- The answer may be that of a server with a result set. -/
theorem Cursor.IsPrepared.execute_of_delivers {cursor : Cursor ν} {store : RowStore} {link : LinkId}
    {batch : Batch} {after : ν → Prop} (prepared : cursor.IsPrepared)
    (ready : cursor.session.Ready link)
    (delivers : Network.Delivers cursor.session.traffic.network link
      (.execute (cursor.substitutions.expand cursor.sql) cursor.binds.entries cursor.executeOptions)
      (RowEvent.encodeAll (store.opened cursor.executeOptions batch)) after) :
    ∃ (armed : Cursor ν) (session : Session ν),
      cursor.IsArmed armed ∧ session.Ready link ∧ after session.traffic.network ∧
      cursor.execute =
        .ok () (Cursor.opened
          { armed.taking session (store.opened cursor.executeOptions batch) with
            session := session.statementExecuted }) :=
  prepared.execute_of_answer ready (store.opened_eq _ _) (store.orderly_opened _ _) delivers

/-- The cursor and the server are in step. -/
structure InStep (store : RowStore) (link : LinkId) (stands : Option Nat → ν → Prop)
    (nulls : Bool) (cursor : Cursor ν) : Prop where
  /-- Rows come from the server. -/
  live : cursor.source = none
  /-- The session can be used. -/
  ready : cursor.session.Ready link
  /-- It was neither parked nor replaced since the statement. -/
  epoch_eq : cursor.session.connection.epoch = cursor.epoch
  /-- The server stands where the cursor has counted to. -/
  stands : stands (some cursor.result.rowCount) cursor.session.traffic.network
  /-- The result set is known. -/
  id_eq : cursor.result.id = some store.id
  /-- The page was not given up. -/
  present : cursor.result.suspended = false
  /-- Null is read as it was to be read when the statement ran. -/
  nulls_eq : cursor.result.nullsAsEmpty = nulls
  /-- Its first row was counted. -/
  first_le : cursor.result.firstRow ≤ cursor.result.rowCount
  /-- It shows the rows from its first one up to where the cursor has counted to. -/
  shows : ∀ i, cursor.result.bufferedRow i =
    if i < cursor.result.firstRow ∨ cursor.result.rowCount ≤ i then none
    else (store.rows[i]?).map DataRow.values
  /-- At the end all rows are counted. -/
  complete : cursor.result.ended = true → cursor.result.rowCount = store.rows.length

namespace InStep

variable {store : RowStore} {sql : String} {binds : List Bind} {link : LinkId}
  {stands : Option Nat → ν → Prop} {nulls : Bool} {cursor : Cursor ν}

omit [Network ν] in
/-- A cursor whose page holds a batch is in step with a server behind it. -/
theorem of_holdsBatch {position : Nat} {batch : Batch} (live : cursor.source = none)
    (ready : cursor.session.Ready link)
    (epoch_eq : cursor.session.connection.epoch = cursor.epoch)
    (nulls_eq : cursor.result.nullsAsEmpty = nulls)
    (page : cursor.result.HoldsBatch store.id store.rows position batch)
    (complete : batch.ended = true → batch.next position = store.rows.length)
    (at_ : stands (some (batch.next position)) cursor.session.traffic.network) :
    InStep store link stands nulls cursor where
  live := live
  ready := ready
  epoch_eq := epoch_eq
  stands := by rw [page.rowCount]; exact at_
  id_eq := page.id_eq
  present := page.suspended
  nulls_eq := nulls_eq
  first_le := by
    rw [page.firstRow, page.rowCount]
    exact Nat.le_add_right _ _
  shows := page.bufferedRow_eq
  complete := by
    intro ended
    rw [page.rowCount]
    exact complete (page.ended ▸ ended)

/-- A fetch keeps cursor and server in step, and brings the batch that was
asked for. -/
theorem fetchPage (server : PagingServer store sql binds link stands)
    (inStep : InStep store link stands nulls cursor) (more : cursor.result.ended = false) (skip : Nat) :
    ∃ after : Cursor ν, cursor.fetchPage skip = .ok after.result.rows.length after ∧
      InStep store link stands nulls after ∧
      after.result.HoldsBatch store.id store.rows cursor.result.rowCount
        (Batch.documented store.rows.length cursor.result.rowCount (UInt64.ofNat skip)
          cursor.bufferSize) := by
  have within := Batch.documented_within (server.bounded inStep.stands) (UInt64.ofNat skip)
    cursor.bufferSize
  obtain ⟨session, ready, same, at_, fetched⟩ :=
    Cursor.fetchPage_of_delivered inStep.live inStep.id_eq inStep.ready
      (server.fetches inStep.stands (UInt64.ofNat skip) cursor.bufferSize)
  have page := (ResultSet.isOpenAt_beginPage inStep.id_eq rfl more inStep.present).holdsBatch rfl
    within.toNat_skipped within.next_le
  refine ⟨_, fetched, of_holdsBatch inStep.live ready (same.epoch_eq.trans inStep.epoch_eq) ?_ ?_
    (Batch.next_documented_of_ended (server.bounded inStep.stands)) at_, ?_⟩
  · rw [Cursor.taking_result, ResultSet.nullsAsEmpty_foldl]
    exact inStep.nulls_eq
  · rw [Cursor.taking_result]
    exact page
  · rw [Cursor.taking_result]
    exact page

/-- A fetch that a row needs brings a page that begins at the row at the
latest; an empty page, or one that counts no further, is the last. -/
theorem fetchPage_of_needsFetch (server : PagingServer store sql binds link stands)
    (inStep : InStep store link stands nulls cursor) {row : Nat} (needs : cursor.result.needsFetch row) :
    ∃ after : Cursor ν,
      cursor.fetchPage (cursor.skipFor row) = .ok after.result.rows.length after ∧
      InStep store link stands nulls after ∧ after.result.firstRow ≤ row ∧
      (after.result.rows.length = 0 → after.result.ended = true) ∧
      (after.result.rowCount ≤ cursor.result.rowCount → after.result.ended = true) := by
  have more := (ResultSet.more_of_needsFetch needs).1
  have behind := ResultSet.rowCount_le_of_needsFetch needs
  have within := Batch.documented_within (server.bounded inStep.stands)
    (UInt64.ofNat (cursor.skipFor row)) cursor.bufferSize
  obtain ⟨after, fetched, inStep', page⟩ := fetchPage server inStep more (cursor.skipFor row)
  have length : after.result.rows.length = (Batch.documented store.rows.length
      cursor.result.rowCount (UInt64.ofNat (cursor.skipFor row)) cursor.bufferSize).count := by
    rw [page.rows_eq]
    exact length_window within.next_le
  -- an empty batch is the last: no server was asked for at most no rows
  have last (empty : after.result.rows.length = 0) : after.result.ended = true := by
    rw [page.ended]
    rcases Bool.eq_false_or_eq_true (Batch.documented store.rows.length cursor.result.rowCount
      (UInt64.ofNat (cursor.skipFor row)) cursor.bufferSize).ended with ended | open_
    · exact ended
    · obtain ⟨some_, -, full⟩ := Batch.documented_of_not_ended open_
      rw [length, full] at empty
      exact absurd (UInt32.toNat_inj.mp empty) some_
  refine ⟨after, fetched, inStep', ?_, last, ?_⟩
  · have asked : cursor.skipFor row ≤ row - cursor.result.rowCount := by
      rw [Cursor.skipFor]
      split <;> omega
    have wrapped : (UInt64.ofNat (cursor.skipFor row)).toNat ≤ cursor.skipFor row := by
      rw [UInt64.toNat_ofNat']
      exact Nat.mod_le ..
    rw [page.firstRow, within.skipped_eq]
    omega
  · intro still
    rw [page.rowCount, Batch.next] at still
    exact last (length.trans (by omega))

/-- Fetching goes on until the row is counted or known not to exist, and does
not go beyond it. -/
theorem fetchTo (server : PagingServer store sql binds link stands)
    (inStep : InStep store link stands nulls cursor) (row : Nat) :
    InStep store link stands nulls (cursor.fetchTo row) ∧
      (cursor.fetchTo row).result.needsFetch row = false ∧
      (cursor.result.firstRow ≤ row ∧ (cursor.fetchTo row).result.firstRow ≤ row ∨
        row < cursor.result.firstRow ∧ cursor.fetchTo row = cursor) := by
  -- the induction follows the fetches
  fun_induction Cursor.fetchTo row cursor with
  | case1 cursor needs e after failed =>
    obtain ⟨_, fetched, -⟩ := fetchPage_of_needsFetch server inStep needs
    rw [fetched] at failed
    contradiction
  | case2 cursor needs count after fetched stuck =>
    -- no server that answers as documented sends an empty page that is not the last
    obtain ⟨after', fetched', inStep', -, last, -⟩ := fetchPage_of_needsFetch server inStep needs
    obtain ⟨rfl, rfl⟩ := EStateM.Result.ok.inj (fetched'.symm.trans fetched)
    rw [last stuck.1] at stuck
    exact absurd stuck.2 (by decide)
  | case3 cursor needs count after fetched _ _ _ ih =>
    -- the row is still behind the page, which begins in front of it
    obtain ⟨after', fetched', inStep', first, -⟩ := fetchPage_of_needsFetch server inStep needs
    obtain ⟨rfl, rfl⟩ := EStateM.Result.ok.inj (fetched'.symm.trans fetched)
    obtain ⟨inStep'', enough, first'⟩ := ih inStep'
    refine ⟨inStep'', enough, .inl ⟨?_, ?_⟩⟩
    · exact Nat.le_trans inStep.first_le (ResultSet.rowCount_le_of_needsFetch needs)
    · rcases first' with first' | first'
      · exact first'.2
      · exact absurd first (Nat.not_le_of_lt first'.1)
  | case4 cursor needs count after fetched _ still =>
    obtain ⟨after', fetched', inStep', first, -, last⟩ :=
      fetchPage_of_needsFetch server inStep needs
    obtain ⟨rfl, rfl⟩ := EStateM.Result.ok.inj (fetched'.symm.trans fetched)
    refine ⟨inStep', ResultSet.needsFetch_of_ended (last (Nat.le_of_not_lt still)),
      .inl ⟨?_, first⟩⟩
    exact Nat.le_trans inStep.first_le (ResultSet.rowCount_le_of_needsFetch needs)
  | case5 cursor enough =>
    refine ⟨inStep, by simpa using enough, ?_⟩
    rcases Nat.lt_or_ge row cursor.result.firstRow with below | inside
    · exact .inr ⟨below, rfl⟩
    · exact .inl ⟨inside, inside⟩

omit [Network ν] in
/-- The result set of a cursor in step is within reach. -/
theorem checkEpoch_eq (inStep : InStep store link stands nulls cursor) :
    cursor.checkEpoch = cursor :=
  Cursor.checkEpoch_of_epoch_eq inStep.epoch_eq

theorem ensureRow_eq (inStep : InStep store link stands nulls cursor) (row : Nat) :
    cursor.ensureRow row = cursor.fetchTo row := by
  rw [Cursor.ensureRow, inStep.checkEpoch_eq]

/-- **A row is read exactly.**  A cursor in step reads a row in front of its
page as nothing, and every other one as it is. -/
theorem bufferedRow_ensureRow (server : PagingServer store sql binds link stands)
    (inStep : InStep store link stands nulls cursor) (row : Nat) :
    (cursor.ensureRow row).result.bufferedRow row =
        (if row < cursor.result.firstRow then none
        else (store.rows[row]?).map DataRow.values) ∧
      (store.rows.length ≤ row → (cursor.ensureRow row).result.ended = true ∧
        (cursor.ensureRow row).result.rowCount = store.rows.length) := by
  rw [inStep.ensureRow_eq]
  obtain ⟨inStep', enough, first⟩ := fetchTo server inStep row
  -- the row is counted, or known not to exist
  have counted : row < (cursor.fetchTo row).result.rowCount ∨
      (cursor.fetchTo row).result.ended = true := by
    simp only [ResultSet.needsFetch, inStep'.present, inStep'.id_eq] at enough
    rcases ended : (cursor.fetchTo row).result.ended with - | -
    · rw [ended] at enough
      exact .inl (by simpa using enough)
    · exact .inr rfl
  constructor
  · rw [inStep'.shows]
    rcases first with ⟨inside, first⟩ | ⟨below, same⟩
    · rw [if_neg (Nat.not_lt.mpr inside)]
      split
      · next outside =>
        have last := counted.resolve_left (by omega)
        rw [List.getElem?_eq_none (by rw [← inStep'.complete last]; omega)]
        rfl
      · rfl
    · rw [same, if_pos (.inl below), if_pos below]
  · intro beyond
    have bound := server.bounded inStep'.stands
    have last := counted.resolve_left (by omega)
    exact ⟨last, inStep'.complete last⟩

/-- Reading a row keeps cursor and server in step. -/
theorem row (server : PagingServer store sql binds link stands)
    (inStep : InStep store link stands nulls cursor) (row : Nat) :
    InStep store link stands nulls (cursor.row row).2 := by
  show InStep store link stands nulls (cursor.ensureRow row)
  rw [inStep.ensureRow_eq]
  exact (fetchTo server inStep row).1

/-- A statement that a prepared cursor runs on a server that was not asked
before brings cursor and server in step. -/
theorem execute (server : PagingServer store (cursor.substitutions.expand cursor.sql)
      cursor.binds.entries link stands) (prepared : cursor.IsPrepared)
    (ready : cursor.session.Ready link) (fresh : stands none cursor.session.traffic.network) :
    ∃ opened : Cursor ν, cursor.execute = .ok () opened ∧
      InStep store link stands cursor.nullsAsEmpty opened := by
  have within := Batch.documented_within (Nat.zero_le store.rows.length) 0 cursor.bufferSize
  obtain ⟨armed, session, isArmed, ready', at_, ran⟩ :=
    prepared.execute_of_delivers ready (server.executes fresh cursor.executeOptions)
  obtain ⟨recorder, disk, rfl⟩ := isArmed.same
  refine ⟨_, ran, of_holdsBatch rfl ready'.statementExecuted rfl ?_ ?_
    (Batch.next_documented_of_ended (Nat.zero_le _)) at_⟩
  · show (Cursor.taking _ session _).result.nullsAsEmpty = _
    rw [Cursor.taking_result, ResultSet.nullsAsEmpty_foldl]
    rfl
  · show ResultSet.HoldsBatch (Cursor.taking _ session _).result store.id store.rows 0 _
    rw [Cursor.taking_result]
    exact ResultSet.holdsBatch_of_opened _ _ within.toNat_skipped within.next_le

end InStep

/-- The cursor after reading rows, one after the other. -/
def Cursor.afterReading (reads : List Nat) (cursor : Cursor ν) : Cursor ν :=
  reads.foldl (fun cursor i => (cursor.row i).2) cursor

theorem InStep.afterReading {store : RowStore} {sql : String} {binds : List Bind} {link : LinkId}
    {stands : Option Nat → ν → Prop} {nulls : Bool} {cursor : Cursor ν}
    (server : PagingServer store sql binds link stands)
    (inStep : InStep store link stands nulls cursor) (reads : List Nat) :
    InStep store link stands nulls (cursor.afterReading reads) := by
  induction reads generalizing cursor with
  | nil => exact inStep
  | cons i reads ih => exact ih (inStep.row server i)

/-- **Paging is exact.**  A cursor closes what it has open and runs its statement,
and then every read of a row, after any reads before it, is nothing if the row
lies in front of the page, and the row as the result set has it if not.  A read
behind the last row leaves all rows counted. -/
theorem Cursor.paging_exact {store : RowStore} {link : LinkId} {stands : Option Nat → ν → Prop}
    {former cursor : Cursor ν} (clears : former.Clears cursor)
    (server : PagingServer store (cursor.substitutions.expand cursor.sql) cursor.binds.entries
      link stands)
    (prepared : cursor.IsPrepared) (ready : cursor.session.Ready link)
    (fresh : stands none cursor.session.traffic.network) :
    ∃ opened : Cursor ν, former.execute = .ok () opened ∧
      ∀ (reads : List Nat) (i : Nat),
        let before := opened.afterReading reads
        let after := (before.row i).2
        (before.row i).1 =
            (if i < before.result.firstRow then none
            else ((ResultSet.reset cursor.nullsAsEmpty).whole store.rows).rowTexts i) ∧
          (store.rows.length ≤ i →
            after.result.ended = true ∧ after.result.rowCount = store.rows.length ∧
              after.result.totalRows = some store.rows.length) := by
  obtain ⟨opened, ran, inStep⟩ := InStep.execute server prepared ready fresh
  refine ⟨opened, clears.execute_eq.trans ran, fun reads i => ?_⟩
  have before := inStep.afterReading server reads
  obtain ⟨found, beyond⟩ := before.bufferedRow_ensureRow server i
  have after := before.row server i
  refine ⟨?_, fun behind => ?_⟩
  · -- the texts are those of the values, which are those of the row
    show ((opened.afterReading reads).ensureRow i).result.rowTexts i = _
    unfold ResultSet.rowTexts
    rw [found]
    split
    · rfl
    · rw [ResultSet.bufferedRow_whole]
      unfold ResultSet.readValue
      rw [show ((opened.afterReading reads).ensureRow i).result.nullsAsEmpty = _ from
        after.nulls_eq]
      rfl
  · obtain ⟨ended, counted⟩ := beyond behind
    refine ⟨ended, counted, ?_⟩
    show (((opened.afterReading reads).ensureRow i).result).totalRows = _
    rw [ResultSet.totalRows, if_pos ended, counted]

namespace TableServer

/-- A cursor that reads five rows two at a time, and records them. -/
def pagingCursor : Cursor TableServer :=
  { (TableServer.mk fiveRowStore none none).cursor {} with
    bufferSize := 2, cacheTarget := some "rows" }

theorem isPrepared_pagingCursor : pagingCursor.IsPrepared where
  id_eq := rfl
  rows_eq := rfl
  source_eq := rfl
  recorder_eq := rfl
  valid := rfl
  few := by decide
  creates := by
    intro path target
    obtain rfl := Option.some.inj target
    have created : (pagingCursor.disk.createFile "rows").toBool = true := by decide +kernel
    rcases e : pagingCursor.disk.createFile "rows" with e' | ⟨id, disk⟩
    · rw [e] at created
      contradiction
    · exact ⟨id, disk, rfl⟩

/-- Its server was not asked before. -/
theorem isFreeAt_pagingCursor : IsFreeAt fiveRowStore none pagingCursor.session.traffic.network := by
  refine ⟨⟨rfl, rfl, ?_⟩, rfl⟩
  intro p none_
  contradiction

/-- What is known of the reads of this cursor. -/
theorem paging_exact_pagingCursor :
    PagingServer fiveRowStore (Substitutions.expand {} "") [] 0 (IsFreeAt fiveRowStore) ∧
      pagingCursor.Clears pagingCursor ∧ pagingCursor.IsPrepared ∧
      pagingCursor.session.Ready 0 ∧
      IsFreeAt fiveRowStore none pagingCursor.session.traffic.network ∧
      ∃ opened : Cursor TableServer, pagingCursor.execute = .ok () opened ∧
        ∀ (reads : List Nat) (i : Nat),
          let before := opened.afterReading reads
          let after := (before.row i).2
          (before.row i).1 =
              (if i < before.result.firstRow then none
              else ((ResultSet.reset false).whole fiveRows).rowTexts i) ∧
            (5 ≤ i → after.result.ended = true ∧ after.result.rowCount = 5 ∧
              after.result.totalRows = some 5) := by
  have server : PagingServer fiveRowStore (Substitutions.expand {} "") [] 0
      (IsFreeAt fiveRowStore) := pagingServer fiveRowStore _ [] 0
  have ready : pagingCursor.session.Ready 0 := ready_cursor _ {}
  have clears : pagingCursor.Clears pagingCursor := isPrepared_pagingCursor.clears
  exact ⟨server, clears, isPrepared_pagingCursor, ready, isFreeAt_pagingCursor,
    Cursor.paging_exact clears server isPrepared_pagingCursor ready isFreeAt_pagingCursor⟩

end TableServer

end ProxyClient
