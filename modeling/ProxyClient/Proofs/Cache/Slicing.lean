/-
ProxyClient/Proofs/Cache/Slicing.lean

A reader of a whole file cuts pages from the list of its rows.  Of the rows
that are left, a call for `limit` rows behind the first `skip`

    skipped  →  as many in front as there are, up to `skip`
    fed      →  those behind them, up to `limit`, or all for zero
    ended    →  if all were asked for, or fewer than `limit` were there

and what is behind these is left to the next call (`PageCall.slice`).  The
reader has no list: it reads frame by frame, and learns of the end of the
file as it comes to it, which may be while it skips, in the middle of a page,
or by a page that comes to nothing.  The headline `CacheReader.fetches_slices`
says that this makes no difference: any calls one after the other hand over
the slices, each with a batch end that tells how many rows were skipped and
whether it was the last, and slices and rest make up the rows of the file.
-/
import ProxyClient.Proofs.Cache.Whole
import ProxyClient.Proofs.Exchange.Journal
import ProxyClient.Proofs.Paging.TableServer

namespace ProxyClient

/-! ### Slices of a list of rows -/

/-- A call for rows of a file. -/
structure PageCall where
  /-- The rows to skip. -/
  skip : UInt64
  /-- The most rows to hand over; zero for all. -/
  limit : UInt32

/-- What is cut from the rows that are left. -/
structure Slice where
  /-- The rows that are skipped. -/
  skipped : List DataRow
  /-- The rows that are handed over. -/
  fed : List DataRow
  /-- These are said to be the last. -/
  ended : Bool
  /-- The rows that are left behind them. -/
  left : List DataRow

/-- The batch end behind the rows of a slice. -/
def Slice.ending (slice : Slice) : BatchEnd :=
  ⟨slice.ended, UInt64.ofNat slice.skipped.length⟩

/-- The slice as it is handed over. -/
def Slice.events (slice : Slice) : List RowEvent :=
  slice.fed.map .row ++ [.batchEnd slice.ending]

namespace PageCall

/-- What a call cuts from the rows that are left. -/
def slice (call : PageCall) (rows : List DataRow) : Slice :=
  let count := min call.skip.toNat rows.length
  let behind := rows.drop count
  let most := if call.limit = 0 then behind.length else call.limit.toNat
  { skipped := rows.take count
    fed := behind.take most
    ended := call.limit = 0 ∨ behind.length < call.limit.toNat
    left := behind.drop most }

/-- What is left of the rows behind some calls. -/
def leftOf (calls : List PageCall) (rows : List DataRow) : List DataRow :=
  calls.foldl (fun left call => (call.slice left).left) rows

/-- What some calls cut, one behind the other. -/
def slices : List PageCall → List DataRow → List Slice
  | [], _ => []
  | call :: calls, rows => call.slice rows :: slices calls (call.slice rows).left

variable {call : PageCall} {rows : List DataRow}

/-- Skipping counts to the last row at most. -/
theorem drop_count (call : PageCall) (rows : List DataRow) :
    rows.drop (min call.skip.toNat rows.length) = rows.drop call.skip.toNat := by
  rcases Nat.le_total call.skip.toNat rows.length with inside | outside
  · rw [Nat.min_eq_left inside]
  · rw [Nat.min_eq_right outside, List.drop_length, List.drop_eq_nil_of_le outside]

theorem limit_eq_zero_iff (call : PageCall) : call.limit = 0 ↔ call.limit.toNat = 0 :=
  UInt32.toNat_inj.symm

/-- A slice is handed over as a page is. -/
theorem events_slice (call : PageCall) (rows : List DataRow) :
    (call.slice rows).events =
      (Batch.page rows.length call.skip.toNat call.limit.toNat).events rows 0 := by
  rw [Batch.events_page, Slice.events, Slice.ending]
  simp only [slice, drop_count, limit_eq_zero_iff, List.length_take, Nat.min_assoc, Nat.min_self]

theorem left_slice (call : PageCall) (rows : List DataRow) :
    (call.slice rows).left =
      rows.drop ((Batch.page rows.length call.skip.toNat call.limit.toNat).next 0) := by
  rw [Batch.drop_next_page]
  simp only [slice, drop_count, limit_eq_zero_iff]

/-- Nothing is lost of the rows but what is skipped. -/
theorem slice_append (call : PageCall) (rows : List DataRow) :
    rows = (call.slice rows).skipped ++ ((call.slice rows).fed ++ (call.slice rows).left) := by
  simp only [slice, List.take_append_drop]

theorem slices_append (calls : List PageCall) (rows : List DataRow) :
    rows = (slices calls rows).flatMap (fun slice => slice.skipped ++ slice.fed) ++
      leftOf calls rows := by
  induction calls generalizing rows with
  | nil => rfl
  | cons call calls ih =>
    rw [slices, List.flatMap_cons, leftOf, List.foldl_cons, List.append_assoc, List.append_assoc]
    rw [show (slices calls (call.slice rows).left).flatMap _ ++
      calls.foldl _ (call.slice rows).left = (call.slice rows).left from (ih _).symm]
    exact call.slice_append rows

/-- The batch end tells how many rows were skipped, and of the end if and only if
all were asked for or fewer were left. -/
theorem ending_slice (call : PageCall) (rows : List DataRow) :
    (call.slice rows).ending.rowsSkipped.toNat = min call.skip.toNat rows.length ∧
      ((call.slice rows).ending.endOfResultSet = true ↔
        call.limit = 0 ∨ rows.length - call.skip.toNat < call.limit.toNat) := by
  constructor
  · have fits : min call.skip.toNat rows.length < UInt64.size :=
      Nat.lt_of_le_of_lt (Nat.min_le_left _ _) call.skip.toNat_lt
    simp only [Slice.ending, slice, List.length_take, Nat.min_assoc, Nat.min_self]
    exact UInt64.toNat_ofNat_of_lt' fits
  · simp only [Slice.ending, slice, drop_count, List.length_drop, decide_eq_true_iff]

end PageCall

/-! ### Reading the slices -/

namespace CacheReader

section

variable {η : Type} (handler : Handler η) (diskOf : η → Disk)

/-- Carries calls out one after the other, up to one that fails. -/
def fetchAll : List PageCall → CacheReader × η → Outcome Unit (CacheReader × η)
  | [], s => .ok () s
  | call :: calls, s =>
    match s.1.fetch handler diskOf call.skip.toNat call.limit.toNat s.2 with
    | .error e s => .error e s
    | .ok () s => fetchAll calls s

variable {handler diskOf} {take : η → RowEvent → η} {leaves : η → Prop} {bytes : Bytes}
  {reader : CacheReader} {rows : List DataRow} {state : η}

/-- A call hands over its slice, and the reader stands before what is left. -/
theorem StandsBefore.fetch_slice (call : PageCall) (stands : reader.StandsBefore bytes rows)
    (takes : handler.Takes take) (left : Leaves diskOf take reader.file.id bytes leaves)
    (leave : leaves state) :
    ∃ after : CacheReader, after.file.id = reader.file.id ∧
      reader.fetch handler diskOf call.skip.toNat call.limit.toNat state =
        .ok () (after, (call.slice rows).events.foldl take state) ∧
      after.StandsBefore bytes (call.slice rows).left := by
  obtain ⟨after, id_eq, fetched, behind⟩ :=
    stands.fetch call.skip.toNat call.limit.toNat (left.keepsFile takes) leave
  rw [← call.events_slice, takes.run_eq] at fetched behind
  rw [← call.left_slice] at behind
  exact ⟨after, id_eq, fetched, behind _ rfl⟩

/-- Calls hand over their slices, each of what the calls before it have left. -/
theorem StandsBefore.fetchAll_slices (calls : List PageCall)
    (stands : reader.StandsBefore bytes rows) (takes : handler.Takes take)
    (left : Leaves diskOf take reader.file.id bytes leaves) (leave : leaves state) :
    ∃ after : CacheReader,
      fetchAll handler diskOf calls (reader, state) =
        .ok () (after, ((PageCall.slices calls rows).flatMap Slice.events).foldl take state) ∧
      after.StandsBefore bytes (PageCall.leftOf calls rows) := by
  induction calls generalizing reader rows state with
  | nil => exact ⟨reader, rfl, stands⟩
  | cons call calls ih =>
    obtain ⟨next, id_eq, fetched, behind⟩ := stands.fetch_slice call takes left leave
    obtain ⟨after, ran, last⟩ :=
      ih behind (id_eq ▸ left) (left.foldl leave (call.slice rows).events)
    refine ⟨after, ?_, last⟩
    rw [fetchAll, fetched, PageCall.slices, List.flatMap_cons, List.foldl_append]
    exact ran

/-- **Fetching from a whole file is slicing the list of its rows**, whatever rows are
asked for in whatever order: every call succeeds and hands over its slice; the
slices and what is left behind the last make up the rows, so that no row is
handed over twice, and none is lost but by skipping.  The receiver takes
everything, and leaves the file as it is. -/
theorem fetches_slices {path : String} {now : Int64} {disk : Disk} {header : CacheHeader}
    {describe : Describe} {id : FileId} {start : η}
    (has : disk.HasRows path header describe rows) (live : header.isExpired now = false)
    (found : disk.openFile path = .ok id) (takes : handler.Takes take)
    (left : Leaves diskOf take id (disk.bytesOf id) leaves) (leave : leaves start) :
    ∃ reader, openAt path now disk = .ok reader ∧ ∀ calls : List PageCall,
      (∃ after, fetchAll handler diskOf calls (reader, start) =
        .ok () (after, ((PageCall.slices calls rows).flatMap Slice.events).foldl take start)) ∧
      rows = (PageCall.slices calls rows).flatMap (fun slice => slice.skipped ++ slice.fed) ++
        PageCall.leftOf calls rows ∧
      ∀ call : PageCall,
        let remaining := PageCall.leftOf calls rows
        let batch := (call.slice remaining).ending
        batch.rowsSkipped.toNat = min call.skip.toNat remaining.length ∧
          (batch.endOfResultSet = true ↔
            call.limit = 0 ∨ remaining.length - call.skip.toNat < call.limit.toNat) := by
  obtain ⟨reader, opened, found', -, stands⟩ := has.openAt live
  obtain rfl := Except.ok.inj (found.symm.trans found')
  refine ⟨reader, opened, fun calls => ⟨?_, ?_, ?_⟩⟩
  · obtain ⟨after, ran, -⟩ := stands.fetchAll_slices calls takes left leave
    exact ⟨after, ran⟩
  · exact PageCall.slices_append calls rows
  · exact fun call => call.ending_slice _

end

/-- A disk on which five rows are recorded, up to their end. -/
def wholeDisk : Disk where
  entries := [(["rows"], .file 0)]
  contents := [CacheWriter.recorded ⟨0⟩ (fiveRowStore.describe ⟨true, 2⟩ 0) fiveRows ++
    CacheWriter.endFrame.encode]

theorem hasRows_wholeDisk :
    wholeDisk.HasRows "rows" ⟨0⟩ (fiveRowStore.describe ⟨true, 2⟩ 0) fiveRows where
  legible := fiveRowStore.describe_legible _ _
  fit := fiveRowStore.row_fits
  bytes := ⟨_, closesRows_endFrame, by decide +kernel⟩

/-- A row behind another, the rest and more than there are, and again. -/
theorem fetches_slices_wholeDisk :
    (let calls : List PageCall := [⟨1, 1⟩, ⟨0, 4⟩, ⟨9, 0⟩]
     ∃ reader after, openAt "rows" 0 wholeDisk = .ok reader ∧
       fetchAll Handler.journal (fun _ => wholeDisk) calls (reader, []) =
         .ok () (after, [.row (.ofText "r1"), .batchEnd ⟨false, 1⟩, .row (.ofText "r2"),
           .row (.ofText "r3"), .row (.ofText "r4"), .batchEnd ⟨true, 0⟩, .batchEnd ⟨true, 0⟩]) ∧
       PageCall.leftOf calls fiveRows = []) := by
  have left : Leaves (fun _ => wholeDisk) (fun (events : List RowEvent) event => events ++ [event])
      0 (wholeDisk.bytesOf 0) fun _ => True := ⟨fun _ => rfl, fun _ _ => trivial⟩
  have live : (CacheHeader.mk 0).isExpired 0 = false := by decide
  have leave : (fun _ : List RowEvent => True) [] := trivial
  obtain ⟨reader, opened, all⟩ :=
    fetches_slices hasRows_wholeDisk live rfl Handler.takes_journal left leave
  obtain ⟨⟨after, fetched⟩, -, -⟩ := all [⟨1, 1⟩, ⟨0, 4⟩, ⟨9, 0⟩]
  exact ⟨reader, after, opened, fetched, by decide +kernel⟩

end CacheReader

end ProxyClient
