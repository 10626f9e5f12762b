/-
ProxyClient/Proofs/Cache/Cuts.lean

Cache files that are cut.  A file is created and continued in stints: each
writes a description and rows, and closes the file with an end frame or
without one.  In between the file may be cut to any length that leaves the
header (`IsKept`).

    what is left     =  header, complete frames, a torn one
    after a stint    =  header, the first description, the rows that were
                        complete, the rows of the stint, perhaps an end frame

So a stint always finds a file that it can continue, and leaves one that is
whole (`IsWhole`), and from this one its rows are read back
(`survives_cuts`).
-/
import ProxyClient.Proofs.Cache.Whole

namespace ProxyClient

theorem RowEvent.encodeAll_map_row (rows : List DataRow) :
    RowEvent.encodeAll (rows.map .row) = encodeRows rows :=
  List.flatMap_map ..

namespace CacheWriter

/-! ### Stints -/

/-- How a recorder lets go of its file. -/
inductive Closing where
  /-- The result set is complete. -/
  | finish
  /-- The file is to be continued. -/
  | detach
  /-- Nothing is said about it, and the buffer is emptied. -/
  | drop
  deriving DecidableEq, Repr

/-- What is left on the disk. -/
def Closing.close : Closing → CacheWriter → Disk → Disk
  | .finish, writer, disk => writer.finish disk
  | .detach, writer, disk => writer.detach disk
  | .drop, writer, disk => (writer.flush disk).2

/-- What is recorded in a file at a time. -/
structure Stint where
  /-- The description, which comes first. -/
  describe : Describe
  /-- The rows behind it. -/
  rows : List DataRow
  /-- How the file is closed. -/
  closing : Closing
  /-- The description can be read. -/
  legible : (RowEvent.describe describe).Legible
  /-- The rows fit into frames. -/
  fit : ∀ row ∈ rows, row.frame.Fits

/-- A recorder takes the description and the rows, and closes the file. -/
def Stint.run (stint : Stint) (writer : CacheWriter) (disk : Disk) : Disk :=
  let (writer, disk) := (RowEvent.describe stint.describe :: stint.rows.map RowEvent.row).foldl
    (fun (state : CacheWriter × Disk) event => state.1.apply event state.2) (writer, disk)
  stint.closing.close writer disk

/-! ### What a stint leaves -/

section

variable {path : String} {header : CacheHeader} {describe : Describe} {rows : List DataRow}
  {id : FileId} {since disk : Disk} {writer : CacheWriter} {image : Bytes}

/-- However a file is closed, it holds the image, and an end frame at most. -/
theorem Holds.close {state : CacheWriter × Disk} (holds : Holds id since image true false state)
    (closing : Closing) :
    ∃ ended : Bool, (closing.close state.1 state.2).bytesOf id =
        image ++ (if ended then endFrame.encode else []) ∧
      Disk.OnlyChanges id since (closing.close state.1 state.2) := by
  obtain ⟨detached, only⟩ := holds.detach
  rw [← List.append_nil image] at detached
  cases closing with
  | finish => exact ⟨true, holds.finish⟩
  | detach => exact ⟨false, detached, only⟩
  | drop => exact ⟨false, detached, only⟩

/-- Behind the description that the file has then, the rows are written and the
file is closed. -/
theorem Stint.hasRecorded_run (stint : Stint) (found : since.openFile path = .ok id)
    (legible : (RowEvent.describe describe).Legible) (fit : ∀ row ∈ rows, row.frame.Fits)
    (described : Holds id since (recorded header describe rows) true false
      (writer.apply (.describe stint.describe) disk)) :
    (stint.run writer disk).HasRecorded path header describe (rows ++ stint.rows) := by
  have written := described.rows stint.rows
  rw [← recorded_append] at written
  obtain ⟨ended, bytes, only⟩ := written.close stint.closing
  refine ⟨legible, ?_, ended, ?_⟩
  · intro row mem
    rcases List.mem_append.mp mem with old | new
    · exact fit row old
    · exact stint.fit row new
  · rw [← bytes]
    exact only.bytesAt?_eq found

/-- A new file is whole after its first stint. -/
theorem IsFresh.hasRecorded_run (fresh : writer.IsFresh disk) (found : disk.openFile path = .ok writer.file.id)
    (stint : Stint) :
    (stint.run writer disk).HasRecorded path ⟨writer.expiresAt⟩ stint.describe stint.rows := by
  have described : Holds writer.file.id disk (recorded ⟨writer.expiresAt⟩ stint.describe []) true
      false (writer.apply (.describe stint.describe) disk) := by
    rw [recorded, encodeRows_nil, List.append_nil]
    exact fresh.holds_describe stint.describe
  have whole := stint.hasRecorded_run found stint.legible (List.forall_mem_nil _) described
  exact whole

/-- A file with nothing but a header is whole after the next stint. -/
theorem Holds.hasRecorded_run_of_headed (holds : Holds id since header.encode false false (writer, disk))
    (found : since.openFile path = .ok id) (stint : Stint) :
    (stint.run writer disk).HasRecorded path header stint.describe stint.rows := by
  have described : Holds id since (recorded header stint.describe []) true false
      (writer.apply (.describe stint.describe) disk) := by
    rw [recorded, encodeRows_nil, List.append_nil]
    exact holds.firstDescribe stint.describe
  have whole := stint.hasRecorded_run found stint.legible (List.forall_mem_nil _) described
  exact whole

/-- A file with a description keeps it, and its rows. -/
theorem Holds.hasRecorded_run (holds : Holds id since (recorded header describe rows) true false
      (writer, disk)) (found : since.openFile path = .ok id)
    (legible : (RowEvent.describe describe).Legible) (fit : ∀ row ∈ rows, row.frame.Fits)
    (stint : Stint) :
    (stint.run writer disk).HasRecorded path header describe (rows ++ stint.rows) :=
  stint.hasRecorded_run found legible fit (holds.describe stint.describe)

end

/-! ### What is left of a file that was cut -/

/-- The events of a file that is whole. -/
def eventsOf (describe : Describe) (rows : List DataRow) (ended : Bool) : List RowEvent :=
  .describe describe :: (rows.map .row ++ if ended then [.batchEnd ⟨true, 0⟩] else [])

theorem encodeAll_eventsOf (header : CacheHeader) (describe : Describe) (rows : List DataRow)
    (ended : Bool) :
    header.encode ++ RowEvent.encodeAll (eventsOf describe rows ended) =
      recorded header describe rows ++ if ended then endFrame.encode else [] := by
  rw [recorded_layout, eventsOf, RowEvent.encodeAll_cons, RowEvent.encodeAll_append,
    RowEvent.encodeAll_map_row]
  cases ended
  · rfl
  · exact congrArg (fun tail => _ ++ (_ ++ (_ ++ tail))) (List.append_nil _)

theorem orderly_eventsOf {describe : Describe} {rows : List DataRow} (ended : Bool)
    (legible : (RowEvent.describe describe).Legible) (fit : ∀ row ∈ rows, row.frame.Fits) :
    Orderly .waitingDescribe (eventsOf describe rows ended) := by
  refine ⟨rfl, legible, ?_⟩
  have all := orderly_rows fit ⟨true, 0⟩
  cases ended
  · rw [if_neg Bool.false_ne_true, List.append_nil]
    exact (orderly_append.mp all).1
  · exact all

/-- The beginning of the events of a file: none of them, or the description and
some rows, and with all rows perhaps the end. -/
theorem prefix_eventsOf {describe : Describe} {rows : List DataRow} {ended : Bool}
    {front : List RowEvent} (h : front <+: eventsOf describe rows ended) :
    front = [] ∨ ∃ kept ended', kept <+: rows ∧ front = eventsOf describe kept ended' := by
  rcases List.prefix_cons_iff.mp h with rfl | ⟨behind, rfl, left⟩
  · exact .inl rfl
  · right
    -- cut off within the rows
    have some_rows (inside : behind <+: rows.map RowEvent.row) :
        ∃ kept ended', kept <+: rows ∧ RowEvent.describe describe :: behind =
          eventsOf describe kept ended' := by
      refine ⟨rows.take behind.length, false, List.take_prefix _ _, ?_⟩
      rw [List.prefix_iff_eq_take.mp inside, eventsOf]
      simp
    cases ended
    · rw [if_neg Bool.false_ne_true, List.append_nil] at left
      exact some_rows left
    · rw [if_pos rfl] at left
      -- behind the end frame, or before it
      rcases List.prefix_concat_iff.mp left with rfl | inside
      · exact ⟨rows, true, List.prefix_rfl, rfl⟩
      · exact some_rows inside

theorem rowsOf_eventsOf (describe : Describe) (rows : List DataRow) (ended : Bool) :
    RowEvent.rowsOf (eventsOf describe rows ended) = rows := by
  show RowEvent.rowsOf (rows.map .row ++ _) = rows
  rw [RowEvent.rowsOf_append, RowEvent.rowsOf_map_row]
  cases ended
  · exact List.append_nil rows
  · exact List.append_nil rows

theorem head?_describesOf_eventsOf (describe : Describe) (rows : List DataRow) (ended : Bool) :
    (RowEvent.describesOf (eventsOf describe rows ended)).head? = some describe := rfl

/-- The scan stops behind the rows, at an end frame or at what is torn. -/
theorem stops_of_closed {torn : Bytes} (ended : Bool) (cut : torn = [] ∨ Frame.Torn torn) :
    Stops ((if ended then endFrame.encode else []) ++ torn) := by
  cases ended
  · rcases cut with rfl | torn
    · exact stops_nil
    · exact stops_of_torn torn
  · exact stops_endFrame torn

section

variable {path : String} {header : CacheHeader} {describe : Describe} {rows : List DataRow}
  {before cut : Disk} {n : Nat}

/-- **A file that was cut is continued**: its complete frames are kept, and so
it is whole after the next stint. -/
theorem append_of_cut (whole : before.HasRecorded path header describe rows)
    (headed : CacheHeader.size ≤ n)
    (shortened : cut.bytesAt? path = (before.bytesAt? path).map (List.take n)) :
    ∃ (events : List RowEvent) (torn : Bytes) (writer : CacheWriter) (opened : Disk),
      cut.bytesAt? path = some (header.encode ++ RowEvent.encodeAll events ++ torn) ∧
      (torn = [] ∨ Frame.Torn torn) ∧ CacheWriter.append path cut = .ok writer opened ∧
      (opened.bytesAt? path).map (List.take CacheHeader.size) = some header.encode ∧
      ∀ stint : Stint, (stint.run writer opened).HasRecorded path header
        ((RowEvent.describesOf events).head?.getD stint.describe)
        (RowEvent.rowsOf events ++ stint.rows) := by
  obtain ⟨legible, fit, ended, bytes⟩ := whole
  rw [← encodeAll_eventsOf] at bytes
  -- the cut stands behind the header, in or behind the frames of the events
  obtain ⟨events, torn, front, left, cutOff⟩ :=
    (orderly_eventsOf ended legible fit).take (n - CacheHeader.size)
  have there : cut.bytesAt? path = some (header.encode ++ RowEvent.encodeAll events ++ torn) := by
    rw [shortened, bytes, Option.map_some, List.take_append, header.length_encode, left,
      List.take_of_length_le (header.length_encode ▸ headed), List.append_assoc]
  obtain ⟨id, found, bytes⟩ := Disk.openFile_of_bytesAt? there
  rcases prefix_eventsOf front with rfl | ⟨kept, ended', inside, rfl⟩
  · -- not even the description is left
    rw [RowEvent.encodeAll_nil, List.append_nil] at bytes
    have stops : Stops torn := stops_of_closed false cutOff
    have parsed : CacheHeader.parse? (cut.bytesOf id) = some header := by
      rw [bytes, header.parse?_encode]
    have scanned : scan ⟨false, CacheHeader.size⟩ ((cut.bytesOf id).drop CacheHeader.size) =
        some ⟨false, header.encode.length⟩ := by
      rw [bytes, List.drop_left' header.length_encode, stops, header.length_encode]
    obtain ⟨writer, opened, appended, holds⟩ := append_of_scan found bytes parsed scanned
    refine ⟨[], torn, writer, opened, there, cutOff, appended, ?_, ?_⟩
    · rw [holds.only.bytesAt?_eq found, holds.bytesOf_eq (pending_append appended), Option.map_some,
        List.take_of_length_le (Nat.le_of_eq header.length_encode)]
    · intro stint
      exact holds.hasRecorded_run_of_headed found stint
  · -- the description and some rows are
    have fit' : ∀ row ∈ kept, row.frame.Fits := fun row mem => fit row (inside.mem mem)
    rw [encodeAll_eventsOf, List.append_assoc] at bytes
    obtain ⟨writer, opened, appended, holds⟩ :=
      append_recorded found bytes legible.fits fit' (stops_of_closed ended' cutOff)
    refine ⟨_, torn, writer, opened, there, cutOff, appended, ?_, ?_⟩
    · rw [holds.only.bytesAt?_eq found, holds.bytesOf_eq (pending_append appended), Option.map_some,
        recorded, List.append_assoc, List.take_left' header.length_encode]
    · intro stint
      rw [rowsOf_eventsOf, head?_describesOf_eventsOf]
      exact holds.hasRecorded_run found legible fit' stint

end

/-! ### Histories -/

/-- A file is created, and continued as often as one likes: each time for one
stint, and each time it may have been cut, down to its header. -/
inductive IsKept (path : String) (header : CacheHeader) : Disk → Prop
  /-- The file is created, and the first stint follows. -/
  | created {since disk : Disk} {writer : CacheWriter} : since.IsSound →
      createWithExpiry path header.expiresAt since = .ok writer disk →
      ∀ stint : Stint, IsKept path header (stint.run writer disk)
  /-- The file is continued as far as it is left. -/
  | continued {before cut disk : Disk} {writer : CacheWriter} {n : Nat} : IsKept path header before →
      CacheHeader.size ≤ n → cut.bytesAt? path = (before.bytesAt? path).map (List.take n) →
      append path cut = .ok writer disk →
      ∀ stint : Stint, IsKept path header (stint.run writer disk)

variable {path : String} {header : CacheHeader} {before cut disk : Disk} {n : Nat}

/-- After every stint the file is whole. -/
theorem IsKept.hasRecorded (kept : IsKept path header disk) :
    ∃ describe rows, disk.HasRecorded path header describe rows := by
  -- the induction is on the stints; what is cut off in between was not whole
  induction kept with
  | created sound created stint =>
    obtain ⟨fresh, found, expiry⟩ := createWithExpiry_spec sound created
    have whole := fresh.hasRecorded_run found stint
    rw [expiry] at whole
    exact ⟨_, _, whole⟩
  | continued before headed shortened appended stint ih =>
    obtain ⟨describe, rows, whole⟩ := ih
    obtain ⟨events, torn, writer, opened, -, -, appended', -, whole'⟩ := append_of_cut whole headed shortened
    obtain ⟨rfl, rfl⟩ := EStateM.Result.ok.inj (appended'.symm.trans appended)
    exact ⟨_, _, whole' stint⟩

/-- **Cache files survive cuts at any byte.**  However a file was created, cut
and continued, and cut again down to any length that leaves its header: it can
be continued and keeps its header.  What is left of it is complete frames and
perhaps a torn one; after one more stint it can be opened as long as it is not
expired, its description is the first that was complete, or that of the stint
if there was none, and reading it hands over exactly the rows that were complete,
in order, those of the stint, and then the end. -/
theorem survives_cuts (kept : IsKept path header before) (headed : CacheHeader.size ≤ n)
    (shortened : cut.bytesAt? path = (before.bytesAt? path).map (List.take n)) :
    ∃ (events : List RowEvent) (torn : Bytes) (writer : CacheWriter) (opened : Disk),
      cut.bytesAt? path = some (header.encode ++ RowEvent.encodeAll events ++ torn) ∧
      (torn = [] ∨ Frame.Torn torn) ∧ append path cut = .ok writer opened ∧
      (opened.bytesAt? path).map (List.take CacheHeader.size) = some header.encode ∧
      ∀ (stint : Stint) (now : Int64), header.isExpired now = false →
        ∃ reader, CacheReader.openAt path now (stint.run writer opened) = .ok reader ∧
          reader.describe = (RowEvent.describesOf events).head?.getD stint.describe ∧
          ∀ {η : Type} (handler : Handler η) (state : η),
            (reader.fetch handler (fun _ => stint.run writer opened) 0 0 state).mapState Prod.snd =
              handler.run ((RowEvent.rowsOf events ++ stint.rows).map .row ++
                [.batchEnd ⟨true, 0⟩]) state := by
  obtain ⟨describe, rows, whole⟩ := kept.hasRecorded
  obtain ⟨events, torn, writer, opened, left, cutOff, appended, header_eq, whole'⟩ :=
    append_of_cut whole headed shortened
  refine ⟨events, torn, writer, opened, left, cutOff, appended, header_eq, ?_⟩
  intro stint now live
  obtain ⟨reader, read, -, describe_eq, stands⟩ := (whole' stint).hasRows.openAt live
  refine ⟨reader, read, describe_eq, ?_⟩
  intro η handler state
  obtain ⟨after, -, fetched, -⟩ := stands.fetch 0 0 (handler.keepsFile_const _ _) trivial
  -- one page without a limit has all the rows
  have page : (Batch.page (RowEvent.rowsOf events ++ stint.rows).length 0 0).events
      (RowEvent.rowsOf events ++ stint.rows) 0 =
        (RowEvent.rowsOf events ++ stint.rows).map .row ++ [.batchEnd ⟨true, 0⟩] := by
    rw [Batch.events_page, if_pos rfl, List.drop_zero, List.take_length]
    simp
  rw [fetched, page]
  rcases handler.run _ state with ⟨⟨⟩, state'⟩ | ⟨e, state'⟩
  · rfl
  · rfl

/-- Two rows, and then the end. -/
def twoRowStint : Stint where
  describe := Describe.ofParts ⟨7, 0, -1, -1, 0, 1⟩ []
  rows := ["r0", "r1"].map fun text => DataRow.ofValues [some (Bytes.ofText text)]
  closing := .finish
  legible := RowEvent.legible_ofParts rfl []
  fit := by decide +kernel

/-- A disk on which they are recorded. -/
def writtenDisk : Disk :=
  match createWithExpiry "rows" 0 {} with
  | .ok writer disk => twoRowStint.run writer disk
  | .error _ disk => disk

/-- It again, when the file was cut inside of its second row. -/
def tornDisk : Disk :=
  writtenDisk.setLength 0 75

/-- What is known of the file that was cut. -/
theorem survives_cuts_tornDisk :
    IsKept "rows" ⟨0⟩ writtenDisk ∧ CacheHeader.size ≤ 75 ∧
      tornDisk.bytesAt? "rows" = (writtenDisk.bytesAt? "rows").map (List.take 75) ∧
      ∃ (events : List RowEvent) (torn : Bytes) (writer : CacheWriter) (opened : Disk),
        tornDisk.bytesAt? "rows" =
          some (CacheHeader.encode ⟨0⟩ ++ RowEvent.encodeAll events ++ torn) ∧
        (torn = [] ∨ Frame.Torn torn) ∧ append "rows" tornDisk = .ok writer opened ∧
        (opened.bytesAt? "rows").map (List.take CacheHeader.size) =
          some (CacheHeader.encode ⟨0⟩) ∧
        ∀ (stint : Stint) (now : Int64), CacheHeader.isExpired ⟨0⟩ now = false →
          ∃ reader, CacheReader.openAt "rows" now (stint.run writer opened) = .ok reader ∧
            reader.describe = (RowEvent.describesOf events).head?.getD stint.describe ∧
            ∀ {η : Type} (handler : Handler η) (state : η),
              (reader.fetch handler (fun _ => stint.run writer opened) 0 0 state).mapState
                  Prod.snd =
                handler.run ((RowEvent.rowsOf events ++ stint.rows).map .row ++
                  [.batchEnd ⟨true, 0⟩]) state := by
  obtain ⟨writer, created⟩ := Outcome.exists_eq_ok
    (show (createWithExpiry "rows" 0 {}).toExcept.toBool = true by decide +kernel)
  have kept : IsKept "rows" ⟨0⟩ writtenDisk := by
    rw [writtenDisk, created]
    exact .created Disk.isSound_empty created twoRowStint
  have headed : CacheHeader.size ≤ 75 := by decide
  have shortened : tornDisk.bytesAt? "rows" = (writtenDisk.bytesAt? "rows").map (List.take 75) := by
    decide +kernel
  exact ⟨kept, headed, shortened, survives_cuts kept headed shortened⟩

end CacheWriter

end ProxyClient
