/-
ProxyClient/Proofs/Cache/Reading.lean

Reading a recorded result set back, also from a file that is torn.  A reader
stands at a row (`StandsAt`): what it has not yet read is the beginning of
the rows from there on and of the end frame, however much of them there is.

    skip s rows, hand over k  →  it stands at position + s + k
    the file is torn there    →  nothing more is read, and that is said once

Rows are handed over from behind those that were skipped also in front of
the place where the file is torn; there is no batch end then that tells how
many were skipped.
-/
import ProxyClient.Cache.Reader
import ProxyClient.Proofs.Cache.Recording
import ProxyClient.Proofs.Paging.Batch

namespace ProxyClient

/-- The beginning of a frame and of what follows it: all of the frame is there,
or it is torn. -/
theorem Frame.torn_or_complete_of_prefix {frame : Frame} (fits : frame.Fits) {bytes rest : Bytes}
    (h : bytes <+: frame.encode ++ rest) :
    (∃ more, bytes = frame.encode ++ more ∧ more <+: rest) ∨ Torn bytes := by
  obtain ⟨behind, e⟩ := h
  rcases List.append_eq_append_iff.mp e with ⟨lost, whole, -⟩ | ⟨more, front, rest_eq⟩
  · rcases lost with - | ⟨byte, lost⟩
    · refine .inl ⟨[], ?_, List.nil_prefix⟩
      rw [whole, List.append_nil, List.append_nil]
    · exact .inr ⟨frame, byte :: lost, fits, List.cons_ne_nil _ _, whole⟩
  · exact .inl ⟨more, front, behind, rest_eq.symm⟩

namespace CacheReader

/-- What an open file has not yet read of its bytes. -/
def unread (file : InputFile) (bytes : Bytes) : Bytes :=
  FaithfulSource.unread (InputView.mk file bytes)

/-- The reader stands at a row of those that a file with these bytes holds. -/
structure StandsAt (reader : CacheReader) (bytes : Bytes) (rows : List DataRow) (position : Nat) :
    Prop where
  /-- It stands at one of the rows, or behind the last. -/
  position_le : position ≤ rows.length
  /-- There is a beginning of the other rows to read, unless the end was read. -/
  ahead : reader.finished = true ∨
    unread reader.file bytes <+: encodeRows (rows.drop position) ++ CacheWriter.endFrame.encode

section

variable {reader : CacheReader} {disk : Disk} {bytes : Bytes} {rows : List DataRow}
  {position : Nat}

/-- Reading a frame of an open file leaves the file and the bytes that were read. -/
theorem readFrom_eq {file : InputFile} {read : FrameRead} {view : InputView}
    (h : readFrame (InputView.mk file (disk.bytesOf file.id)) = (read, view)) :
    readFrom file disk = (read, view.file) ∧ view.file.id = file.id ∧
      unread view.file (disk.bytesOf file.id) = FaithfulSource.unread view := by
  obtain ⟨bytes, id_eq⟩ := InputView.sameFile_readFrame ⟨file, disk.bytesOf file.id⟩
  rw [h] at bytes id_eq
  refine ⟨by rw [readFrom, h], id_eq, ?_⟩
  rw [← show view.bytes = disk.bytesOf file.id from bytes]
  rfl

/-- Where a frame or a part of it stands in front, it is read, or nothing more is. -/
theorem readFrom_of_prefix {file : InputFile} {frame : Frame} (fits : frame.Fits) {rest : Bytes}
    (front : unread file (disk.bytesOf file.id) <+: frame.encode ++ rest) :
    ∃ file' : InputFile, file'.id = file.id ∧
      ((readFrom file disk = (.frame frame, file') ∧
          unread file' (disk.bytesOf file.id) <+: rest) ∨
        unread file' (disk.bytesOf file.id) = [] ∧
          (readFrom file disk = (.ended, file') ∨
            ∃ t e, readFrom file disk = (.failed t e, file'))) := by
  rcases Frame.torn_or_complete_of_prefix fits front with ⟨more, all, before⟩ | torn
  · obtain ⟨view, read, behind⟩ := FaithfulSource.readFrame_of_encode fits all
    obtain ⟨read', id_eq, left⟩ := readFrom_eq read
    refine ⟨view.file, id_eq, .inl ⟨read', ?_⟩⟩
    rw [left, behind]
    exact before
  · obtain ⟨view, empty, ended | ⟨t, e, failed, -⟩⟩ := FaithfulSource.readFrame_of_torn torn
    · obtain ⟨read', id_eq, left⟩ := readFrom_eq ended
      exact ⟨view.file, id_eq, .inr ⟨left.trans empty, .inl read'⟩⟩
    · obtain ⟨read', id_eq, left⟩ := readFrom_eq failed
      exact ⟨view.file, id_eq, .inr ⟨left.trans empty, .inr ⟨t, e, read'⟩⟩⟩

/-- A reader that has come to its end stands anywhere. -/
theorem standsAt_of_finished (finished : reader.finished = true) (h : position ≤ rows.length) :
    reader.StandsAt bytes rows position :=
  ⟨h, .inl finished⟩

/-- So does one that has nothing to read. -/
theorem standsAt_of_unread_nil (empty : unread reader.file bytes = [])
    (h : position ≤ rows.length) : reader.StandsAt bytes rows position :=
  ⟨h, .inr (by rw [empty]; exact List.nil_prefix)⟩

/-- What reading the next row may come to. -/
inductive NextRow (reader : CacheReader) (bytes : Bytes) (rows : List DataRow) (position : Nat) :
    Outcome (Option Bytes) CacheReader → Prop
  /-- It is the row at which the reader stands. -/
  | row {row : DataRow} {after : CacheReader} :
      reader.finished = false → rows[position]? = some row → after.file.id = reader.file.id →
      after.StandsAt bytes rows (position + 1) →
      NextRow reader bytes rows position (.ok (some row.payload) after)
  /-- The file has come to its end. -/
  | ended {after : CacheReader} : after.file.id = reader.file.id → after.finished = true →
      NextRow reader bytes rows position (.ok none after)
  /-- The file is torn. -/
  | torn {e : Error} {after : CacheReader} : reader.finished = false →
      after.file.id = reader.file.id → unread after.file bytes = [] →
      NextRow reader bytes rows position (.error e after)

theorem StandsAt.nextRow (fit : ∀ row ∈ rows, row.frame.Fits)
    (stands : reader.StandsAt bytes rows position)
    (same : disk.bytesOf reader.file.id = bytes) :
    NextRow reader bytes rows position (reader.nextRow disk) := by
  subst same
  rw [CacheReader.nextRow]
  split
  · next finished => exact .ended rfl finished
  · next unfinished =>
    have more : reader.finished = false := by simpa using unfinished
    have ahead := stands.ahead.resolve_left unfinished
    rcases Nat.lt_or_ge position rows.length with inside | outside
    · -- a row, or a part of it
      rw [List.drop_eq_getElem_cons inside, encodeRows_cons, List.append_assoc] at ahead
      obtain ⟨file, id_eq, ⟨read, behind⟩ | ⟨empty, ended | ⟨t, e, failed⟩⟩⟩ :=
        readFrom_of_prefix (fit _ (List.getElem_mem inside)) ahead
      · rw [read]
        exact .row more (List.getElem?_eq_getElem inside) id_eq ⟨inside, .inr behind⟩
      · rw [ended]
        exact .ended id_eq rfl
      · rw [failed]
        exact .torn more id_eq empty
    · -- the end frame, or a part of it
      rw [List.drop_eq_nil_of_le outside, encodeRows_nil, List.nil_append,
        ← List.append_nil CacheWriter.endFrame.encode] at ahead
      obtain ⟨file, id_eq, ⟨read, -⟩ | ⟨empty, ended | ⟨t, e, failed⟩⟩⟩ :=
        readFrom_of_prefix (RowEvent.legible_batchEnd ⟨true, 0⟩).fits ahead
      · rw [read]
        exact .ended id_eq rfl
      · rw [ended]
        exact .ended id_eq rfl
      · rw [failed]
        exact .torn more id_eq empty

/-- Rows are skipped as asked, up to the end of the file. -/
theorem StandsAt.skipRows (fit : ∀ row ∈ rows, row.frame.Fits) (skip : Nat)
    (stands : reader.StandsAt bytes rows position) (same : disk.bytesOf reader.file.id = bytes) :
    ∃ after : CacheReader, after.file.id = reader.file.id ∧
      ((∃ skipped, CacheReader.skipRows disk skip reader = .ok skipped after ∧
          after.StandsAt bytes rows (position + skipped) ∧
          skipped ≤ skip ∧ (skipped = skip ∨ after.finished = true)) ∨
        ∃ e, CacheReader.skipRows disk skip reader = .error e after ∧
          unread after.file bytes = []) := by
  induction skip generalizing reader position with
  | zero => exact ⟨reader, rfl, .inl ⟨0, rfl, stands, Nat.le_refl 0, .inl rfl⟩⟩
  | succ skip ih =>
    rw [CacheReader.skipRows]
    have read := stands.nextRow fit same
    generalize reader.nextRow disk = outcome at read ⊢
    cases read with
    | @row row reader₁ _ _ id_eq stands₁ =>
      -- one row is skipped, and the others from where the reader stands now
      obtain ⟨after, id_eq', found⟩ := ih stands₁ (id_eq ▸ same)
      refine ⟨after, id_eq'.trans id_eq, ?_⟩
      rcases found with ⟨skipped, run, stands', few, all⟩ | ⟨e, run, empty⟩
      · refine .inl ⟨skipped + 1, by simp only [run], ?_, Nat.succ_le_succ few, ?_⟩
        · rwa [show position + (skipped + 1) = position + 1 + skipped by omega]
        · exact all.imp_left (congrArg (· + 1))
      · exact .inr ⟨e, by simp only [run], empty⟩
    | @ended after id_eq finished =>
      exact ⟨after, id_eq, .inl ⟨0, rfl, standsAt_of_finished finished stands.position_le,
        Nat.zero_le _, .inr finished⟩⟩
    | @torn e after _ id_eq empty => exact ⟨after, id_eq, .inr ⟨e, rfl, empty⟩⟩

end

/-! ### Opening -/

/-- What was read of a file that could be opened: a header, and a description. -/
theorem openAt_ok {path : String} {id : FileId} {now : Int64}
    (found : disk.openFile path = .ok id) (opened : openAt path now disk = .ok reader) :
    ∃ bytes view frame, ByteSource.readExact (InputView.mk { id } (disk.bytesOf id))
        CacheHeader.size = (.ok bytes, view) ∧
      readFrom view.file disk = (.frame frame, reader.file) ∧
      decoded Describe.decoder frame.payload = .ok reader.describe ∧ reader.finished = false := by
  have there : CacheWriter.openExisting path disk = .ok id := by
    rw [CacheWriter.openExisting, found]
  unfold openAt at opened
  rw [there] at opened
  simp only [bind, Except.bind, throw, throwThe, MonadExceptOf.throw, pure, Except.pure] at opened
  rcases e : ByteSource.readExact (InputView.mk { id } (disk.bytesOf id)) CacheHeader.size with
    ⟨e' | bytes, view⟩ <;> rw [e] at opened
  · simp at opened
  · simp only at opened
    split at opened
    · simp at opened
    · split at opened
      · simp at opened
      · split at opened
        · simp at opened
        · simp at opened
        · -- a frame is read behind the header
          next frame file read =>
          split at opened
          · simp at opened
          · split at opened
            · next describe read' =>
              obtain rfl := Except.ok.inj opened
              exact ⟨bytes, view, frame, rfl, read, read', rfl⟩
            · simp at opened

/-- **An opened file** is read from its first row on, also if it is torn behind
its description. -/
theorem standsAt_of_openAt {path : String} {id : FileId} {now : Int64} {header : CacheHeader}
    {describe : Describe} (legible : (RowEvent.describe describe).Legible)
    (found : disk.openFile path = .ok id)
    (front : disk.bytesOf id <+:
      CacheWriter.recorded header describe rows ++ CacheWriter.endFrame.encode)
    (opened : openAt path now disk = .ok reader) :
    reader.file.id = id ∧ reader.describe = describe ∧
      reader.StandsAt (disk.bytesOf id) rows 0 := by
  obtain ⟨bytes, view, frame, readHeader, readDescribe, told, unfinished⟩ :=
    openAt_ok found opened
  -- the header is whole
  obtain ⟨length, all⟩ := FaithfulSource.readExact_ok readHeader
  have same := InputView.sameFile_readExact ⟨{ id }, disk.bytesOf id⟩ CacheHeader.size
  rw [readHeader] at same
  obtain ⟨sameBytes, sameId⟩ := same
  have split : disk.bytesOf id = bytes ++ FaithfulSource.unread view := by
    rw [← all]
    rfl
  obtain ⟨behind, whole⟩ := front
  rw [split, CacheWriter.recorded] at whole
  simp only [List.append_assoc] at whole
  obtain ⟨-, whole⟩ := List.append_inj whole (length.trans header.length_encode.symm)
  -- and the description behind it
  have left : unread view.file (disk.bytesOf view.file.id) <+:
      describe.frame.encode ++ (encodeRows rows ++ CacheWriter.endFrame.encode) := by
    refine ⟨behind, ?_⟩
    rw [← whole, show view.file.id = id from sameId, ← show view.bytes = disk.bytesOf id from sameBytes]
    rfl
  obtain ⟨file, id_eq, ⟨read, ahead⟩ | ⟨-, ended | ⟨t, e, failed⟩⟩⟩ :=
    readFrom_of_prefix legible.fits left
  · obtain ⟨read_eq, file_eq⟩ := Prod.mk.inj (read.symm.trans readDescribe)
    obtain rfl := FrameRead.frame.inj read_eq
    obtain rfl := file_eq
    refine ⟨id_eq.trans sameId, Except.ok.inj (told.symm.trans legible.decoded_describe),
      Nat.zero_le _, .inr ?_⟩
    rw [show view.file.id = id from sameId] at ahead
    exact ahead
  · rw [ended] at readDescribe
    simp at readDescribe
  · rw [failed] at readDescribe
    simp at readDescribe

/-! ### Pages -/

section

variable {η : Type} {handler : Handler η} {take : η → RowEvent → η} (diskOf : η → Disk)

/-- A state whose disk has a file with these bytes, whatever it takes. -/
structure Leaves (take : η → RowEvent → η) (id : FileId) (bytes : Bytes) (leaves : η → Prop) :
    Prop where
  /-- The bytes are those of the file. -/
  bytesOf_eq : ∀ {state}, leaves state → (diskOf state).bytesOf id = bytes
  /-- Taking an event does not change them. -/
  keeps : ∀ {state}, leaves state → ∀ event, leaves (take state event)

variable {diskOf} {reader : CacheReader} {bytes : Bytes} {rows : List DataRow} {position : Nat}
  {leaves : η → Prop} {state : η}

theorem Leaves.foldl {id : FileId} (left : Leaves diskOf take id bytes leaves)
    (leave : leaves state) (events : List RowEvent) : leaves (events.foldl take state) := by
  induction events generalizing state with
  | nil => exact leave
  | cons event events ih => exact ih (left.keeps leave event)

/-- Rows are handed over one after the other, at most as many as asked for. -/
theorem StandsAt.sendRows (takes : handler.Takes take) (fit : ∀ row ∈ rows, row.frame.Fits)
    (limit : Nat) (stands : reader.StandsAt bytes rows position)
    (left : Leaves diskOf take reader.file.id bytes leaves) (leave : leaves state) :
    ∃ (after : CacheReader) (count : Nat), after.file.id = reader.file.id ∧
      ((CacheReader.sendRows handler diskOf limit reader state =
            .ok () (after, (((rows.drop position).take count).map RowEvent.row).foldl take state) ∧
          after.StandsAt bytes rows (position + count)) ∨
        reader.finished = false ∧ unread after.file bytes = [] ∧
          ∃ e, CacheReader.sendRows handler diskOf limit reader state =
            .error e
              (after, (((rows.drop position).take count).map RowEvent.row).foldl take state)) := by
  induction limit generalizing reader position state with
  | zero => exact ⟨reader, 0, rfl, .inl ⟨rfl, stands⟩⟩
  | succ limit ih =>
    rw [CacheReader.sendRows]
    have read := stands.nextRow fit (left.bytesOf_eq leave)
    generalize reader.nextRow (diskOf state) = outcome at read ⊢
    cases read with
    | @row row reader₁ more here id_eq stands₁ =>
      have inside : position < rows.length := (List.getElem?_eq_some_iff.mp here).1
      have drop : rows.drop position = row :: rows.drop (position + 1) := by
        rw [List.drop_eq_getElem_cons inside, (List.getElem?_eq_some_iff.mp here).2]
      -- the row is handed over; its receiver has not touched the file
      obtain ⟨after, count, id_eq', found⟩ :=
        ih stands₁ (id_eq ▸ left) (left.keeps leave (.row row))
      refine ⟨after, count + 1, id_eq'.trans id_eq, ?_⟩
      simp only [row.decoded_payload, takes (.row row) state]
      rw [drop, List.take_succ_cons, List.map_cons, List.foldl_cons]
      rcases found with ⟨run, stands'⟩ | ⟨-, empty, e, run⟩
      · refine .inl ⟨run, ?_⟩
        rwa [show position + (count + 1) = position + 1 + count by omega]
      · exact .inr ⟨more, empty, e, run⟩
    | @ended after id_eq finished =>
      exact ⟨after, 0, id_eq, .inl ⟨rfl, standsAt_of_finished finished stands.position_le⟩⟩
    | @torn e after more id_eq empty => exact ⟨after, 0, id_eq, .inr ⟨more, empty, e, rfl⟩⟩

/-- **A page of a file**: a batch is handed over, and the reader stands behind
it, or the file is torn, and rows are handed over without an end. -/
theorem StandsAt.fetch (takes : handler.Takes take) (fit : ∀ row ∈ rows, row.frame.Fits)
    (skip limit : Nat) (stands : reader.StandsAt bytes rows position)
    (left : Leaves diskOf take reader.file.id bytes leaves) (leave : leaves state) :
    ∃ after : CacheReader, after.file.id = reader.file.id ∧
      ((∃ batch : Batch, batch.skipped ≤ skip ∧
          after.StandsAt bytes rows (batch.next position) ∧
          reader.fetch handler diskOf skip limit state =
            .ok () (after, (batch.events rows position).foldl take state)) ∨
        unread after.file bytes = [] ∧
          ∃ e count, reader.fetch handler diskOf skip limit state =
            .error e (after,
              (((rows.drop (position + skip)).take count).map RowEvent.row).foldl take state)) := by
  rw [CacheReader.fetch]
  obtain ⟨reader₁, id_eq, ⟨skipped, skipping, stands₁, few, all⟩ | ⟨e, skipping, empty⟩⟩ :=
    stands.skipRows fit skip (left.bytesOf_eq leave)
  · obtain ⟨after, count, id_eq', found⟩ := stands₁.sendRows takes fit
      (reader₁.pageLimit limit (diskOf state)) (id_eq ▸ left) leave
    refine ⟨after, id_eq'.trans id_eq, ?_⟩
    rw [skipping]
    rcases found with ⟨sending, stands'⟩ | ⟨more, empty, e, sending⟩
    · -- the batch is made up of what was skipped and what was handed over
      refine .inl ⟨⟨skipped, count, after.finished⟩, few, stands', ?_⟩
      simp only [sending, takes (.batchEnd ⟨after.finished, UInt64.ofNat skipped⟩),
        Outcome.mapState, Batch.events, List.foldl_append]
      rfl
    · -- rows are handed over only behind all that were to be skipped
      obtain rfl := all.resolve_right (by rw [more]; exact Bool.false_ne_true)
      refine .inr ⟨empty, e, count, ?_⟩
      simp only [sending]
  · refine ⟨reader₁, id_eq, .inr ⟨empty, e, 0, ?_⟩⟩
    rw [skipping]
    rfl

end

/-! ### Files of any content -/

section

variable {η : Type} {handler : Handler η} {take : η → RowEvent → η}

/-- Whether or not the next row can be read, those in front of it were handed over. -/
theorem exists_rows_of_sendRows (takes : handler.Takes take) (diskOf : η → Disk) (count : Nat)
    (reader : CacheReader) (state : η) :
    ∃ rows : List DataRow, (sendRows handler diskOf count reader state).state.2 =
      (rows.map RowEvent.row).foldl take state := by
  induction count generalizing reader state with
  | zero => exact ⟨[], rfl⟩
  | succ count ih =>
    rw [sendRows]
    rcases reader.nextRow (diskOf state) with ⟨- | payload, after⟩ | ⟨e, after⟩
    · -- no row is left
      exact ⟨[], rfl⟩
    · simp only
      rcases decoded DataRow.decoder payload with e | row
      · -- the row does not decode
        exact ⟨[], rfl⟩
      · obtain ⟨rows, taken⟩ := ih after (take state (.row row))
        simp only [takes (.row row)]
        exact ⟨row :: rows, taken⟩
    · -- a frame is torn
      exact ⟨[], rfl⟩

/-- A page is some rows, and a batch end if it can be read to its end. -/
theorem fetch_cases (takes : handler.Takes take) (diskOf : η → Disk) (skip limit : Nat)
    (reader : CacheReader) (state : η) :
    (∃ rows : List DataRow, ∃ batch after, reader.fetch handler diskOf skip limit state =
      .ok () (after, (rows.map RowEvent.row ++ [RowEvent.batchEnd batch]).foldl take state)) ∨
    ∃ rows : List DataRow, ∃ e after, reader.fetch handler diskOf skip limit state =
      .error e (after, (rows.map RowEvent.row).foldl take state) := by
  rw [fetch]
  rcases skipRows (diskOf state) skip reader with ⟨skipped, reader'⟩ | ⟨e, reader'⟩
  · simp only
    obtain ⟨rows, sent⟩ := exists_rows_of_sendRows takes diskOf
      (reader'.pageLimit limit (diskOf state)) reader' state
    rcases sending : sendRows handler diskOf (reader'.pageLimit limit (diskOf state)) reader' state
      with ⟨⟨⟩, after, last⟩ | ⟨e, after, last⟩
    · -- the page is closed by its batch end
      rw [sending] at sent
      obtain rfl : last = (rows.map RowEvent.row).foldl take state := sent
      refine .inl ⟨rows, ⟨after.finished, UInt64.ofNat skipped⟩, after, ?_⟩
      simp only [takes (.batchEnd ⟨after.finished, UInt64.ofNat skipped⟩), List.foldl_append]
      rfl
    · -- it breaks off
      rw [sending] at sent
      obtain rfl : last = (rows.map RowEvent.row).foldl take state := sent
      exact .inr ⟨rows, e, after, rfl⟩
  · -- already the rows to be skipped cannot be read
    exact .inr ⟨[], e, reader', rfl⟩

end

end CacheReader

end ProxyClient
