/-
ProxyClient/Proofs/Cache/Whole.lean

Reading a recorded result set back from a file that is whole: behind its
last row there is nothing, or the end of a batch (`ClosesRows`).  A reader
stands before rows (`StandsBefore`), and what it hands over of them is a page:

    skip s   →  the rows behind the first s; it tells how many these were
    limit k  →  the first k of them, or all if k is zero
    the end  →  told as soon as fewer than k were left

This is what a server sends that stands before the same rows, so that a page
of a file is a documented batch (`Batch.documented_eq_page`).  A receiver
that fails stops the page where it fails (`Handler.run`).
-/
import ProxyClient.Proofs.Cache.Reading

namespace ProxyClient

/-! ### Handlers that may fail -/

namespace Handler

variable {η : Type} {handler : Handler η}

theorem run_append (front back : List RowEvent) (state : η) :
    handler.run (front ++ back) state =
      match handler.run front state with
      | .ok () state => handler.run back state
      | .error e state => .error e state := by
  induction front generalizing state with
  | nil => rfl
  | cons event front ih =>
    rw [List.cons_append]
    rcases taken : handler event state with ⟨⟨⟩, state'⟩ | ⟨e, state'⟩
    · rw [run_of_ok taken, run_of_ok taken, ih]
    · rw [run_of_error taken, run_of_error taken]

/-- A handler that takes every event takes them one after the other. -/
theorem Takes.run_eq {take : η → RowEvent → η} (takes : handler.Takes take)
    (events : List RowEvent) (state : η) :
    handler.run events state = .ok () (events.foldl take state) := by
  induction events generalizing state with
  | nil => rfl
  | cons event events ih =>
    rw [run_of_ok (takes event state)]
    exact ih (take state event)

/-- Whatever a handler takes, the bytes of a file stay what they are. -/
structure KeepsFile (handler : Handler η) (diskOf : η → Disk) (id : FileId) (bytes : Bytes)
    (keeps : η → Prop) : Prop where
  /-- The bytes are those of the file. -/
  bytesOf_eq : ∀ {state}, keeps state → (diskOf state).bytesOf id = bytes
  /-- Taking an event does not change them. -/
  step : ∀ {event state state'}, keeps state → handler event state = .ok () state' → keeps state'

/-- A handler that does not work on the disk changes no file. -/
theorem keepsFile_const (handler : Handler η) (disk : Disk) (id : FileId) :
    handler.KeepsFile (fun _ => disk) id (disk.bytesOf id) fun _ => True :=
  ⟨fun _ => rfl, fun _ _ => trivial⟩

end Handler

theorem CacheReader.Leaves.keepsFile {η : Type} {handler : Handler η} {take : η → RowEvent → η}
    {diskOf : η → Disk} {id : FileId} {bytes : Bytes} {leaves : η → Prop}
    (left : CacheReader.Leaves diskOf take id bytes leaves) (takes : handler.Takes take) :
    handler.KeepsFile diskOf id bytes leaves where
  bytesOf_eq := left.bytesOf_eq
  step := by
    intro event state state' leave taken
    rw [takes event state] at taken
    obtain ⟨-, rfl⟩ := EStateM.Result.ok.inj taken
    exact left.keeps leave event

/-! ### Pages -/

/-- The batch that is sent of the rows that are left, when `skip` of them are to
be skipped and `limit` sent, or all for zero. -/
def Batch.page (left skip limit : Nat) : Batch where
  skipped := min skip left
  count := if limit = 0 then left - skip else min limit (left - skip)
  ended := limit = 0 ∨ left - skip < limit

/-- **A server sends pages** of the rows that are left to it. -/
theorem Batch.documented_eq_page (total position : Nat) (skip : UInt64) (limit : UInt32) :
    Batch.documented total position skip limit =
      Batch.page (total - position) skip.toNat limit.toNat := by
  have zero : limit = 0 ↔ limit.toNat = 0 := UInt32.toNat_inj.symm
  have left : total - (position + min skip.toNat (total - position)) =
      total - position - skip.toNat := by omega
  simp only [documented, page, left, zero]
  congr 1
  by_cases all : limit.toNat = 0
  · simp only [all, true_or]
  · rw [if_neg all]
    refine decide_eq_decide.mpr (or_congr Iff.rfl ?_)
    omega

/-- The rows of a page. -/
theorem Batch.events_page (rows : List DataRow) (skip limit : Nat) :
    (Batch.page rows.length skip limit).events rows 0 =
      ((rows.drop skip).take (if limit = 0 then (rows.drop skip).length else limit)).map .row ++
        [.batchEnd ⟨limit = 0 ∨ (rows.drop skip).length < limit,
          UInt64.ofNat (min skip rows.length)⟩] := by
  -- more rows than there are cannot be skipped
  have skipped : rows.drop (0 + min skip rows.length) = rows.drop skip := by
    rcases Nat.le_total skip rows.length with inside | outside
    · rw [Nat.zero_add, Nat.min_eq_left inside]
    · rw [List.drop_eq_nil_of_le outside, List.drop_eq_nil_of_le (by omega)]
  -- nor more be sent than are left
  have sent : (rows.drop skip).take
        (if limit = 0 then rows.length - skip else min limit (rows.length - skip)) =
      (rows.drop skip).take (if limit = 0 then (rows.drop skip).length else limit) := by
    rw [List.length_drop]
    by_cases all : limit = 0
    · rw [if_pos all, if_pos all]
    · rw [if_neg all, if_neg all, ← List.length_drop, ← List.take_take, List.take_length]
  rw [events, page, ending]
  simp only [skipped, sent, List.length_drop]

/-- Behind a page stand the rows behind those that were skipped and sent. -/
theorem Batch.drop_next_page (rows : List DataRow) (skip limit : Nat) :
    rows.drop ((Batch.page rows.length skip limit).next 0) =
      (rows.drop skip).drop (if limit = 0 then (rows.drop skip).length else limit) := by
  rw [List.drop_drop, next, page]
  simp only [List.length_drop]
  by_cases all : limit = 0
  · rw [if_pos all, if_pos all, List.drop_eq_nil_of_le (by omega), List.drop_eq_nil_of_le (by omega)]
  · rw [if_neg all, if_neg all]
    rcases Nat.lt_or_ge (skip + limit) rows.length with inside | outside
    · congr 1
      omega
    · rw [List.drop_eq_nil_of_le (by omega), List.drop_eq_nil_of_le outside]

/-! ### Files that are whole -/

/-- As many bytes as are asked for are read where there are as many. -/
theorem FaithfulSource.readExact_of_append {σ : Type} [ByteSource σ] [FaithfulSource σ] {s : σ}
    {front rest : Bytes} (h : unread s = front ++ rest) :
    ∃ s', ByteSource.readExact s front.length = (.ok front, s') ∧ unread s' = rest := by
  rcases e : ByteSource.readExact s front.length with ⟨fault | bytes, s'⟩
  · obtain ⟨few, -⟩ := readExact_error e
    rw [h, List.length_append] at few
    omega
  · obtain ⟨length, all⟩ := readExact_ok e
    obtain ⟨rfl, rfl⟩ := List.append_inj (all.symm.trans h) length
    exact ⟨s', rfl, rfl⟩

/-- Reading a file does not fail. -/
theorem InputView.exists_readSome (view : InputView) (n : Nat) :
    ∃ bytes view', ByteSource.readSome view n = (.ok bytes, view') := by
  unfold ByteSource.readSome
  split
  · next bytes view' read => exact ⟨bytes, view', rfl⟩
  · next read =>
    simp only [ByteSource.read, InputView.read] at read
    split at read <;> simp at read
  · next read =>
    simp only [ByteSource.read, InputView.read] at read
    split at read <;> simp at read

/-- Behind the last byte there is the end of the file. -/
theorem InputView.readFrame_of_nil {view : InputView} (empty : FaithfulSource.unread view = []) :
    ∃ view', readFrame view = (.ended, view') := by
  obtain ⟨bytes, view', read⟩ := view.exists_readSome 1
  obtain ⟨front, -, -⟩ := FaithfulSource.readSome_ok read
  rw [empty] at front
  obtain rfl := (List.append_eq_nil_iff.mp front.symm).1
  exact ⟨view', by rw [readFrame, read]⟩

theorem length_le_encodeRows (rows : List DataRow) : rows.length ≤ (encodeRows rows).length := by
  induction rows with
  | nil => exact Nat.le_refl 0
  | cons row rows ih =>
    rw [encodeRows_cons, List.length_append, Frame.length_encode, List.length_cons]
    omega

/-- The file at a path is a recorded result set, and it is whole: behind its rows
there is an end frame, or nothing. -/
structure Disk.HasRecorded (disk : Disk) (path : String) (header : CacheHeader)
    (describe : Describe) (rows : List DataRow) : Prop where
  /-- The description can be read. -/
  legible : (RowEvent.describe describe).Legible
  /-- The rows fit into frames. -/
  fit : ∀ row ∈ rows, row.frame.Fits
  /-- What the file holds. -/
  bytes : ∃ ended : Bool, disk.bytesAt? path = some
    (CacheWriter.recorded header describe rows ++ if ended then CacheWriter.endFrame.encode else [])

/-- What may stand behind the last row: nothing, or the end of a batch and then
anything. -/
def ClosesRows (tail : Bytes) : Prop :=
  tail = [] ∨ ∃ (frame : Frame) (more : Bytes), frame.Fits ∧
    frame.type = ServerMessage.Kind.batchEnd.toByte ∧ tail = frame.encode ++ more

theorem closesRows_endFrame : ClosesRows CacheWriter.endFrame.encode :=
  .inr ⟨CacheWriter.endFrame, [], (RowEvent.legible_batchEnd ⟨true, 0⟩).fits, rfl,
    (List.append_nil _).symm⟩

/-- The file at a path is a recorded result set, and these are its rows. -/
structure Disk.HasRows (disk : Disk) (path : String) (header : CacheHeader)
    (describe : Describe) (rows : List DataRow) : Prop where
  /-- The description can be read. -/
  legible : (RowEvent.describe describe).Legible
  /-- The rows fit into frames. -/
  fit : ∀ row ∈ rows, row.frame.Fits
  /-- What the file holds. -/
  bytes : ∃ tail, ClosesRows tail ∧
    disk.bytesAt? path = some (CacheWriter.recorded header describe rows ++ tail)

theorem Disk.HasRecorded.hasRows {disk : Disk} {path : String} {header : CacheHeader}
    {describe : Describe} {rows : List DataRow}
    (whole : disk.HasRecorded path header describe rows) :
    disk.HasRows path header describe rows := by
  obtain ⟨legible, fit, ended, bytes⟩ := whole
  refine ⟨legible, fit, _, ?_, bytes⟩
  cases ended
  · exact .inl rfl
  · exact closesRows_endFrame

namespace CacheReader

/-! ### Standing before rows -/

/-- The reader stands before the last rows of a file. -/
inductive StandsBefore (reader : CacheReader) (bytes : Bytes) : List DataRow → Prop
  /-- The end was read. -/
  | finished : reader.finished = true → StandsBefore reader bytes []
  /-- There are the rows to read, and the end of a batch perhaps. -/
  | rows {rest : List DataRow} {tail : Bytes} :
      reader.finished = false → (∀ row ∈ rest, row.frame.Fits) → ClosesRows tail →
      unread reader.file bytes = encodeRows rest ++ tail → StandsBefore reader bytes rest

namespace StandsBefore

variable {reader : CacheReader} {disk : Disk} {bytes : Bytes} {row : DataRow}
  {rest : List DataRow}

theorem nextRow_cons (stands : reader.StandsBefore bytes (row :: rest))
    (same : disk.bytesOf reader.file.id = bytes) :
    ∃ after : CacheReader, reader.nextRow disk = .ok (some row.payload) after ∧
      after.file.id = reader.file.id ∧ after.StandsBefore bytes rest ∧
      reader.finished = false ∧ after.finished = false := by
  subst same
  cases stands with
  | rows more fit closed ahead =>
    rw [encodeRows_cons, List.append_assoc] at ahead
    -- the frame of the row is the one that is read
    obtain ⟨view, read, behind⟩ := FaithfulSource.readFrame_of_encode (fit row (by simp)) ahead
    obtain ⟨read', id_eq, left⟩ := readFrom_eq read
    refine ⟨{ reader with file := view.file }, ?_, id_eq, ?_, more, more⟩
    · rw [nextRow]
      rw [if_neg (by simp [more]), read']
      rfl
    · exact .rows more (fun r mem => fit r (List.mem_cons_of_mem row mem)) closed
        (left.trans behind)

theorem nextRow_nil (stands : reader.StandsBefore bytes [])
    (same : disk.bytesOf reader.file.id = bytes) :
    ∃ after : CacheReader, reader.nextRow disk = .ok none after ∧
      after.file.id = reader.file.id ∧ after.finished = true := by
  subst same
  cases stands with
  | finished finished =>
    refine ⟨reader, ?_, rfl, finished⟩
    rw [nextRow, if_pos finished]
  | rows more fit closed ahead =>
    rw [encodeRows_nil, List.nil_append] at ahead
    rcases closed with rfl | ⟨frame, more', fits, type, rfl⟩
    · -- the file ends behind the last row
      obtain ⟨view, read⟩ := InputView.readFrame_of_nil ahead
      obtain ⟨read', id_eq, -⟩ := readFrom_eq read
      refine ⟨{ reader with file := view.file, finished := true }, ?_, id_eq, rfl⟩
      rw [nextRow, if_neg (by simp [more]), read']
    · obtain ⟨view, read, -⟩ := FaithfulSource.readFrame_of_encode fits ahead
      obtain ⟨read', id_eq, -⟩ := readFrom_eq read
      refine ⟨{ reader with file := view.file, finished := true }, ?_, id_eq, rfl⟩
      rw [nextRow, if_neg (by simp [more]), read']
      simp only [type, ServerMessage.Kind.ofByte?_toByte]

/-- As many rows are skipped as there are to skip. -/
theorem skipRows (skip : Nat) (stands : reader.StandsBefore bytes rest)
    (same : disk.bytesOf reader.file.id = bytes) :
    ∃ after : CacheReader,
      CacheReader.skipRows disk skip reader = .ok (min skip rest.length) after ∧
      after.file.id = reader.file.id ∧ after.StandsBefore bytes (rest.drop skip) := by
  induction skip generalizing reader rest with
  | zero =>
    refine ⟨reader, ?_, rfl, stands⟩
    rw [Nat.zero_min]
    rfl
  | succ skip ih =>
    rw [CacheReader.skipRows]
    cases rest with
    | nil =>
      obtain ⟨after, read, id_eq, finished⟩ := stands.nextRow_nil same
      refine ⟨after, ?_, id_eq, .finished finished⟩
      rw [read]
      rfl
    | cons row rest =>
      obtain ⟨reader₁, read, id_eq, stands₁, -, -⟩ := stands.nextRow_cons same
      obtain ⟨after, skipping, id_eq', stands'⟩ := ih stands₁ (id_eq ▸ same)
      refine ⟨after, ?_, id_eq'.trans id_eq, stands'⟩
      simp only [read, skipping, List.length_cons, Nat.succ_min_succ]

/-- There are no more rows than bytes to be read. -/
theorem length_le_remaining (stands : reader.StandsBefore bytes rest) :
    rest.length ≤ InputView.remaining ⟨reader.file, bytes⟩ := by
  cases stands with
  | finished finished => exact Nat.zero_le _
  | @rows rest tail more fit closed ahead =>
    have remaining : InputView.remaining ⟨reader.file, bytes⟩ =
        (unread reader.file bytes).length := by
      rw [unread]
      exact List.length_append.symm
    rw [remaining, ahead, List.length_append]
    have long := length_le_encodeRows rest
    omega

theorem eq_nil_of_finished (stands : reader.StandsBefore bytes rest)
    (finished : reader.finished = true) : rest = [] := by
  cases stands with
  | finished => rfl
  | rows more =>
    rw [more] at finished
    contradiction

section

variable {η : Type} {handler : Handler η} {diskOf : η → Disk} {keeps : η → Prop} {state : η}

/-- Rows are handed over as far as the receiver takes them, at most as many as
asked for; the end is noticed if there are fewer. -/
theorem sendRows (limit : Nat) (stands : reader.StandsBefore bytes rest)
    (keeping : handler.KeepsFile diskOf reader.file.id bytes keeps) (kept : keeps state) :
    ∃ after : CacheReader, after.file.id = reader.file.id ∧
      CacheReader.sendRows handler diskOf limit reader state =
        (handler.run ((rest.take limit).map .row) state).mapState (after, ·) ∧
      ∀ state', handler.run ((rest.take limit).map .row) state = .ok () state' →
        keeps state' ∧ after.StandsBefore bytes (rest.drop limit) ∧
          after.finished = (reader.finished || decide (rest.length < limit)) := by
  induction limit generalizing reader rest state with
  | zero =>
    refine ⟨reader, rfl, rfl, ?_⟩
    intro state' ran
    obtain ⟨-, rfl⟩ := EStateM.Result.ok.inj ran
    exact ⟨kept, stands, by simp⟩
  | succ limit ih =>
    rw [CacheReader.sendRows]
    cases rest with
    | nil =>
      -- the rows end before the limit is reached
      obtain ⟨after, read, id_eq, finished⟩ := stands.nextRow_nil (keeping.bytesOf_eq kept)
      refine ⟨after, id_eq, ?_, ?_⟩
      · rw [read]
        rfl
      · intro state' ran
        obtain ⟨-, rfl⟩ := EStateM.Result.ok.inj ran
        exact ⟨kept, .finished finished, by simp [finished]⟩
    | cons row rest =>
      obtain ⟨reader₁, read, id_eq, stands₁, more, more₁⟩ :=
        stands.nextRow_cons (keeping.bytesOf_eq kept)
      rw [read, List.take_succ_cons, List.map_cons, Handler.run]
      simp only [row.decoded_payload]
      rcases taken : handler (.row row) state with ⟨⟨⟩, state₁⟩ | ⟨e, state₁⟩
      · -- the handler takes the row
        obtain ⟨after, id_eq', sending, behind⟩ :=
          ih stands₁ (id_eq ▸ keeping) (keeping.step kept taken)
        refine ⟨after, id_eq'.trans id_eq, sending, ?_⟩
        intro state' ran
        obtain ⟨kept', stands', finished⟩ := behind state' ran
        refine ⟨kept', stands', ?_⟩
        rw [finished, more, more₁, List.length_cons]
        simp only [Nat.succ_lt_succ_iff]
      · -- it refuses it
        refine ⟨reader₁, id_eq, rfl, ?_⟩
        intro state' ran
        contradiction

/-- **A page of a whole file** is handed over as a server would send it. -/
theorem fetch (skip limit : Nat) (stands : reader.StandsBefore bytes rest)
    (keeping : handler.KeepsFile diskOf reader.file.id bytes keeps) (kept : keeps state) :
    ∃ after : CacheReader, after.file.id = reader.file.id ∧
      reader.fetch handler diskOf skip limit state =
        (handler.run ((Batch.page rest.length skip limit).events rest 0) state).mapState
          (after, ·) ∧
      ∀ state', handler.run ((Batch.page rest.length skip limit).events rest 0) state =
          .ok () state' →
        after.StandsBefore bytes (rest.drop ((Batch.page rest.length skip limit).next 0)) := by
  obtain ⟨reader₁, skipping, id_eq, stands₁⟩ := stands.skipRows skip (keeping.bytesOf_eq kept)
  generalize sent : reader₁.pageLimit limit (diskOf state) = most
  obtain ⟨after, id_eq', sending, behind⟩ :=
    stands₁.sendRows most (id_eq ▸ keeping) kept
  -- no number of rows is asked for by one that is too large
  obtain ⟨rows_eq, rest_eq, ended⟩ :
      (rest.drop skip).take most =
          (rest.drop skip).take (if limit = 0 then (rest.drop skip).length else limit) ∧
        (rest.drop skip).drop most =
          (rest.drop skip).drop (if limit = 0 then (rest.drop skip).length else limit) ∧
        (reader₁.finished || decide ((rest.drop skip).length < most)) =
          decide (limit = 0 ∨ (rest.drop skip).length < limit) := by
    have fewer := stands₁.length_le_remaining
    rw [pageLimit, id_eq, keeping.bytesOf_eq kept] at sent
    by_cases all : limit = 0
    · rw [if_pos all] at sent ⊢
      refine ⟨?_, ?_, ?_⟩
      · rw [List.take_length, List.take_of_length_le (by omega)]
      · rw [List.drop_length, List.drop_eq_nil_of_le (by omega)]
      · have less : (rest.drop skip).length < most := by omega
        simp only [less, all, true_or, decide_true, Bool.or_true]
    · rw [if_neg all] at sent ⊢
      subst sent
      refine ⟨rfl, rfl, ?_⟩
      rcases finished : reader₁.finished with - | -
      · simp only [all, Bool.false_or, false_or]
      · rw [stands₁.eq_nil_of_finished finished]
        simp [Nat.pos_of_ne_zero all]
  rw [rows_eq] at sending behind
  rw [Batch.events_page, Batch.drop_next_page, CacheReader.fetch, skipping]
  simp only [sent, sending, Handler.run_append]
  refine ⟨after, id_eq'.trans id_eq, ?_, ?_⟩
  · rcases ran : handler.run _ state with ⟨⟨⟩, state'⟩ | ⟨e, state'⟩
    · obtain ⟨-, -, finished⟩ := behind state' ran
      simp only [Outcome.mapState, Handler.run, finished, ended]
      rcases handler (.batchEnd _) state' with ⟨⟨⟩, state''⟩ | ⟨e, state''⟩
      · rfl
      · rfl
    · rfl
  · intro state' ran
    rcases rows_ran : handler.run _ state with ⟨⟨⟩, state₁⟩ | ⟨e, state₁⟩ <;> rw [rows_ran] at ran
    · obtain ⟨-, stands', -⟩ := behind state₁ rows_ran
      rw [← rest_eq]
      exact stands'
    · contradiction

end

end StandsBefore

end CacheReader

/-! ### Opening -/

/-- **A file that begins with a header that is not expired and a description can
be opened**, and what follows is left to read. -/
theorem CacheReader.openAt_of_headed {disk : Disk} {path : String} {id : FileId}
    {header : CacheHeader} {describe : Describe} {behind : Bytes} {now : Int64}
    (found : disk.openFile path = .ok id) (legible : (RowEvent.describe describe).Legible)
    (live : header.isExpired now = false)
    (bytes : disk.bytesOf id = header.encode ++ (describe.frame.encode ++ behind)) :
    ∃ reader : CacheReader, CacheReader.openAt path now disk = .ok reader ∧
      reader.file.id = id ∧ reader.describe = describe ∧ reader.finished = false ∧
      unread reader.file (disk.bytesOf id) = behind := by
  -- the header
  obtain ⟨view, readHeader, rest⟩ :=
    FaithfulSource.readExact_of_append (s := InputView.mk { id } (disk.bytesOf id)) bytes
  have parsed := header.parse?_encode []
  rw [List.append_nil] at parsed
  rw [header.length_encode] at readHeader
  obtain ⟨sameBytes, sameId⟩ :=
    InputView.sameFile_readExact (InputView.mk { id } (disk.bytesOf id)) CacheHeader.size
  rw [readHeader] at sameBytes sameId
  have view_eq : view = ⟨view.file, disk.bytesOf view.file.id⟩ := by
    rw [show view.file.id = id from sameId, ← show view.bytes = disk.bytesOf id from sameBytes]
  -- the description
  rw [view_eq] at rest
  obtain ⟨view', readDescribe, rest'⟩ := FaithfulSource.readFrame_of_encode legible.fits rest
  obtain ⟨read, id_eq, left⟩ := readFrom_eq readDescribe
  rw [show view.file.id = id from sameId] at id_eq left
  refine ⟨{ path, file := view'.file, describe }, ?_, id_eq, rfl, rfl, left.trans rest'⟩
  have there : CacheWriter.openExisting path disk = .ok id := by
    rw [CacheWriter.openExisting, found]
  rw [CacheReader.openAt, there]
  simp only [bind, Except.bind, pure, Except.pure, readHeader, parsed, live, read]
  rw [if_neg (by simp)]
  simp only [RowEvent.frame, Describe.frame, ne_eq, not_true_eq_false, if_false]
  rw [legible.decoded_describe]

/-- **A recorded result set that is not expired can be opened**, and is read from
its first row on. -/
theorem Disk.HasRows.openAt {disk : Disk} {path : String} {header : CacheHeader}
    {describe : Describe} {rows : List DataRow} {now : Int64}
    (has : disk.HasRows path header describe rows) (live : header.isExpired now = false) :
    ∃ reader : CacheReader, CacheReader.openAt path now disk = .ok reader ∧
      disk.openFile path = .ok reader.file.id ∧ reader.describe = describe ∧
      reader.StandsBefore (disk.bytesOf reader.file.id) rows := by
  obtain ⟨legible, fit, tail, closed, bytes⟩ := has
  obtain ⟨id, found, bytes⟩ := Disk.openFile_of_bytesAt? bytes
  rw [CacheWriter.recorded_layout] at bytes
  obtain ⟨reader, opened, rfl, described, unfinished, left⟩ :=
    CacheReader.openAt_of_headed found legible live bytes
  exact ⟨reader, opened, found, described, .rows unfinished fit closed left⟩

end ProxyClient
