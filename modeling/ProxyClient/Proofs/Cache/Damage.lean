/-
ProxyClient/Proofs/Cache/Damage.lean

Recorded result sets that are damaged behind their description and in front
of their first batch end: some rows, and then bytes that are not the next
frame of a result set (`Damage`).

    torn     the beginning of a frame, and the end of the file
    short    the header of a frame that is shorter than its own length
    foreign  a frame that is neither a row nor the end of a batch

As long as a reader has the damage ahead (`IsAhead`), pages are handed over
without a word about the end, and the reader knows of none.  A fetch that
comes to the damage fails; but the reader has read over it then and does not
remember it.  What stands behind the damage is read as if nothing had been
in front, and behind a torn frame that is the end of the file: the next
fetch tells that the result set is complete (`CacheReader.forgets_damage`).
-/
import ProxyClient.Proofs.Cache.Transcript
import ProxyClient.Proofs.Cache.Whole
import ProxyClient.Proofs.Exchange.Journal
import ProxyClient.Proofs.Wire.Framing

namespace ProxyClient

/-! ### Damage -/

/-- Bytes in a file that are not the next frame of a result set, and those that a
reader finds behind them. -/
inductive Damage : Bytes → Bytes → Prop
  /-- The file ends within a frame. -/
  | torn {bytes : Bytes} : bytes ≠ [] → Frame.Torn bytes → Damage bytes []
  /-- A length does not cover itself. -/
  | short {type : UInt8} {length rest : Bytes} :
      length.length = 4 → Bytes.ofBigEndian length < 4 → Damage (type :: length) rest
  /-- A frame has another type than a row and the end of a batch. -/
  | foreign {frame : Frame} {rest : Bytes} :
      frame.Fits → frame.type ≠ ServerMessage.Kind.dataRow.toByte →
      frame.type ≠ ServerMessage.Kind.batchEnd.toByte → Damage frame.encode rest

/-! ### Reading a damaged frame -/

/-- Files do not fail to be read. -/
theorem InputView.unfailing : ByteSource.Unfailing InputView := by
  intro view n error view' h
  simp only [ByteSource.read, InputView.read] at h
  split at h <;> simp at h

/-- Where no read fails, a frame that cannot be read means a damaged file. -/
theorem corruptIfTorn_of_failed {σ : Type} [ByteSource σ] (unfailing : ByteSource.Unfailing σ)
    {s s' : σ} {type : Option UInt8} {e : Error} (h : readFrame s = (.failed type e, s')) :
    CacheReader.corruptIfTorn e = .cache .corrupt := by
  unfold readFrame at h
  split at h
  · -- such a source does not fail
    next error s₁ e₁ => exact absurd e₁ (ByteSource.readSome_ne_error unfailing s 1 error s₁)
  · simp at h
  · next first more s₁ e₁ =>
    split at h
    · next error s₂ e₂ =>
      -- within the length
      obtain rfl := ByteSource.eq_unexpectedEnd_of_readExact unfailing e₂
      obtain ⟨-, rfl⟩ := FrameRead.failed.inj (Prod.mk.inj h).1
      rfl
    · next length s₂ e₂ =>
      split at h
      · -- a length that is too short
        obtain ⟨-, rfl⟩ := FrameRead.failed.inj (Prod.mk.inj h).1
        rfl
      · next count _ =>
        split at h
        · next error s₃ e₃ =>
          -- within the payload
          obtain rfl := ByteSource.eq_unexpectedEnd_of_readExact unfailing e₃
          obtain ⟨-, rfl⟩ := FrameRead.failed.inj (Prod.mk.inj h).1
          rfl
        · simp at h

/-- The header of a frame that is shorter than its own length is read and no more. -/
theorem readFrame_of_short {σ : Type} [ByteSource σ] [FaithfulSource σ]
    (unfailing : ByteSource.Unfailing σ) {s : σ} {type : UInt8} {length rest : Bytes}
    (four : length.length = 4) (short : Bytes.ofBigEndian length < 4)
    (h : FaithfulSource.unread s = type :: length ++ rest) :
    ∃ s', readFrame s =
        (.failed none (.wire (.frameLength (Bytes.ofBigEndian length))), s') ∧
      FaithfulSource.unread s' = rest := by
  obtain ⟨s₁, e₁, behind₁⟩ := FaithfulSource.readSome_one unfailing h
  obtain ⟨s₂, e₂, behind₂⟩ := FaithfulSource.readExact_of_append behind₁
  rw [four] at e₂
  have fault : Frame.payloadLength length = .error (.frameLength (Bytes.ofBigEndian length)) := by
    rw [Frame.payloadLength]
    rw [if_pos short]
  refine ⟨s₂, ?_, behind₂⟩
  rw [readFrame, e₁]
  simp only [e₂, fault]

namespace CacheReader

/-- The damage is ahead, behind some rows. -/
structure IsAhead (reader : CacheReader) (bytes : Bytes) (rows : List Bytes)
    (damage rest : Bytes) : Prop where
  /-- The reader knows of no end. -/
  unfinished : reader.finished = false
  /-- The rows fit into frames. -/
  fit : ∀ payload ∈ rows, (Frame.ofRow payload).Fits
  /-- The file is damaged behind them. -/
  damaged : Damage damage rest
  /-- What is to be read. -/
  unread_eq : unread reader.file bytes =
    rows.flatMap (fun payload => (Frame.ofRow payload).encode) ++ (damage ++ rest)

/-- The reader has read over the damage and knows of no end. -/
structure IsBehind (reader : CacheReader) (bytes rest : Bytes) : Prop where
  /-- The reader knows of no end. -/
  unfinished : reader.finished = false
  /-- What is to be read. -/
  unread_eq : unread reader.file bytes = rest

variable {reader : CacheReader} {disk : Disk} {bytes : Bytes} {rows : List Bytes}
  {payload damage rest : Bytes}

/-- A frame that cannot be read means a damaged file. -/
theorem nextRow_of_failed {file : InputFile} {type : Option UInt8} {e : Error}
    (unfinished : reader.finished = false) (read : readFrom reader.file disk = (.failed type e, file))
    (corrupt : corruptIfTorn e = .cache .corrupt) :
    reader.nextRow disk = .error (.cache .corrupt) { reader with file } := by
  rw [nextRow, if_neg (by simp [unfinished]), read]
  simp only [corrupt]

namespace IsAhead

theorem nextRow_cons (ahead : reader.IsAhead bytes (payload :: rows) damage rest)
    (same : disk.bytesOf reader.file.id = bytes) :
    ∃ after : CacheReader, reader.nextRow disk = .ok (some payload) after ∧
      after.file.id = reader.file.id ∧ after.IsAhead bytes rows damage rest := by
  subst same
  have front := ahead.unread_eq
  rw [List.flatMap_cons, List.append_assoc] at front
  obtain ⟨view, read, behind⟩ :=
    FaithfulSource.readFrame_of_encode (ahead.fit payload List.mem_cons_self) front
  obtain ⟨read', id_eq, left⟩ := readFrom_eq read
  refine ⟨{ reader with file := view.file }, ?_, id_eq, ahead.unfinished,
    fun other mem => ahead.fit other (List.mem_cons_of_mem payload mem), ahead.damaged,
    left.trans behind⟩
  rw [nextRow, if_neg (by simp [ahead.unfinished]), read']
  rfl

/-- Behind the last row the reader fails, and is then behind the damage. -/
theorem nextRow_nil (ahead : reader.IsAhead bytes [] damage rest)
    (same : disk.bytesOf reader.file.id = bytes) :
    ∃ after : CacheReader, reader.nextRow disk = .error (.cache .corrupt) after ∧
      after.file.id = reader.file.id ∧ after.IsBehind bytes rest := by
  subst same
  have front := ahead.unread_eq
  rw [List.flatMap_nil, List.nil_append] at front
  cases ahead.damaged with
  | torn nonempty torn =>
    rw [List.append_nil] at front
    -- what is left of a frame is used up by the attempt to read it
    have torn' : Frame.Torn (unread reader.file (disk.bytesOf reader.file.id)) := front ▸ torn
    obtain ⟨view, empty, ended | ⟨type, e, failed, -⟩⟩ := FaithfulSource.readFrame_of_torn torn'
    · exact absurd (front.symm.trans (FaithfulSource.unread_of_readFrame_ended ended).1) nonempty
    · obtain ⟨read, id_eq, left⟩ := readFrom_eq failed
      exact ⟨_, nextRow_of_failed ahead.unfinished read
        (corruptIfTorn_of_failed InputView.unfailing failed), id_eq, ahead.unfinished,
        left.trans empty⟩
  | short four short =>
    -- only the four bytes of the length are used up
    obtain ⟨view, failed, behind⟩ := readFrame_of_short InputView.unfailing four short front
    obtain ⟨read, id_eq, left⟩ := readFrom_eq failed
    exact ⟨_, nextRow_of_failed ahead.unfinished read rfl, id_eq, ahead.unfinished,
      left.trans behind⟩
  | @foreign frame rest fits noRow noEnd =>
    -- a whole frame that is neither a row nor the end
    obtain ⟨view, found, behind⟩ := FaithfulSource.readFrame_of_encode fits front
    obtain ⟨read, id_eq, left⟩ := readFrom_eq found
    refine ⟨{ reader with file := view.file }, ?_, id_eq, ahead.unfinished, left.trans behind⟩
    rw [nextRow, if_neg (by simp [ahead.unfinished]), read]
    rcases known : ServerMessage.Kind.ofByte? frame.type with - | kind
    · simp only [known]
    · have type := ServerMessage.Kind.toByte_of_ofByte? known
      cases kind with
      | dataRow => exact absurd type.symm noRow
      | batchEnd => exact absurd type.symm noEnd
      | _ => simp only [known]

/-- Rows are skipped as asked, unless the damage comes before. -/
theorem skipRows (skip : Nat) (ahead : reader.IsAhead bytes rows damage rest)
    (same : disk.bytesOf reader.file.id = bytes) :
    ∃ after : CacheReader, after.file.id = reader.file.id ∧
      ((CacheReader.skipRows disk skip reader = .ok skip after ∧
          after.IsAhead bytes (rows.drop skip) damage rest) ∨
        CacheReader.skipRows disk skip reader = .error (.cache .corrupt) after ∧
          after.IsBehind bytes rest) := by
  induction skip generalizing reader rows with
  | zero => exact ⟨reader, rfl, .inl ⟨rfl, ahead⟩⟩
  | succ skip ih =>
    rw [CacheReader.skipRows]
    cases rows with
    | nil =>
      -- the damage is met
      obtain ⟨after, read, id_eq, behind⟩ := ahead.nextRow_nil same
      exact ⟨after, id_eq, .inr ⟨by rw [read], behind⟩⟩
    | cons payload rows =>
      -- one row is skipped
      obtain ⟨reader₁, read, id_eq, ahead₁⟩ := ahead.nextRow_cons same
      obtain ⟨after, id_eq', ⟨skipping, ahead'⟩ | ⟨failing, behind⟩⟩ := ih ahead₁ (id_eq ▸ same)
      · exact ⟨after, id_eq'.trans id_eq, .inl ⟨by simp only [read, skipping], ahead'⟩⟩
      · exact ⟨after, id_eq'.trans id_eq, .inr ⟨by simp only [read, failing], behind⟩⟩

end IsAhead

end CacheReader

/-! ### Pages -/

section

variable {η : Type}

/-- Whatever a handler is told, but that the result set ends there, a property of
its state stays, with which the file has these bytes; also when it fails. -/
structure Handler.Bears (handler : Handler η) (diskOf : η → Disk) (id : FileId) (bytes : Bytes)
    (keeps : η → Prop) : Prop where
  /-- The bytes are those of the file. -/
  bytesOf_eq : ∀ {state}, keeps state → (diskOf state).bytesOf id = bytes
  /-- The property stays. -/
  step : ∀ {event state}, event.isEnd = false → keeps state → keeps (handler event state).state

namespace CacheReader

variable {handler : Handler η} {diskOf : η → Disk} {keeps : η → Prop} {state : η}
  {reader : CacheReader} {bytes : Bytes} {rows : List Bytes} {damage rest : Bytes}

/-- What reading comes to for a reader that has the damage ahead: it still has it
ahead, or it has failed and the damage is behind. -/
inductive Meets (id : FileId) (bytes damage rest : Bytes) (keeps : η → Prop) :
    Outcome Unit (CacheReader × η) → Prop
  /-- The damage is still ahead.  The handler may have failed, or a row may be none. -/
  | ahead {outcome : Outcome Unit (CacheReader × η)} {rows : List Bytes} :
      outcome.state.1.file.id = id → outcome.state.1.IsAhead bytes rows damage rest →
      keeps outcome.state.2 → Meets id bytes damage rest keeps outcome
  /-- The damage is behind. -/
  | behind {after : CacheReader} {state : η} :
      after.file.id = id → after.IsBehind bytes rest → keeps state →
      Meets id bytes damage rest keeps (.error (.cache .corrupt) (after, state))

/-- Rows are handed over up to the damage. -/
theorem IsAhead.sendRows (limit : Nat) (ahead : reader.IsAhead bytes rows damage rest)
    (bears : handler.Bears diskOf reader.file.id bytes keeps) (kept : keeps state) :
    Meets reader.file.id bytes damage rest keeps
      (CacheReader.sendRows handler diskOf limit reader state) := by
  induction limit generalizing reader rows state with
  | zero => exact .ahead rfl ahead kept
  | succ limit ih =>
    rw [CacheReader.sendRows]
    cases rows with
    | nil =>
      obtain ⟨after, read, id_eq, behind⟩ := ahead.nextRow_nil (bears.bytesOf_eq kept)
      -- the damage is met
      rw [read]
      exact .behind id_eq behind kept
    | cons payload rows =>
      obtain ⟨reader₁, read, id_eq, ahead₁⟩ := ahead.nextRow_cons (bears.bytesOf_eq kept)
      simp only [read]
      rcases decoded DataRow.decoder payload with fault | row
      · -- a row that does not decode
        exact .ahead id_eq ahead₁ kept
      · have kept₁ : keeps (handler (.row row) state).state := bears.step rfl kept
        simp only
        generalize handler (.row row) state = taken at kept₁
        rcases taken with ⟨⟨⟩, state₁⟩ | ⟨e, state₁⟩
        · -- the handler takes the row
          rw [← id_eq]
          exact ih ahead₁ (id_eq ▸ bears) kept₁
        · -- it refuses it
          exact .ahead id_eq ahead₁ kept₁

/-- A page ends in front of the damage without a word about the end. -/
theorem IsAhead.fetch (skip limit : Nat) (ahead : reader.IsAhead bytes rows damage rest)
    (bears : handler.Bears diskOf reader.file.id bytes keeps) (kept : keeps state) :
    Meets reader.file.id bytes damage rest keeps
      (reader.fetch handler diskOf skip limit state) := by
  rw [CacheReader.fetch]
  obtain ⟨reader₁, id_eq, ⟨skipping, ahead₁⟩ | ⟨failing, behind⟩⟩ :=
    ahead.skipRows skip (bears.bytesOf_eq kept)
  · -- all rows to be skipped are there
    have sending := ahead₁.sendRows (reader₁.pageLimit limit (diskOf state)) (id_eq ▸ bears) kept
    rw [id_eq] at sending
    simp only [skipping]
    generalize CacheReader.sendRows handler diskOf _ reader₁ state = sent at sending ⊢
    cases sending with
    | @ahead _ left id_eq' ahead' kept' =>
      rcases sent with ⟨⟨⟩, after, state'⟩ | ⟨e, after, state'⟩
      · -- the batch end does not say that this is the end
        have told : RowEvent.isEnd (.batchEnd ⟨after.finished, UInt64.ofNat skip⟩) = false :=
          ahead'.unfinished
        have kept'' : keeps (handler (.batchEnd ⟨after.finished, UInt64.ofNat skip⟩) state').state :=
          bears.step told kept'
        simp only
        generalize handler (.batchEnd _) state' = taken at kept''
        rcases taken with ⟨⟨⟩, state''⟩ | ⟨e, state''⟩
        · exact .ahead id_eq' ahead' kept''
        · exact .ahead id_eq' ahead' kept''
      · exact .ahead id_eq' ahead' kept'
    | behind id_eq' behind kept' => exact .behind id_eq' behind kept'
  · -- the damage is met before
    rw [failing]
    exact .behind id_eq behind kept

/-- Behind a torn frame the next page is the end of the result set. -/
theorem IsBehind.fetch_nil (handler : Handler η) (diskOf : η → Disk) (state : η)
    (skip limit : Nat) (behind : reader.IsBehind bytes [])
    (same : (diskOf state).bytesOf reader.file.id = bytes) :
    ∃ after : CacheReader, after.finished = true ∧
      reader.fetch handler diskOf skip limit state =
        (handler (.batchEnd ⟨true, 0⟩) state).mapState (after, ·) := by
  -- a reader at the end of the file cannot tell that a frame was torn
  have stands : reader.StandsBefore bytes [] :=
    .rows behind.unfinished (fun _ none => absurd none List.not_mem_nil) (.inl rfl)
      behind.unread_eq
  obtain ⟨reader₁, skipping, id_eq, stands₁⟩ := stands.skipRows skip same
  rw [List.drop_nil] at stands₁
  obtain ⟨most, some⟩ : ∃ most, reader₁.pageLimit limit (diskOf state) = most + 1 := by
    refine Nat.exists_eq_succ_of_ne_zero ?_
    rw [pageLimit]
    split
    · exact Nat.succ_ne_zero _
    · next nonzero => exact nonzero
  obtain ⟨after, read, -, finished⟩ := stands₁.nextRow_nil (id_eq ▸ same)
  refine ⟨after, finished, ?_⟩
  rw [CacheReader.fetch, skipping]
  simp only [some, CacheReader.sendRows, read, finished, List.length_nil, Nat.min_zero]
  rfl

end CacheReader

/-! ### Fetches one after another -/

/-- A fetch. -/
structure FetchCall (η : Type) where
  /-- The rows to skip. -/
  skip : Nat
  /-- The most rows to hand over; zero for all. -/
  limit : Nat
  /-- Who takes them, and may fail. -/
  handler : Handler η

namespace FetchCall

/-- Carries the fetch out, with a journal of what the handler is told. -/
def perform (diskOf : η → Disk) (call : FetchCall η) (s : CacheReader × List RowEvent × η) :
    Outcome Unit (CacheReader × List RowEvent × η) :=
  s.1.fetch (Handler.journal.tee call.handler) (fun told => diskOf told.2) call.skip call.limit s.2

/-- Carries fetches out, also after some that fail. -/
def performAll (diskOf : η → Disk) (calls : List (FetchCall η))
    (s : CacheReader × List RowEvent × η) : CacheReader × List RowEvent × η :=
  calls.foldl (fun s call => (call.perform diskOf s).state) s

/-- So far nobody knows of an end of the result set. -/
structure Unended (s : CacheReader × List RowEvent × η) : Prop where
  /-- The reader does not. -/
  unfinished : s.1.finished = false
  /-- No handler was told. -/
  untold : ∀ event ∈ s.2.1, event.isEnd = false

end FetchCall

variable {diskOf : η → Disk} {keeps : η → Prop} {id : FileId} {bytes damage rest : Bytes}

/-- A journal beside a handler keeps what the handler is told. -/
theorem Handler.Bears.journal {handler : Handler η} (bears : handler.Bears diskOf id bytes keeps) :
    (Handler.journal.tee handler).Bears (fun told => diskOf told.2) id bytes fun told =>
      (∀ event ∈ told.1, event.isEnd = false) ∧ keeps told.2 where
  bytesOf_eq := fun kept => bears.bytesOf_eq kept.2
  step := by
    rintro event ⟨log, state⟩ noEnd ⟨untold, kept⟩
    have told : ((Handler.journal.tee handler) event (log, state)).state =
        (log ++ [event], (handler event state).state) := Outcome.state_mapState ..
    rw [told]
    refine ⟨fun other mem => ?_, bears.step noEnd kept⟩
    rcases List.mem_append.mp mem with earlier | last
    · exact untold other earlier
    · exact List.mem_singleton.mp last ▸ noEnd

namespace CacheReader

variable {reader : CacheReader} {rows : List Bytes}

/-- What is left to read of a file that could be opened. -/
theorem unread_of_openAt {path : String} {now : Int64} {disk : Disk} {header behind : Bytes}
    {describe : Frame} (found : disk.openFile path = .ok id)
    (opened : openAt path now disk = .ok reader) (size : header.length = CacheHeader.size)
    (described : describe.Fits) (holds : disk.bytesOf id = header ++ (describe.encode ++ behind)) :
    reader.file.id = id ∧ reader.finished = false ∧
      unread reader.file (disk.bytesOf id) = behind := by
  obtain ⟨front, view, frame, readHeader, readDescribe, -, unfinished⟩ := openAt_ok found opened
  obtain ⟨length, all⟩ := FaithfulSource.readExact_ok readHeader
  obtain ⟨sameBytes, sameId⟩ :=
    InputView.sameFile_readExact ⟨{ id }, disk.bytesOf id⟩ CacheHeader.size
  rw [readHeader] at sameBytes sameId
  have split : disk.bytesOf id = front ++ FaithfulSource.unread view := by
    rw [← all]
    rfl
  obtain ⟨-, left⟩ := List.append_inj (split.symm.trans holds) (length.trans size.symm)
  -- the description follows the header, and then what is left
  have view_eq : view = ⟨view.file, disk.bytesOf view.file.id⟩ := by
    rw [show view.file.id = id from sameId, ← show view.bytes = disk.bytesOf id from sameBytes]
  rw [view_eq] at left
  obtain ⟨view', read, behind'⟩ := FaithfulSource.readFrame_of_encode described left
  obtain ⟨read', id_eq, unread_eq⟩ := readFrom_eq read
  obtain ⟨-, file_eq⟩ := Prod.mk.inj (read'.symm.trans readDescribe)
  rw [file_eq, show view.file.id = id from sameId] at id_eq unread_eq
  exact ⟨id_eq, unfinished, unread_eq.trans behind'⟩

/-- A fetch with a journal. -/
theorem IsAhead.perform {call : FetchCall η} {s : CacheReader × List RowEvent × η}
    (ahead : s.1.IsAhead bytes rows damage rest) (same : s.1.file.id = id)
    (bears : call.handler.Bears diskOf id bytes keeps)
    (kept : (∀ event ∈ s.2.1, event.isEnd = false) ∧ keeps s.2.2) :
    Meets id bytes damage rest
      (fun told => (∀ event ∈ told.1, event.isEnd = false) ∧ keeps told.2)
      (call.perform diskOf s) := by
  subst same
  exact ahead.fetch call.skip call.limit bears.journal kept

/-- Fetches up to the one that comes to the damage. -/
theorem IsAhead.performAll (calls : List (FetchCall η)) {s : CacheReader × List RowEvent × η}
    (ahead : s.1.IsAhead bytes rows damage rest) (same : s.1.file.id = id)
    (bears : ∀ call ∈ calls, call.handler.Bears diskOf id bytes keeps)
    (kept : (∀ event ∈ s.2.1, event.isEnd = false) ∧ keeps s.2.2) :
    FetchCall.Unended (FetchCall.performAll diskOf calls s) ∨
      ∃ early call late after, calls = early ++ call :: late ∧
        call.perform diskOf (FetchCall.performAll diskOf early s) = .error (.cache .corrupt) after ∧
        FetchCall.Unended after ∧ after.1.file.id = id ∧ after.1.IsBehind bytes rest ∧
        keeps after.2.2 := by
  induction calls generalizing s rows with
  | nil => exact .inl ⟨ahead.unfinished, kept.1⟩
  | cons call calls ih =>
    have met := ahead.perform same (bears call List.mem_cons_self) kept
    have later := fun other mem => bears other (List.mem_cons_of_mem call mem)
    generalize performed : call.perform diskOf s = outcome at met
    cases met with
    | ahead id_eq ahead' kept' =>
      -- the damage is still ahead
      have next : ∀ calls, FetchCall.performAll diskOf (call :: calls) s =
          FetchCall.performAll diskOf calls outcome.state := by
        intro calls
        rw [FetchCall.performAll, List.foldl_cons, performed]
        rfl
      rw [next]
      rcases ih ahead' id_eq later kept' with unended | ⟨early, failing, late, after, rfl, failed, rest⟩
      · exact .inl unended
      · refine .inr ⟨call :: early, failing, late, after, rfl, ?_, rest⟩
        rw [next]
        exact failed
    | @behind after state id_eq behind kept' =>
      -- this is the call that meets it
      exact .inr ⟨[], call, calls, (after, state), rfl, performed,
        ⟨behind.unfinished, kept'.1⟩, id_eq, behind, kept'.2⟩

/-- **A damaged file is found damaged once**: fetches from a file that is damaged
in front of its first batch end tell of no end, and the reader knows of none, up
to and with the first that comes to the damage.  That one fails.  What follows
the damage is what later ones read; if the damage is a torn frame, the very next
one tells that the result set is complete, and the reader takes it for finished. -/
theorem forgets_damage {path : String} {now : Int64} {disk : Disk} {header : Bytes}
    {describe : Frame} {state : η} (found : disk.openFile path = .ok id)
    (opened : openAt path now disk = .ok reader) (size : header.length = CacheHeader.size)
    (described : describe.Fits) (fit : ∀ payload ∈ rows, (Frame.ofRow payload).Fits)
    (damaged : Damage damage rest)
    (holds : disk.bytesOf id = header ++ (describe.encode ++
      (rows.flatMap (fun payload => (Frame.ofRow payload).encode) ++ (damage ++ rest))))
    (calls : List (FetchCall η))
    (bears : ∀ call ∈ calls, call.handler.Bears diskOf id (disk.bytesOf id) keeps)
    (kept : keeps state) :
    FetchCall.Unended (FetchCall.performAll diskOf calls (reader, [], state)) ∨
      ∃ early call late after, calls = early ++ call :: late ∧
        call.perform diskOf (FetchCall.performAll diskOf early (reader, [], state)) =
          .error (.cache .corrupt) after ∧
        FetchCall.Unended after ∧ unread after.1.file (disk.bytesOf id) = rest ∧
        (rest = [] → ∀ next : FetchCall η,
          (next.perform diskOf after).state.1.finished = true ∧
            (next.perform diskOf after).state.2.1 = after.2.1 ++ [.batchEnd ⟨true, 0⟩]) := by
  obtain ⟨id_eq, unfinished, left⟩ := unread_of_openAt found opened size described holds
  have ahead : reader.IsAhead (disk.bytesOf id) rows damage rest :=
    ⟨unfinished, fit, damaged, left⟩
  rcases ahead.performAll (s := (reader, [], state)) calls id_eq bears
    ⟨fun event none => absurd none List.not_mem_nil, kept⟩ with
    unended | ⟨early, call, late, after, split, failed, unended, id_eq', behind, kept'⟩
  · exact .inl unended
  · refine .inr ⟨early, call, late, after, split, failed, unended, behind.unread_eq, ?_⟩
    rintro rfl next
    -- the call that failed left the file alone
    have same : (diskOf after.2.2).bytesOf after.1.file.id = disk.bytesOf id := by
      rw [id_eq']
      exact (bears call (by rw [split]; simp)).bytesOf_eq kept'
    obtain ⟨last, finished, ended⟩ := behind.fetch_nil (Handler.journal.tee next.handler)
      (fun told => diskOf told.2) after.2 next.skip next.limit same
    have performed : next.perform diskOf after = _ := ended
    rw [performed, Outcome.state_mapState]
    exact ⟨finished, congrArg Prod.fst (Outcome.state_mapState ..)⟩

/-- A description of a result set without columns. -/
def plainDescribe : Describe :=
  .ofParts ⟨7, 0, -1, -1, 0, 0⟩ []

/-- A row that is cut off. -/
def tornRow : Bytes :=
  [68, 0, 0, 0, 9, 0]

/-- A disk with a file in which the second row is cut off. -/
def damagedDisk : Disk where
  entries := [(["torn"], .file 0)]
  contents := [CacheHeader.encode ⟨0⟩ ++ (plainDescribe.frame.encode ++
    ([[0, 0]].flatMap (fun payload => (Frame.ofRow payload).encode) ++ (tornRow ++ [])))]

/-- The file when it was opened. -/
def damagedReader : CacheReader where
  path := "torn"
  file := { id := 0, position := 68, buffered := (Frame.ofRow [0, 0]).encode ++ tornRow }
  describe := plainDescribe

theorem damage_tornRow : Damage tornRow [] :=
  .torn (by decide) ⟨.ofRow [0, 0, 0, 0, 0], [0, 0, 0, 0], by decide, by decide, by decide⟩

theorem openAt_damagedDisk : openAt "torn" 0 damagedDisk = .ok damagedReader := by
  have found : (openAt "torn" 0 damagedDisk).toOption = some damagedReader := by decide +kernel
  rcases opened : openAt "torn" 0 damagedDisk with e | reader <;> rw [opened] at found
  · contradiction
  · exact congrArg Except.ok (Option.some.inj found)

/-- What is known of two fetches from it. -/
theorem forgets_damage_tornRow :
    let count : FetchCall Nat := ⟨0, 0, Handler.counter⟩
    openAt "torn" 0 damagedDisk = .ok damagedReader ∧ Damage tornRow [] ∧
      (FetchCall.Unended
          (FetchCall.performAll (fun _ => damagedDisk) [count, count] (damagedReader, [], 0)) ∨
        ∃ early call late after, [count, count] = early ++ call :: late ∧
          call.perform (fun _ => damagedDisk)
              (FetchCall.performAll (fun _ => damagedDisk) early (damagedReader, [], 0)) =
            .error (.cache .corrupt) after ∧
          FetchCall.Unended after ∧ unread after.1.file (damagedDisk.bytesOf 0) = [] ∧
          ([] = ([] : Bytes) → ∀ next : FetchCall Nat,
            (next.perform (fun _ => damagedDisk) after).state.1.finished = true ∧
              (next.perform (fun _ => damagedDisk) after).state.2.1 =
                after.2.1 ++ [.batchEnd ⟨true, 0⟩])) := by
  have bears : Handler.Bears Handler.counter (fun _ => damagedDisk) 0 (damagedDisk.bytesOf 0)
      fun _ => True := ⟨fun _ => rfl, fun _ _ => trivial⟩
  have all : ∀ call ∈ ([⟨0, 0, Handler.counter⟩, ⟨0, 0, Handler.counter⟩] : List (FetchCall Nat)),
      call.handler.Bears (fun _ => damagedDisk) 0 (damagedDisk.bytesOf 0) fun _ => True := by
    intro call mem
    obtain rfl : call = ⟨0, 0, Handler.counter⟩ := by simpa using mem
    exact bears
  exact ⟨openAt_damagedDisk, damage_tornRow,
    forgets_damage rfl openAt_damagedDisk (CacheHeader.length_encode ⟨0⟩) (by decide) (by decide)
      damage_tornRow rfl _ all trivial⟩

/-- **The second fetch takes the file for complete**: of a file whose second row is
cut off the first fetch fails, and the second tells of the end of the result set. -/
theorem takes_torn_for_complete :
    let count : FetchCall Nat := ⟨0, 0, Handler.counter⟩
    let after := FetchCall.performAll (fun _ => damagedDisk) [count, count] (damagedReader, [], 0)
    openAt "torn" 0 damagedDisk = .ok damagedReader ∧ Damage tornRow [] ∧
      damagedDisk.bytesOf 0 = CacheHeader.encode ⟨0⟩ ++ (plainDescribe.frame.encode ++
        ([[0, 0]].flatMap (fun payload => (Frame.ofRow payload).encode) ++ (tornRow ++ []))) ∧
      (count.perform (fun _ => damagedDisk) (damagedReader, [], 0)).toExcept =
        .error (.cache .corrupt) ∧
      after.1.finished = true ∧ after.2.1 = [.row ⟨0, []⟩, .batchEnd ⟨true, 0⟩] := by
  refine ⟨openAt_damagedDisk, damage_tornRow, rfl, ?_, ?_, ?_⟩
  · decide +kernel
  · decide +kernel
  · decide +kernel

end CacheReader

end

end ProxyClient
