/-
ProxyClient/Proofs/Cache/Transcript.lean

What is to be in a cache file after some frames were heard.  It can be told
from the frames alone (`CacheWriter.transcript`):

    no description among them  →  nothing: the file is not touched
    the description is         →  the header, its frame, the frames of the
                                  rows, and the end frame if one of a batch
                                  says that no rows are left

A recorder that takes the events of the frames has the transcript in its file
(`CacheWriter.HasTaken`), as soon as there is a description.
-/
import ProxyClient.Proofs.Cache.Recording
import ProxyClient.Proofs.Paging.Page
import ProxyClient.Proofs.Session.Hearing

namespace ProxyClient

/-! ### Kinds of frames -/

namespace Frame

/-- The frame describes a result set. -/
def isDescribe (frame : Frame) : Bool :=
  frame.type == ServerMessage.Kind.describe.toByte

/-- The frame is a row. -/
def isRow (frame : Frame) : Bool :=
  frame.type == ServerMessage.Kind.dataRow.toByte

/-- The frame ends a batch, and says that no rows are left. -/
def endsResultSet (frame : Frame) : Bool :=
  frame.type == ServerMessage.Kind.batchEnd.toByte &&
    match decoded BatchEnd.decoder frame.payload with
    | .ok batch => batch.endOfResultSet
    | .error _ => false

/-- Nothing of a notice is recorded. -/
theorem IsNotice.unrecorded {frame : Frame} (notice : frame.IsNotice) :
    frame.isDescribe = false ∧ frame.isRow = false ∧ frame.endsResultSet = false := by
  rw [isDescribe, isRow, endsResultSet]
  rcases notice with type | type
  · rw [type]
    exact ⟨rfl, rfl, rfl⟩
  · rw [type]
    exact ⟨rfl, rfl, rfl⟩

end Frame

namespace RowEvent

/-- The event ends a batch, and says that no rows are left. -/
def isEnd : RowEvent → Bool
  | batchEnd batch => batch.endOfResultSet
  | _ => false

theorem endsResultSet_frame (event : RowEvent) : event.frame.endsResultSet = event.isEnd := by
  cases event with
  | batchEnd batch =>
    have read := BatchEnd.decoder_payload batch []
    rw [List.append_nil] at read
    have whole : decoded BatchEnd.decoder batch.payload = .ok batch := by
      rw [decoded, read]
    show (true && match decoded BatchEnd.decoder batch.payload with
      | .ok batch => batch.endOfResultSet
      | .error _ => false) = _
    rw [whole]
    rfl
  | _ => rfl

/-- The row frames among those of events are the frames of the rows among them. -/
theorem filter_isRow_map (events : List RowEvent) :
    (events.map frame).filter Frame.isRow = (rowsOf events).map DataRow.frame := by
  induction events with
  | nil => rfl
  | cons event events ih =>
    cases event with
    | row r => exact congrArg (r.frame :: ·) ih
    | _ => exact ih

theorem any_endsResultSet_map (events : List RowEvent) :
    (events.map frame).any Frame.endsResultSet = events.any isEnd := by
  rw [List.any_map]
  exact congrArg events.any (funext endsResultSet_frame)

/-- Events in front of the end of the batch do not end the result set. -/
theorem any_isEnd_eq_false {events : List RowEvent}
    (more : ∀ event ∈ events, Query.progressAfter event = .more) : events.any isEnd = false := by
  rw [List.any_eq_false]
  intro event mem
  cases event with
  | batchEnd batch => exact absurd (more _ mem) (by simp [Query.progressAfter])
  | _ => exact Bool.false_ne_true

end RowEvent

/-- If all rows were asked for, a query has handed over the end of the result set
unless it failed. -/
theorem QueryEnd.any_isEnd_of_fetch_all {ν : Type} {id : ResultSetId} {skip : UInt64}
    {link : LinkId} {after : ν → Prop} {session : Session (Tapped ν)}
    {events front : List RowEvent} {error? refusal? : Option Frame} {e? : Option Error}
    {torn : Bytes}
    (ended : QueryEnd (.fetch id skip 0) link after session events error? e? front refusal? torn) :
    front.any RowEvent.isEnd = e?.isNone := by
  cases ended with
  | arrived orderly rest =>
    rw [List.any_append, List.any_cons, RowEvent.isEnd, rest id skip rfl, Bool.true_or, Bool.or_true]
    rfl
  | refused _ more => exact RowEvent.any_isEnd_eq_false more
  | lost _ _ more => exact RowEvent.any_isEnd_eq_false more

/-- Nothing is in place behind the end of a batch. -/
theorem Orderly.eq_nil {events : List RowEvent} (orderly : Orderly .finished events) :
    events = [] := by
  cases events with
  | nil => rfl
  | cons event events =>
    have phase : event.phase = .finished := orderly.1
    cases event <;> contradiction

/-- An answer that begins with a description begins with one, or there is nothing of it. -/
theorem Orderly.waitingDescribe_cases {events : List RowEvent}
    (orderly : Orderly .waitingDescribe events) :
    events = [] ∨ ∃ describe rest, events = .describe describe :: rest ∧
      (RowEvent.describe describe).Legible ∧ Orderly .processingRows rest := by
  cases events with
  | nil => exact .inl rfl
  | cons event events =>
    obtain ⟨phase, legible, behind⟩ := orderly
    cases event with
    | describe describe => exact .inr ⟨describe, events, rfl, legible, behind⟩
    | _ => contradiction

/-- Rows and the end of a batch leave it open which result set it is. -/
theorem ResultSet.foldl_of_orderly (rs : ResultSet) {events : List RowEvent}
    (orderly : Orderly .processingRows events) :
    (events.foldl apply rs).id = rs.id ∧ (events.foldl apply rs).suspended = rs.suspended ∧
      (events.foldl apply rs).ended = (rs.ended || events.any RowEvent.isEnd) := by
  -- nothing follows a batch end, so its flag is the last word
  induction events generalizing rs with
  | nil => exact ⟨rfl, rfl, (Bool.or_false _).symm⟩
  | cons event events ih =>
    obtain ⟨phase, -, behind⟩ := orderly
    cases event with
    | describe describe => contradiction
    | outputBinds binds => exact ih _ behind
    | row row => exact ih _ behind
    | batchEnd batch =>
      obtain rfl := Orderly.eq_nil behind
      refine ⟨rfl, rfl, ?_⟩
      show (rs.ended || batch.endOfResultSet) = (rs.ended || (batch.endOfResultSet || false))
      rw [Bool.or_false]

namespace CacheWriter

/-! ### Transcripts -/

/-- What is to be recorded of some frames; nothing, if none of them is a description. -/
def transcript (header : CacheHeader) (frames : List Frame) : Option Bytes :=
  (frames.find? Frame.isDescribe).map fun describe =>
    header.encode ++ describe.encode ++ (frames.filter Frame.isRow).flatMap Frame.encode ++
      if frames.any Frame.endsResultSet then endFrame.encode else []

section

variable {header : CacheHeader} {frames notices : List Frame} {image : Bytes}

/-- Notices are not recorded. -/
theorem transcript_append_notices (header : CacheHeader) (frames : List Frame)
    (plain : ∀ frame ∈ notices, frame.IsNotice) :
    transcript header (frames ++ notices) = transcript header frames := by
  have noDescribe : notices.find? Frame.isDescribe = none :=
    List.find?_eq_none.mpr fun frame mem => by
      simp [(plain frame mem).unrecorded]
  have noRow : notices.filter Frame.isRow = [] :=
    List.filter_eq_nil_iff.mpr fun frame mem => by
      simp [(plain frame mem).unrecorded]
  have noEnd : notices.any Frame.endsResultSet = false :=
    List.any_eq_false.mpr fun frame mem => by
      simp [(plain frame mem).unrecorded]
  rw [transcript, transcript, List.find?_append, noDescribe, Option.or_none, List.filter_append,
    noRow, List.append_nil, List.any_append, noEnd, Bool.or_false]

theorem transcript_of_notices (header : CacheHeader) (plain : ∀ frame ∈ notices, frame.IsNotice) :
    transcript header notices = none :=
  transcript_append_notices header [] plain

/-- The transcript begins with the description. -/
theorem transcript_describe (header : CacheHeader) (describe : Describe) :
    transcript header [describe.frame] = some (header.encode ++ describe.frame.encode) := by
  show some (header.encode ++ describe.frame.encode ++ [] ++ []) = _
  rw [List.append_nil, List.append_nil]

/-- Rows are added behind it, and the end. -/
theorem transcript_append_events (h : transcript header frames = some image)
    (unended : frames.any Frame.endsResultSet = false) (events : List RowEvent) :
    transcript header (frames ++ events.map RowEvent.frame) =
      some (image ++ encodeRows (RowEvent.rowsOf events) ++
        if events.any RowEvent.isEnd then endFrame.encode else []) := by
  obtain ⟨describe, found, rfl⟩ := Option.map_eq_some_iff.mp h
  rw [transcript, List.find?_append, found, Option.some_or, Option.map_some, List.filter_append,
    List.any_append, unended, Bool.false_or, RowEvent.filter_isRow_map,
    RowEvent.any_endsResultSet_map, List.flatMap_append, List.flatMap_map]
  simp only [Bool.false_eq_true, if_false, List.append_nil, List.append_assoc]
  rfl

end

/-- On a disk a file holds what is to be recorded of some frames.  If nothing is, all
files are as they were. -/
def HasLeft (since : Disk) (path : String) (header : CacheHeader) (frames : List Frame)
    (disk : Disk) : Prop :=
  match transcript header frames with
  | none => since.SameFiles disk
  | some bytes => disk.bytesAt? path = some bytes

theorem hasLeft_of_none {since disk : Disk} {header : CacheHeader} {frames : List Frame}
    (path : String) (nothing : transcript header frames = none) (same : since.SameFiles disk) :
    HasLeft since path header frames disk := by
  rw [HasLeft, nothing]
  exact same

theorem hasLeft_of_some {disk : Disk} {path : String} {header : CacheHeader} {frames : List Frame}
    {bytes : Bytes} (since : Disk) (told : transcript header frames = some bytes)
    (found : disk.bytesAt? path = some bytes) : HasLeft since path header frames disk := by
  rw [HasLeft, told]
  exact found

/-- Notices change nothing of that. -/
theorem HasLeft.append_notices {since disk : Disk} {path : String} {header : CacheHeader}
    {frames notices : List Frame} (left : HasLeft since path header frames disk)
    (plain : ∀ frame ∈ notices, frame.IsNotice) :
    HasLeft since path header (frames ++ notices) disk := by
  rw [HasLeft, transcript_append_notices header frames plain]
  exact left

/-! ### Recorders -/

/-- A recorder takes the rows of an answer, and its end. -/
theorem Holds.foldl_of_orderly {id : FileId} {since : Disk} {image : Bytes}
    {state : CacheWriter × Disk} (holds : Holds id since image true false state)
    {events : List RowEvent} (orderly : Orderly .processingRows events) :
    Holds id since
      (image ++ encodeRows (RowEvent.rowsOf events) ++
        if events.any RowEvent.isEnd then endFrame.encode else [])
      true (events.any RowEvent.isEnd)
      (events.foldl (fun state event => state.1.apply event state.2) state) := by
  -- the image grows by a frame for each row, and by the end frame behind the last
  induction events generalizing image state with
  | nil =>
    show Holds id since (image ++ [] ++ []) true false state
    rw [List.append_nil, List.append_nil]
    exact holds
  | cons event events ih =>
    obtain ⟨phase, -, behind⟩ := orderly
    cases event with
    | describe describe => contradiction
    | outputBinds binds => exact ih holds behind
    | row row =>
      have taken := ih (holds.row row) behind
      rw [List.append_assoc image] at taken
      exact taken
    | batchEnd batch =>
      obtain rfl := Orderly.eq_nil behind
      have taken := holds.batchEnd batch
      have noRow : encodeRows (RowEvent.rowsOf [.batchEnd batch]) = [] := rfl
      rw [noRow, List.append_nil]
      simpa [RowEvent.isEnd] using taken

/-- A recorder has taken the events of some frames: its file holds, up to what is in
the buffer, what is to be recorded of them. -/
def HasTaken (path : String) (header : CacheHeader) (frames : List Frame) (ended : Bool)
    (state : Option CacheWriter × Disk) : Prop :=
  ∃ id since writer image, since.openFile path = .ok id ∧ state.1 = some writer ∧
    transcript header frames = some image ∧ frames.any Frame.endsResultSet = ended ∧
    Holds id since image true ended (writer, state.2)

namespace HasTaken

variable {path : String} {header : CacheHeader} {frames : List Frame} {ended : Bool}
  {state : Option CacheWriter × Disk} {writer : CacheWriter} {disk : Disk} {events : List RowEvent}

/-- **A recorder takes the next events**; a notice behind them changes nothing. -/
theorem foldl (taken : HasTaken path header frames false state)
    (orderly : Orderly .processingRows events) {notice? : Option Frame}
    (plain : ∀ frame ∈ notice?, frame.Fits ∧ frame.IsNotice) :
    HasTaken path header (frames ++ replyFrames events notice?) (events.any RowEvent.isEnd)
      (events.foldl record state) := by
  obtain ⟨id, since, writer, image, found, there, told, unended, holds⟩ := taken
  obtain ⟨recorder, disk⟩ := state
  obtain rfl : recorder = some writer := there
  have notices : ∀ frame ∈ notice?.toList, frame.IsNotice := fun frame mem =>
    (plain frame (Option.mem_toList.mp mem)).2
  rw [foldl_record_some, replyFrames, ← List.append_assoc]
  refine ⟨id, since, _, _, found, rfl, ?_, ?_, holds.foldl_of_orderly orderly⟩
  · rw [transcript_append_notices header _ notices, transcript_append_events told unended]
  · have noEnd : notice?.toList.any Frame.endsResultSet = false :=
      List.any_eq_false.mpr fun frame mem => by
        simp [(notices frame mem).unrecorded]
    rw [List.any_append, List.any_append, unended, noEnd, RowEvent.any_endsResultSet_map,
      Bool.false_or, Bool.or_false]

/-- A new recorder takes an answer that begins with a description. -/
theorem of_isFresh (fresh : writer.IsFresh disk) (found : disk.openFile path = .ok writer.file.id)
    (header_eq : header = ⟨writer.expiresAt⟩) (describe : Describe)
    (orderly : Orderly .processingRows events) {notice? : Option Frame}
    (plain : ∀ frame ∈ notice?, frame.Fits ∧ frame.IsNotice) :
    HasTaken path header (replyFrames (.describe describe :: events) notice?)
      (events.any RowEvent.isEnd)
      ((RowEvent.describe describe :: events).foldl record (some writer, disk)) := by
  have described : HasTaken path header [describe.frame] false
      (record (some writer, disk) (.describe describe)) := by
    refine ⟨writer.file.id, disk, _, _, found, rfl, transcript_describe header describe, rfl, ?_⟩
    rw [header_eq]
    exact fresh.holds_describe describe
  exact described.foldl orderly plain

/-- A recorder that is closed leaves its file. -/
theorem detach (taken : HasTaken path header frames ended (some writer, disk)) (since : Disk) :
    HasLeft since path header frames (writer.detach disk) := by
  obtain ⟨id, before, _, image, found, there, told, -, holds⟩ := taken
  obtain rfl := Option.some.inj there
  obtain ⟨bytes, only⟩ := holds.detach
  refine hasLeft_of_some since told ?_
  rw [only.bytesAt?_eq found, bytes]

/-- Finishing it adds nothing, if the end frame is there. -/
theorem finish (taken : HasTaken path header frames true (some writer, disk)) (since : Disk) :
    HasLeft since path header frames (writer.finish disk) := by
  obtain ⟨id, before, _, image, found, there, told, -, holds⟩ := taken
  obtain rfl := Option.some.inj there
  obtain ⟨bytes, only⟩ := holds.finish
  refine hasLeft_of_some since told ?_
  rw [only.bytesAt?_eq found, bytes]
  exact congrArg some (List.append_nil image)

/-- Nor is a file given up that was begun. -/
theorem abandon (taken : HasTaken path header frames ended (some writer, disk)) (since : Disk) :
    HasLeft since path header frames (writer.abandon disk).state := by
  have started : writer.started = true := by
    obtain ⟨id, before, _, image, found, there, told, -, holds⟩ := taken
    obtain rfl := Option.some.inj there
    exact holds.started
  rw [CacheWriter.abandon, if_neg (by simp [started])]
  exact taken.detach since

end HasTaken

/-! ### New recorders -/

section

variable {path : String} {ttl : Nat} {clock : Int64} {disk disk' disk'' : Disk}
  {writer writer' : CacheWriter} {events : List RowEvent} {notice? : Option Frame}

/-- A recorder of a target that was absent, or not empty, takes an answer that begins
with a description. -/
theorem hasTaken_of_create (occupied : ∀ id, disk.openFile path = .ok id → disk.bytesOf id ≠ [])
    (created : create path ttl clock disk = .ok writer disk') (describe : Describe)
    (orderly : Orderly .processingRows events)
    (plain : ∀ frame ∈ notice?, frame.Fits ∧ frame.IsNotice) :
    HasTaken path ⟨CacheHeader.expiryAfter (CacheHeader.timeOn clock) ttl⟩
      (replyFrames (.describe describe :: events) notice?) (events.any RowEvent.isEnd)
      ((RowEvent.describe describe :: events).foldl record (some writer, disk')) := by
  obtain ⟨fresh, found, expiry⟩ := createWithExpiry_of_has created
    (Disk.has_of_createFile_of_occupied occupied (create_ok created).1)
  exact .of_isFresh fresh found (by rw [expiry]) describe orderly plain

/-- **Given up**, it leaves what is to be recorded of the answer.  If not even the
description came, the files are as they were. -/
theorem hasLeft_abandon (occupied : ∀ id, disk.openFile path = .ok id → disk.bytesOf id ≠ [])
    (created : create path ttl clock disk = .ok writer disk')
    (orderly : Orderly .waitingDescribe events)
    (plain : ∀ frame ∈ notice?, frame.Fits ∧ frame.IsNotice)
    (taken : events.foldl record (some writer, disk') = (some writer', disk'')) :
    HasLeft disk path ⟨CacheHeader.expiryAfter (CacheHeader.timeOn clock) ttl⟩
      (replyFrames events notice?) (writer'.abandon disk'').state := by
  rcases orderly.waitingDescribe_cases with rfl | ⟨describe, rest, rfl, -, behind⟩
  · obtain ⟨same, rfl⟩ := Prod.mk.inj taken
    obtain rfl := Option.some.inj same
    refine hasLeft_of_none path (transcript_of_notices _ ?_) (sameFiles_abandon occupied created)
    exact fun frame mem => (plain frame (Option.mem_toList.mp mem)).2
  · have told := hasTaken_of_create occupied created describe behind plain
    rw [taken] at told
    exact told.abandon disk

end

end CacheWriter

end ProxyClient
