/-
ProxyClient/Proofs/Exchange/Events.lean

What a handler is given of an answer.  An answer is written as the frames of
its events, one after the other; a handler that takes every event is given
them in this order, each once:

    all of the answer arrives      →  the handler has taken every event
    the answer is cut off somewhere →  the handler has taken the events whose
                                       frames are complete, and the
                                       connection is broken

The cut may stand at any byte (`exists_torn_of_cut`).
-/
import ProxyClient.Proofs.Exchange.Answer
import ProxyClient.Proofs.Wire.Layout

namespace ProxyClient

/-! ### Frames that are cut off -/

/-- Bytes that are the beginning of some frames, but not all of them, are
complete frames and a torn one. -/
theorem Frame.exists_torn_of_cut {frames : List Frame} (fit : ∀ frame ∈ frames, frame.Fits)
    {bytes lost : Bytes} (h : frames.flatMap encode = bytes ++ lost) (nonempty : lost ≠ []) :
    ∃ front frame back torn, frames = front ++ frame :: back ∧
      bytes = front.flatMap encode ++ torn ∧ Torn torn := by
  induction frames generalizing bytes with
  | nil =>
    rw [List.flatMap_nil] at h
    exact absurd (List.append_eq_nil_iff.mp h.symm).2 nonempty
  | cons frame frames ih =>
    rw [List.flatMap_cons] at h
    by_cases complete : frame.encode.length ≤ bytes.length
    · -- the cut stands behind the first frame
      obtain ⟨more, rfl, e⟩ : ∃ more, bytes = frame.encode ++ more ∧
          frames.flatMap encode = more ++ lost := by
        rcases List.append_eq_append_iff.mp h with ⟨more, rfl, e⟩ | ⟨more, e, e'⟩
        · exact ⟨more, rfl, e⟩
        · obtain rfl : more = [] := by
            rw [e, List.length_append] at complete
            exact List.length_eq_zero_iff.mp (by omega)
          exact ⟨[], by simpa using e.symm, by simpa using e'.symm⟩
      obtain ⟨front, frame', back, torn, rfl, rfl, tail⟩ :=
        ih (fun f mem => fit f (List.mem_cons_of_mem _ mem)) e
      refine ⟨frame :: front, frame', back, torn, rfl, ?_, tail⟩
      rw [List.flatMap_cons, List.append_assoc]
    · rcases List.append_eq_append_iff.mp h with ⟨more, rfl, -⟩ | ⟨more, e, -⟩
      · rw [List.length_append] at complete
        omega
      · refine ⟨[], frame, frames, bytes, rfl, by simp, frame, more, fit frame (by simp), ?_, e⟩
        rintro rfl
        rw [e, List.append_nil] at complete
        omega

/-! ### Events as frames -/

/-- A description without columns is short. -/
theorem Describe.fits_ofParts {head : DescribeHead} (noColumns : head.hasColumns = 0)
    (columns : List ColumnDescription) : (Describe.ofParts head columns).frame.Fits := by
  show (Describe.ofParts head columns).payload.length + 4 < 2 ^ 32
  rw [payload_ofParts noColumns, DescribeHead.length_encode]
  decide

namespace RowEvent

/-- The frame of an event. -/
def frame : RowEvent → Frame
  | describe d => d.frame
  | outputBinds binds => ⟨ServerMessage.Kind.outputBinds.toByte, OutputBinds.payload binds⟩
  | row r => r.frame
  | batchEnd batch => batch.frame

/-- The bytes of an event are read as that event, and its frame is short enough. -/
structure Legible (event : RowEvent) : Prop where
  /-- The event is read from its frame. -/
  read : Query.eventOf event.phase event.frame = .ok event
  /-- The length field can tell the length of the frame. -/
  fits : event.frame.Fits

theorem Legible.decoded_describe {d : Describe} (legible : (describe d).Legible) :
    decoded Describe.decoder d.payload = .ok d := by
  have read : (decoded Describe.decoder d.payload).map describe = .ok (describe d) := legible.read
  rcases e : decoded Describe.decoder d.payload with e' | found <;> rw [e] at read
  · contradiction
  · exact congrArg _ (describe.inj (Except.ok.inj read))

theorem legible_describe {d : Describe} (read : decoded Describe.decoder d.payload = .ok d)
    (fits : d.frame.Fits) : (describe d).Legible where
  read := by
    show (decoded Describe.decoder d.payload).map describe = .ok (describe d)
    rw [read]
    rfl
  fits := fits

theorem legible_ofParts {head : DescribeHead} (noColumns : head.hasColumns = 0)
    (columns : List ColumnDescription) : (describe (.ofParts head columns)).Legible :=
  legible_describe (by rw [decoded, Describe.decoder_ofParts noColumns columns])
    (Describe.fits_ofParts noColumns columns)

theorem legible_row {r : DataRow} (fits : r.frame.Fits) : (row r).Legible where
  read := by
    show (decoded DataRow.decoder r.payload).map row = .ok (row r)
    rw [DataRow.decoded_payload]
    rfl
  fits := fits

theorem legible_batchEnd (batch : BatchEnd) : (batchEnd batch).Legible where
  read := by
    show (decoded BatchEnd.decoder batch.payload).map batchEnd = .ok (batchEnd batch)
    have read := BatchEnd.decoder_payload batch []
    rw [List.append_nil] at read
    rw [decoded, read]
    rfl
  fits := by
    obtain ⟨ended, skipped⟩ := batch
    show (Wire.encodeFlag ended ++ Wire.encodeU64 skipped).length + 4 < 2 ^ 32
    simp [Wire.encodeFlag, Wire.encodeU64]

/-- The bytes of events, one after the other. -/
def encodeAll (events : List RowEvent) : Bytes :=
  events.flatMap fun event => event.frame.encode

@[simp] theorem encodeAll_nil : encodeAll [] = [] := rfl

@[simp] theorem encodeAll_cons (event : RowEvent) (events : List RowEvent) :
    encodeAll (event :: events) = event.frame.encode ++ encodeAll events := rfl

@[simp] theorem encodeAll_append (front back : List RowEvent) :
    encodeAll (front ++ back) = encodeAll front ++ encodeAll back :=
  List.flatMap_append

/-- They are those of their frames. -/
theorem encodeAll_eq_flatMap (events : List RowEvent) :
    encodeAll events = (events.map frame).flatMap Frame.encode := by
  rw [encodeAll, List.flatMap_map]

/-! ### What is among events -/

/-- The row that an event brings. -/
def row? : RowEvent → Option DataRow
  | row r => some r
  | _ => none

/-- The description that an event brings. -/
def describe? : RowEvent → Option Describe
  | describe d => some d
  | _ => none

/-- The output variables that an event brings. -/
def binds? : RowEvent → Option (List OutputBind)
  | outputBinds binds => some binds
  | _ => none

/-- The rows among events, in order. -/
def rowsOf (events : List RowEvent) : List DataRow :=
  events.filterMap row?

/-- The descriptions among events, in order. -/
def describesOf (events : List RowEvent) : List Describe :=
  events.filterMap describe?

@[simp] theorem rowsOf_append (front back : List RowEvent) :
    rowsOf (front ++ back) = rowsOf front ++ rowsOf back :=
  List.filterMap_append

@[simp] theorem rowsOf_map_row (rows : List DataRow) : rowsOf (rows.map row) = rows := by
  induction rows with
  | nil => rfl
  | cons r rows ih => exact congrArg (r :: ·) ih

end RowEvent

/-- Events in the order of an answer that has come to a phase. -/
def Orderly : QueryPhase → List RowEvent → Prop
  | _, [] => True
  | phase, event :: rest => event.phase = phase ∧ event.Legible ∧ Orderly (Query.phaseAfter event) rest

/-- The phase behind some events. -/
def phaseBehind (phase : QueryPhase) (events : List RowEvent) : QueryPhase :=
  events.foldl (fun _ event => Query.phaseAfter event) phase

theorem orderly_append {phase : QueryPhase} {front back : List RowEvent} :
    Orderly phase (front ++ back) ↔ Orderly phase front ∧ Orderly (phaseBehind phase front) back := by
  induction front generalizing phase with
  | nil => simp [Orderly, phaseBehind]
  | cons event front ih =>
    show _ ∧ _ ∧ Orderly _ (front ++ back) ↔ (_ ∧ _ ∧ Orderly _ front) ∧ _
    rw [ih, and_assoc, and_assoc]
    rfl

theorem Orderly.legible {phase : QueryPhase} {events : List RowEvent} (h : Orderly phase events) :
    ∀ event ∈ events, event.Legible := by
  induction events generalizing phase with
  | nil => simp
  | cons event events ih =>
    intro e mem
    rcases List.mem_cons.mp mem with rfl | mem
    · exact h.2.1
    · exact ih h.2.2 e mem

/-- Rows and the end of a batch are in order once rows may arrive. -/
theorem orderly_rows {rows : List DataRow} (fit : ∀ row ∈ rows, row.frame.Fits) (batch : BatchEnd) :
    Orderly .processingRows (rows.map .row ++ [.batchEnd batch]) := by
  induction rows with
  | nil => exact ⟨rfl, RowEvent.legible_batchEnd batch, trivial⟩
  | cons row rows ih =>
    refine ⟨rfl, RowEvent.legible_row (fit row (by simp)), ih fun r mem => fit r ?_⟩
    exact List.mem_cons_of_mem row mem

/-- In front of other events stands no batch end. -/
theorem Orderly.more_of_append {phase : QueryPhase} {front back : List RowEvent}
    (h : Orderly phase (front ++ back)) (nonempty : back ≠ []) :
    ∀ event ∈ front, Query.progressAfter event = .more := by
  induction front generalizing phase with
  | nil => simp
  | cons event front ih =>
    intro e mem
    rcases List.mem_cons.mp mem with rfl | mem
    · rcases e with - | - | - | batch
      · rfl
      · rfl
      · rfl
      · -- behind a batch end no event is in place
        rcases behind : front ++ back with - | ⟨next, rest⟩
        · exact absurd (List.append_eq_nil_iff.mp behind).2 nonempty
        · have tail : Orderly .finished (front ++ back) := h.2.2
          rw [behind] at tail
          have finished : next.phase = .finished := tail.1
          cases next <;> contradiction
    · exact ih h.2.2 e mem

/-- The beginning of an answer, cut off inside one of its frames. -/
theorem Orderly.exists_of_cut {phase : QueryPhase} {events : List RowEvent}
    (orderly : Orderly phase events) {bytes lost : Bytes}
    (h : RowEvent.encodeAll events = bytes ++ lost) (nonempty : lost ≠ []) :
    ∃ front event back torn, events = front ++ event :: back ∧
      bytes = RowEvent.encodeAll front ++ torn ∧ Frame.Torn torn := by
  have fit : ∀ frame ∈ events.map RowEvent.frame, frame.Fits := by
    intro frame mem
    obtain ⟨event, there, rfl⟩ := List.mem_map.mp mem
    exact (orderly.legible event there).fits
  have frames : (events.map RowEvent.frame).flatMap Frame.encode = bytes ++ lost := by
    rw [← h, RowEvent.encodeAll_eq_flatMap]
  obtain ⟨front, frame, back, torn, e, rfl, tail⟩ := Frame.exists_torn_of_cut fit frames nonempty
  obtain ⟨front', back', rfl, rfl, e'⟩ := List.map_eq_append_iff.mp e
  obtain ⟨event, back'', rfl, rfl, rfl⟩ := List.map_eq_cons_iff.mp e'
  exact ⟨front', event, back'', torn, rfl, by rw [RowEvent.encodeAll_eq_flatMap], tail⟩

/-- The beginning of an answer, wherever it ends, is complete frames and a torn one. -/
theorem Orderly.take {phase : QueryPhase} {events : List RowEvent} (orderly : Orderly phase events)
    (n : Nat) :
    ∃ front torn, front <+: events ∧
      (RowEvent.encodeAll events).take n = RowEvent.encodeAll front ++ torn ∧
      (torn = [] ∨ Frame.Torn torn) := by
  by_cases all : (RowEvent.encodeAll events).drop n = []
  · refine ⟨events, [], List.prefix_rfl, ?_, .inl rfl⟩
    rw [List.append_nil, List.take_of_length_le (List.drop_eq_nil_iff.mp all)]
  · obtain ⟨front, event, back, torn, e, left, tail⟩ :=
      orderly.exists_of_cut (List.take_append_drop n _).symm all
    exact ⟨front, torn, ⟨event :: back, e.symm⟩, left, .inr tail⟩

/-! ### Handlers that take everything -/

/-- A handler takes every event, and `take` tells what becomes of its state. -/
def Handler.Takes {η : Type} (handler : Handler η) (take : η → RowEvent → η) : Prop :=
  ∀ event state, handler event state = .ok () (take state event)

namespace Query

variable {η : Type} {handler : Handler η} {take : η → RowEvent → η} (request : QueryRequest)

/-- A frame that is in place is handed over. -/
theorem step_of_legible (takes : handler.Takes take) {event : RowEvent} {query : Query η}
    (inPlace : event.phase = query.phase) (legible : event.Legible) :
    (exchange request handler).step event.frame query =
      .ok (progressAfter event)
        { phase := phaseAfter event, rows := query.rows + rowsIn event
          handler := take query.handler event } := by
  show step handler event.frame query = _
  rw [step, ← inPlace, legible.read]
  simp only [takes event query.handler]

/-! ### Answers that arrive -/

/-- A frame that arrived whole is read, and a link that was not given up is
not given up by that. -/
theorem readFrame_of_arrived {frame : Frame} {rest : Bytes} {inbox : Inbox} (fits : frame.Fits)
    (front : inbox.bytes = frame.encode ++ rest) :
    ∃ behind : Inbox, readFrame inbox = (.frame frame, behind) ∧ behind.bytes = rest ∧
      (inbox.reset = false → behind.reset = false) := by
  obtain ⟨behind, read, unread⟩ :=
    FaithfulSource.readFrame_of_encode (s := inbox) fits front
  refine ⟨behind, read, unread, fun open_ => ?_⟩
  have kept := Inbox.reset_readFrame open_
  rwa [read] at kept

/-- Events in front of the end are handed over, and the rest is read with what
has become of the handler. -/
theorem readAnswer_append (takes : handler.Takes take) {events : List RowEvent} {rest : Bytes}
    {inbox : Inbox} {query : Query η} (orderly : Orderly query.phase events)
    (more : ∀ event ∈ events, progressAfter event = .more)
    (front : inbox.bytes = RowEvent.encodeAll events ++ rest) :
    ∃ (behind : Inbox) (query' : Query η),
      readAnswer (exchange request handler) inbox query =
        readAnswer (exchange request handler) behind query' ∧
      behind.bytes = rest ∧ (inbox.reset = false → behind.reset = false) ∧
      query'.phase = phaseBehind query.phase events ∧
      query'.handler = events.foldl take query.handler := by
  induction events generalizing inbox query with
  | nil => exact ⟨inbox, query, rfl, front, id, rfl, rfl⟩
  | cons event events ih =>
    obtain ⟨inPlace, legible, orderly⟩ := orderly
    rw [RowEvent.encodeAll_cons, List.append_assoc] at front
    obtain ⟨inbox₁, read, front₁, open₁⟩ := readFrame_of_arrived legible.fits front
    have taken := step_of_legible request takes inPlace legible
    rw [more event (by simp)] at taken
    obtain ⟨behind, query', e, unread, open₂, phase, state⟩ :=
      @ih inbox₁ ⟨phaseAfter event, query.rows + rowsIn event, take query.handler event⟩
        orderly (fun e mem => more e (List.mem_cons_of_mem _ mem)) front₁
    refine ⟨behind, query', ?_, unread, fun h => open₂ (open₁ h), phase, state⟩
    rw [← e, readAnswer_of_frame _ _ read, taken]

/-- **An answer that arrives is taken whole**: every event is handed over,
in order, and nothing behind the answer is read. -/
theorem readAnswer_of_arrived (takes : handler.Takes take) {events : List RowEvent}
    {batch : BatchEnd} {rest : Bytes} {inbox : Inbox} {query : Query η}
    (orderly : Orderly query.phase (events ++ [RowEvent.batchEnd batch]))
    (front : inbox.bytes = RowEvent.encodeAll (events ++ [RowEvent.batchEnd batch]) ++ rest) :
    ∃ (behind : Inbox) (query' : Query η),
      readAnswer (exchange request handler) inbox query = .ok () (behind, query') ∧
      behind.bytes = rest ∧ (inbox.reset = false → behind.reset = false) ∧
      query'.handler = (events ++ [RowEvent.batchEnd batch]).foldl take query.handler := by
  have more := orderly.more_of_append (by simp)
  obtain ⟨opening, last⟩ := orderly_append.mp orderly
  rw [RowEvent.encodeAll_append, List.append_assoc] at front
  obtain ⟨inbox₁, query₁, e₁, front₁, open₁, phase, state⟩ :=
    readAnswer_append request takes opening more front
  rw [RowEvent.encodeAll_cons, RowEvent.encodeAll_nil, List.append_nil] at front₁
  obtain ⟨inbox₂, read, unread, open₂⟩ := readFrame_of_arrived last.2.1.fits front₁
  have taken := step_of_legible request takes
    (show (RowEvent.batchEnd batch).phase = query₁.phase from last.1.trans phase.symm) last.2.1
  refine ⟨inbox₂, ⟨.finished, query₁.rows, take query₁.handler (.batchEnd batch)⟩, ?_, unread,
    fun h => open₂ (open₁ h), ?_⟩
  · rw [e₁, readAnswer_of_frame _ _ read, taken]
    rfl
  · rw [List.foldl_append, ← state]
    rfl

/-- **An answer that is cut off** has handed over the events whose frames are
complete, and the connection is broken. -/
theorem readAnswer_of_torn (takes : handler.Takes take) {events : List RowEvent} {torn : Bytes}
    {inbox : Inbox} {query : Query η} (orderly : Orderly query.phase events)
    (more : ∀ event ∈ events, progressAfter event = .more) (tail : Frame.Torn torn)
    (front : inbox.bytes = RowEvent.encodeAll events ++ torn) :
    ∃ (e : Error) (behind : Inbox) (query' : Query η), e.breaksConnection = true ∧
      readAnswer (exchange request handler) inbox query = .error e (behind, query') ∧
      query'.handler = events.foldl take query.handler := by
  obtain ⟨inbox₁, query₁, e₁, front₁, -, -, state⟩ :=
    readAnswer_append request takes orderly more front
  obtain ⟨behind, -, cut⟩ := FaithfulSource.readFrame_of_torn (s := inbox₁)
    (show Frame.Torn inbox₁.bytes by rw [front₁]; exact tail)
  obtain ⟨e, breaks, e₂⟩ :=
    readAnswer_of_no_frame (exchange request handler) query₁ cut
  exact ⟨e, behind, query₁, breaks, e₁.trans e₂, state⟩

end Query

end ProxyClient
