/-
ProxyClient/Proofs/Exchange/Answer.lean

Where an answer ends.  `final` tells of a frame whether it is the last of an
answer, whatever it holds; an exchange that stops reading on its own account
stops exactly there (`Exchange.EndsWith`).  So an exchange that leaves the
connection usable has read the frames up to the first final one and nothing
else (`settled_readAnswer`), however the bytes arrived.

A handler may fail in front of frames that are still to come, and so a
failure of its own has to break the connection (`Handler.FailsSafely`).
-/
import ProxyClient.Exchange.Query
import ProxyClient.Network.Transport
import ProxyClient.Proofs.Wire.Stream

namespace ProxyClient

variable {σ : Type}

/-- The outcome leaves a connection that cannot be used again. -/
def Outcome.breaks {α : Type} : Outcome α σ → Bool
  | .ok _ _ => false
  | .error e _ => e.breaksConnection

@[simp] theorem Outcome.breaks_mapState {α τ : Type} (f : σ → τ) (outcome : Outcome α σ) :
    (outcome.mapState f).breaks = outcome.breaks := by
  cases outcome <;> rfl

@[simp] theorem Outcome.state_mapState {α τ : Type} (f : σ → τ) (outcome : Outcome α σ) :
    (outcome.mapState f).state = f outcome.state := by
  cases outcome <;> rfl

theorem Outcome.mapState_id {α : Type} (outcome : Outcome α σ) : outcome.mapState id = outcome := by
  cases outcome <;> rfl

theorem Outcome.mapState_mapState {α τ υ : Type} (f : σ → τ) (g : τ → υ) (outcome : Outcome α σ) :
    (outcome.mapState f).mapState g = outcome.mapState (g ∘ f) := by
  cases outcome <;> rfl

theorem Outcome.exists_of_mapState_eq_ok {α τ : Type} {f : σ → τ} {outcome : Outcome α σ} {a : α}
    {t : τ} (h : outcome.mapState f = .ok a t) : ∃ s, outcome = .ok a s ∧ t = f s := by
  cases outcome with
  | ok b s =>
    obtain ⟨rfl, rfl⟩ := EStateM.Result.ok.inj h
    exact ⟨s, rfl, rfl⟩
  | error e s => contradiction

theorem Outcome.exists_of_mapState_eq_error {α τ : Type} {f : σ → τ} {outcome : Outcome α σ}
    {e : Error} {t : τ} (h : outcome.mapState f = .error e t) :
    ∃ s, outcome = .error e s ∧ t = f s := by
  cases outcome with
  | ok b s => contradiction
  | error e' s =>
    obtain ⟨rfl, rfl⟩ := EStateM.Result.error.inj h
    exact ⟨s, rfl, rfl⟩

theorem Outcome.exists_eq_ok {α : Type} {outcome : Outcome α σ}
    (h : outcome.toExcept.toBool = true) : ∃ a, outcome = .ok a outcome.state := by
  cases outcome with
  | ok a s => exact ⟨a, rfl⟩
  | error e s => contradiction

theorem Outcome.exists_eq_error {α : Type} {outcome : Outcome α σ}
    (h : outcome.toExcept.toBool = false) : ∃ e, outcome = .error e outcome.state := by
  cases outcome with
  | ok a s => contradiction
  | error e s => exact ⟨e, rfl⟩

theorem Outcome.eq_ok_of_toOption {α : Type} {outcome : Outcome α σ} {a : α}
    (h : outcome.toExcept.toOption = some a) : outcome = .ok a outcome.state := by
  cases outcome with
  | ok b s =>
    obtain rfl := Option.some.inj h
    rfl
  | error e s => contradiction

/-! ### Final frames -/

/-- Frames of which the last is final, and no other. -/
inductive IsAnswer (final : Frame → Prop) : List Frame → Prop
  | last {frame : Frame} : final frame → IsAnswer final [frame]
  | more {frame : Frame} {rest : List Frame} :
      ¬ final frame → IsAnswer final rest → IsAnswer final (frame :: rest)

/-- An exchange stops at final frames and nowhere else, unless it breaks the
connection. -/
structure Exchange.EndsWith (exchange : Exchange σ) (final : Frame → Prop) : Prop where
  /-- It goes on behind other frames only. -/
  of_more : ∀ {frame : Frame} {s s' : σ}, exchange.step frame s = .ok .more s' → ¬ final frame
  /-- It is complete with a final frame. -/
  of_done : ∀ {frame : Frame} {s s' : σ}, exchange.step frame s = .ok .done s' → final frame
  /-- It fails and leaves the connection usable with a final frame. -/
  of_error : ∀ {frame : Frame} {s s' : σ} {e : Error},
    exchange.step frame s = .error e s' → e.breaksConnection = false → final frame

section

variable {ι : Type} [ByteSource ι] (exchange : Exchange σ) {input input' : ι} (state : σ)

/-- Behind a frame the answer goes on as the exchange wants it. -/
theorem readAnswer_of_frame {frame : Frame} (h : readFrame input = (.frame frame, input')) :
    readAnswer exchange input state =
      match exchange.step frame state with
      | .error e state => .error e (input', state)
      | .ok .done state => .ok () (input', state)
      | .ok .more state => readAnswer exchange input' state := by
  rw [readAnswer]
  split
  · next e => simp [h] at e
  · next e => simp [h] at e
  · next e =>
    obtain ⟨hf, rfl⟩ := Prod.mk.inj (e.symm.trans h)
    obtain rfl := FrameRead.frame.inj hf
    rfl

/-- Where no frame can be read, the connection is broken and the state is kept. -/
theorem readAnswer_of_no_frame
    (h : readFrame input = (.ended, input') ∨
      ∃ t e, readFrame input = (.failed t e, input') ∧ e.breaksConnection = true) :
    ∃ e : Error, e.breaksConnection = true ∧
      readAnswer exchange input state = .error e (input', state) := by
  rw [readAnswer]
  rcases h with h | ⟨t, fault, h, breaks⟩
  · -- the source ended
    refine ⟨.connectionBroken, rfl, ?_⟩
    split
    · next e => rw [← (Prod.mk.inj (h.symm.trans e)).2]
    · next e => simp [h] at e
    · next e => simp [h] at e
  · -- the frame is torn
    refine ⟨fault, breaks, ?_⟩
    split
    · next e => simp [h] at e
    · next e =>
      obtain ⟨hf, rfl⟩ := Prod.mk.inj (h.symm.trans e)
      obtain ⟨-, rfl⟩ := FrameRead.failed.inj hf
      rfl
    · next e => simp [h] at e

end

/-- **An exchange that does not break the connection reads one answer**, up to
its last byte and no further. -/
theorem settled_readAnswer {ι : Type} [ByteSource ι] [FaithfulSource ι] {exchange : Exchange σ}
    {final : Frame → Prop} (ends : exchange.EndsWith final) (input : ι) (state : σ)
    (settled : (readAnswer exchange input state).breaks = false) :
    ∃ frames : List Frame, IsAnswer final frames ∧ (∀ frame ∈ frames, frame.Fits) ∧
      FaithfulSource.unread input =
        frames.flatMap Frame.encode ++
          FaithfulSource.unread (readAnswer exchange input state).state.1 := by
  -- the induction follows the frames that are read
  fun_induction readAnswer exchange input state with
  | case1 input state input' e => simp [Outcome.breaks, Error.breaksConnection] at settled
  | case2 input state t err input' e =>
    rw [Outcome.breaks, (FaithfulSource.readFrame_failed e).1] at settled
    contradiction
  | case3 input state frame input' e err state' step =>
    -- a failure that leaves the connection usable is that of a final frame
    obtain ⟨fits, front⟩ := FaithfulSource.encode_of_readFrame e
    refine ⟨[frame], .last (ends.of_error step settled), by simpa using fits, ?_⟩
    rw [front, List.flatMap_singleton]
    rfl
  | case4 input state frame input' e state' step =>
    obtain ⟨fits, front⟩ := FaithfulSource.encode_of_readFrame e
    refine ⟨[frame], .last (ends.of_done step), by simpa using fits, ?_⟩
    rw [front, List.flatMap_singleton]
    rfl
  | case5 input state frame input' e state' step _ ih =>
    obtain ⟨fits, front⟩ := FaithfulSource.encode_of_readFrame e
    obtain ⟨frames, answer, all, behind⟩ := ih settled
    refine ⟨frame :: frames, .more (ends.of_more step) answer, ?_, ?_⟩
    · simpa using ⟨fits, all⟩
    · rw [front, behind, List.flatMap_cons, List.append_assoc]

/-- A handler takes every event, or breaks the connection by its failure. -/
def Handler.FailsSafely {η : Type} (handler : Handler η) : Prop :=
  ∀ {event : RowEvent} {s s' : η} {e : Error}, handler event s = .error e s' →
    e.breaksConnection = true

/-! ### Commands and queries -/

/-- A command is answered by one frame. -/
theorem Command.endsWith_exchange (command : Command) :
    command.exchange.EndsWith fun _ => True where
  of_more := by
    intro frame s s' h
    simp only [exchange] at h
    split at h <;> simp at h
  of_done := fun _ => trivial
  of_error := fun _ _ => trivial

/-- A frame holds an event: by its letter, and by a payload that can be read. -/
inductive Frame.Spells : Frame → RowEvent → Prop
  /-- `T` -/
  | describe {payload : Bytes} {describe : Describe} :
      decoded Describe.decoder payload = .ok describe →
      Spells ⟨ServerMessage.Kind.describe.toByte, payload⟩ (.describe describe)
  /-- `o` -/
  | outputBinds {payload : Bytes} {binds : List OutputBind} :
      decoded OutputBinds.decoder payload = .ok binds →
      Spells ⟨ServerMessage.Kind.outputBinds.toByte, payload⟩ (.outputBinds binds)
  /-- `D` -/
  | row {payload : Bytes} {row : DataRow} :
      decoded DataRow.decoder payload = .ok row →
      Spells ⟨ServerMessage.Kind.dataRow.toByte, payload⟩ (.row row)
  /-- `C` -/
  | batchEnd {payload : Bytes} {batch : BatchEnd} :
      decoded BatchEnd.decoder payload = .ok batch →
      Spells ⟨ServerMessage.Kind.batchEnd.toByte, payload⟩ (.batchEnd batch)

/-- The phase of an answer in which an event is in place. -/
def RowEvent.phase : RowEvent → QueryPhase
  | describe _ => .waitingDescribe
  | _ => .processingRows

namespace Query

variable {η : Type}

/-- The frames that end the answer to a query: batch ends and errors. -/
def IsFinal (frame : Frame) : Prop :=
  frame.type = ServerMessage.Kind.batchEnd.toByte ∨ frame.type = ServerMessage.Kind.error.toByte

/-- A query takes the event that a frame spells in the phase where it is in place. -/
theorem eventOf_eq_ok_iff {phase : QueryPhase} {frame : Frame} {event : RowEvent} :
    eventOf phase frame = .ok event ↔ frame.Spells event ∧ event.phase = phase := by
  constructor
  · intro found
    obtain ⟨type, payload⟩ := frame
    -- an event is found only where its payload decodes
    have mapped {α : Type} {decoder : Decoder α} {g : α → RowEvent}
        (h : (decoded decoder payload).map g = .ok event) :
        ∃ a, decoded decoder payload = .ok a ∧ event = g a := by
      rcases e : decoded decoder payload with fault | value
      · rw [e] at h
        contradiction
      · rw [e] at h
        exact ⟨value, rfl, (Except.ok.inj h).symm⟩
    unfold eventOf at found
    simp only at found
    split at found
    · contradiction
    · next kind =>
      obtain ⟨d, read, rfl⟩ := mapped found
      exact ⟨ServerMessage.Kind.toByte_of_ofByte? kind ▸ .describe read, rfl⟩
    · next kind =>
      obtain ⟨binds, read, rfl⟩ := mapped found
      exact ⟨ServerMessage.Kind.toByte_of_ofByte? kind ▸ .outputBinds read, rfl⟩
    · next kind =>
      obtain ⟨row, read, rfl⟩ := mapped found
      exact ⟨ServerMessage.Kind.toByte_of_ofByte? kind ▸ .row read, rfl⟩
    · next kind =>
      obtain ⟨batch, read, rfl⟩ := mapped found
      exact ⟨ServerMessage.Kind.toByte_of_ofByte? kind ▸ .batchEnd read, rfl⟩
    · contradiction
  · rintro ⟨spells, rfl⟩
    cases spells with
    | describe read | outputBinds read | row read | batchEnd read =>
      simp only [eventOf, RowEvent.phase, ServerMessage.Kind.ofByte?_toByte, read, Except.map]

/-- An error frame is an error in every phase. -/
theorem eventOf_of_error (phase : QueryPhase) {frame : Frame}
    (type : frame.type = ServerMessage.Kind.error.toByte) :
    eventOf phase frame = .error (ErrorReport.errorOf frame.payload) := by
  unfold eventOf
  rw [type, ServerMessage.Kind.ofByte?_toByte]

/-- The last event of an answer is the one that comes in a final frame. -/
theorem isFinal_iff_of_eventOf {phase : QueryPhase} {frame : Frame} {event : RowEvent}
    (h : eventOf phase frame = .ok event) : IsFinal frame ↔ progressAfter event = .done := by
  obtain ⟨spells, -⟩ := eventOf_eq_ok_iff.mp h
  cases spells with
  | describe | outputBinds | row => exact iff_of_false (by simp only [IsFinal]; decide) nofun
  | batchEnd => exact iff_of_true (.inl rfl) rfl

/-- A frame that brings no event and leaves the connection usable is an error frame. -/
theorem type_of_eventOf_error {phase : QueryPhase} {frame : Frame} {e : Error}
    (h : eventOf phase frame = .error e) (usable : e.breaksConnection = false) :
    frame.type = ServerMessage.Kind.error.toByte := by
  -- a payload that does not decode breaks the connection
  have faulty {α : Type} {decoder : Decoder α} {f : α → RowEvent}
      (h : (decoded decoder frame.payload).map f = .error e) : e.breaksConnection = true := by
    unfold decoded at h
    split at h
    · simp [Except.map] at h
    · obtain rfl := Except.error.inj h
      rfl
  unfold eventOf at h
  simp only at h
  split at h
  · next e => exact (ServerMessage.Kind.toByte_of_ofByte? e).symm
  · rw [faulty h] at usable; contradiction
  · rw [faulty h] at usable; contradiction
  · rw [faulty h] at usable; contradiction
  · rw [faulty h] at usable; contradiction
  · obtain rfl := Except.error.inj h
    contradiction

/-- The answer to a query ends with the first batch end or error. -/
theorem endsWith_exchange (request : QueryRequest) {handler : Handler η}
    (safe : handler.FailsSafely) : (exchange request handler).EndsWith IsFinal where
  of_more := by
    intro frame query query' h
    simp only [exchange, step] at h
    split at h
    · simp at h
    · next event e =>
      split at h
      · simp at h
      · -- the step goes on as the event says
        rw [isFinal_iff_of_eventOf e]
        simp only [EStateM.Result.ok.injEq] at h
        simp [h.1]
  of_done := by
    intro frame query query' h
    simp only [exchange, step] at h
    split at h
    · simp at h
    · next event e =>
      split at h
      · simp at h
      · rw [isFinal_iff_of_eventOf e]
        simp only [EStateM.Result.ok.injEq] at h
        exact h.1
  of_error := by
    intro frame query query' e h usable
    simp only [exchange, step] at h
    split at h
    · next e₁ =>
      simp only [EStateM.Result.error.injEq] at h
      obtain ⟨rfl, -⟩ := h
      exact .inr (type_of_eventOf_error e₁ usable)
    · split at h
      · -- a handler that fails breaks the connection
        next failed =>
        simp only [EStateM.Result.error.injEq] at h
        obtain ⟨rfl, -⟩ := h
        rw [safe failed] at usable
        contradiction
      · simp at h

end Query

end ProxyClient
