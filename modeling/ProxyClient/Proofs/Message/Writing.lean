/-
ProxyClient/Proofs/Message/Writing.lean

What the functions that write a message do to the buffer.  A message is
finished by filling in its length, and in front of it stands everything that
was written earlier:

    ((MessageBuilder.new buffer type).write payload).finish
      = buffer ++ (Frame.mk type payload).encode

So a call leaves the buffer as it is and appends a frame, and the buffer
behind several calls is a row of frames.  A statement with too many bind
variables is refused before a byte of it is written.
-/
import ProxyClient.Message.Request
import ProxyClient.Message.Server
import ProxyClient.Proofs.Wire.Stream

namespace ProxyClient

/-! ### Messages that are being written -/

namespace MessageBuilder

theorem write_write (message : MessageBuilder) (front rest : Bytes) :
    (message.write front).write rest = message.write (front ++ rest) := by
  simp only [write, List.append_assoc]

/-- Fields that are written one after another are written as one. -/
theorem writeAll_eq (message : MessageBuilder) (fields : List Bytes) :
    message.writeAll fields = message.write fields.flatten := by
  induction fields generalizing message with
  | nil => simp [writeAll, write]
  | cons field fields ih =>
    calc message.writeAll (field :: fields)
      _ = (message.write field).writeAll fields := rfl
      _ = (message.write field).write fields.flatten := ih _
      _ = message.write (field :: fields).flatten := by rw [write_write, List.flatten_cons]

/-- What was in the buffer stays, and one frame follows it. -/
theorem finish_write (buffer : Bytes) (type : UInt8) (payload : Bytes) :
    ((new buffer type).write payload).finish = buffer ++ (Frame.mk type payload).encode := by
  let typed := buffer ++ [type]
  have front : (typed ++ [0, 0, 0, 0] ++ payload).take typed.length = typed := by
    rw [List.append_assoc, List.take_left]
  have behind : (typed ++ [0, 0, 0, 0] ++ payload).drop (typed.length + 4) = payload :=
    List.drop_left' (by rw [List.length_append]; rfl)
  have length : (typed ++ [0, 0, 0, 0] ++ payload).length - typed.length = payload.length + 4 := by
    simp only [List.length_append, List.length_cons, List.length_nil]
    omega
  show (typed ++ [0, 0, 0, 0] ++ payload).take typed.length ++
      Bytes.bigEndian 4 ((typed ++ [0, 0, 0, 0] ++ payload).length - typed.length) ++
      (typed ++ [0, 0, 0, 0] ++ payload).drop (typed.length + 4) = _
  rw [front, length, behind]
  simp only [typed, Frame.encode_cons, List.append_assoc, List.cons_append, List.nil_append]

end MessageBuilder

theorem Frame.write_eq (frame : Frame) (buffer : Bytes) :
    frame.write buffer = buffer ++ frame.encode :=
  MessageBuilder.finish_write buffer frame.type frame.payload

/-- The bytes of a request are what it writes into an empty buffer. -/
theorem Request.encode_eq_write (request : Request) :
    request.encode = (request.write []).1.map fun _ => (request.write []).2 := by
  rw [encode, write]
  cases request.frame with
  | ok frame =>
    show Except.ok frame.encode = Except.ok (frame.write [])
    rw [Frame.write_eq, List.nil_append]
  | error error => rfl

/-- Only a statement with too many bind variables is refused. -/
theorem Request.execute_of_refused {request : Request} {error : Error}
    (h : request.frame = .error error) :
    ∃ sql binds options, request = .execute sql binds options ∧ 65535 < binds.length := by
  cases request with
  | execute sql binds options =>
    rw [frame] at h
    split at h
    · simp at h
    · next many => exact ⟨sql, binds, options, rfl, by omega⟩
  | _ => simp [frame] at h

/-! ### Calls -/

/-- A call of one of the functions that write a message. -/
inductive Writer where
  /-- One that writes for a client. -/
  | request (request : Request)
  /-- One that writes for a server. -/
  | message (message : ServerMessage)

namespace Writer

/-- What the call returns, and the buffer behind it. -/
def write : Writer → Bytes → Except Error Unit × Bytes
  | request asked, buffer => asked.write buffer
  | message told, buffer => (.ok (), told.write buffer)

/-- The buffer behind several calls. -/
def writeAll (writers : List Writer) (buffer : Bytes) : Bytes :=
  writers.foldl (fun buffer writer => (writer.write buffer).2) buffer

/-- The frame that is written, if the call is not refused. -/
def frame? : Writer → Option Frame
  | request asked => asked.frame.toOption
  | message told => some told.frame

/-- A call leaves the buffer as it is and appends to it one frame with its
length, or, if it is a statement with too many bind variables, nothing. -/
def Appends (writer : Writer) (buffer : Bytes) : Prop :=
  match writer.write buffer with
  | (.ok (), after) =>
    ∃ frame length, writer.frame? = some frame ∧
      after = buffer ++ (frame.type :: (length ++ frame.payload)) ∧
      length.length = 4 ∧ Bytes.ofBigEndian length = frame.payload.length + 4
  | (.error _, after) =>
    after = buffer ∧ writer.frame? = none ∧
      ∃ sql binds options, writer = .request (.execute sql binds options) ∧ 65535 < binds.length

theorem write_snd (writer : Writer) (buffer : Bytes) :
    (writer.write buffer).2 = buffer ++ writer.frame?.toList.flatMap Frame.encode := by
  cases writer with
  | message message =>
    show message.frame.write buffer = _
    rw [Frame.write_eq]
    simp [frame?]
  | request request =>
    show (request.write buffer).2 = buffer ++ request.frame.toOption.toList.flatMap Frame.encode
    rw [Request.write]
    cases request.frame with
    | ok frame => simp [Frame.write_eq, Except.toOption]
    | error error => simp [Except.toOption]

theorem appends (writer : Writer) (fits : ∀ frame ∈ writer.frame?, frame.Fits) (buffer : Bytes) :
    writer.Appends buffer := by
  -- the length that is written in front is the one of the payload, since the frame fits
  have whole : ∀ frame, writer.frame? = some frame →
      writer.write buffer = (.ok (), frame.write buffer) → writer.Appends buffer := by
    intro frame same written
    have fit : frame.payload.length + 4 < 2 ^ 32 := fits frame same
    rw [Appends, written]
    refine ⟨frame, Bytes.bigEndian 4 (frame.payload.length + 4), same, ?_, by simp, ?_⟩
    · rw [Frame.write_eq, Frame.encode_cons]
    · rw [Bytes.ofBigEndian_bigEndian]
      exact Nat.mod_eq_of_lt fit
  cases writer with
  | message told => exact whole told.frame rfl rfl
  | request request =>
    rcases e : request.frame with error | frame
    · -- too many binds: the buffer is left alone
      have refused : (request.write buffer) = (.error error, buffer) := by rw [Request.write, e]
      rw [Appends]
      rw [show (Writer.request request).write buffer = _ from refused]
      obtain ⟨sql, binds, options, rfl, many⟩ := Request.execute_of_refused e
      refine ⟨rfl, ?_, sql, binds, options, rfl, many⟩
      rw [frame?, e]
      rfl
    · refine whole frame ?_ ?_
      · rw [frame?, e]
        rfl
      · show request.write buffer = _
        rw [Request.write, e]

/-- The buffer is a row of frames. -/
theorem writeAll_eq (writers : List Writer) (buffer : Bytes) :
    writeAll writers buffer = buffer ++ (writers.filterMap frame?).flatMap Frame.encode := by
  induction writers generalizing buffer with
  | nil => simp [writeAll]
  | cons writer writers ih =>
    show writeAll writers (writer.write buffer).2 = _
    rw [ih, write_snd, List.append_assoc]
    cases e : writer.frame? with
    | none => simp [e]
    | some frame => simp [e]

end Writer

end ProxyClient
