/-
ProxyClient/Proofs/Wire/Framing.lean

Messages that were written into one buffer are read back one by one, however
the bytes of the buffer are delivered, and however few of them.

The buffer is a row of frames.  Reading does not depend on how the bytes come
in pieces: deliveries without failures are a source that is faithful to the
bytes they are made of.  A read from a list of deliveries is a read from this
source, so that what holds of faithful sources is carried over by
`ByteSource.readFrames_map`.

What repeated reading brings is told by `cutReads` from the frames and the
number of bytes that arrive: the frames that arrive whole, and an error for
one that does not.
-/
import Mathlib.Data.List.TakeDrop
import ProxyClient.Proofs.Message.Writing

namespace ProxyClient

/-! ### The same reads from another source -/

namespace ByteSource

variable {σ τ : Type} [ByteSource σ] [ByteSource τ]

/-- A read from the image of a source is the image of a read from the source. -/
def Commutes (f : σ → τ) : Prop :=
  ∀ s n, read (f s) n = ((read s n).1, f (read s n).2)

variable {f : σ → τ}

theorem readSome_map (h : Commutes f) (s : σ) (n : Nat) :
    readSome (f s) n = ((readSome s n).1, f (readSome s n).2) := by
  fun_induction readSome s n with
  | case1 s bytes s' e =>
    have there := h s n
    rw [e] at there
    rw [readSome]
    split <;> simp_all
  | case2 s error s' e =>
    have there := h s n
    rw [e] at there
    rw [readSome]
    split <;> simp_all
  | case3 s s' e _ ih =>
    have there := h s n
    rw [e] at there
    rw [readSome]
    split <;> simp_all

theorem readExact_map (h : Commutes f) (s : σ) (n : Nat) :
    readExact (f s) n = ((readExact s n).1, f (readExact s n).2) := by
  fun_induction readExact s n with
  | case1 s => rw [readExact, if_pos rfl]
  | case2 s n nonzero error s' e =>
    rw [readExact, if_neg nonzero, readSome_map h, e]
  | case3 s n nonzero s' e =>
    rw [readExact, if_neg nonzero, readSome_map h, e]
  | case4 s n nonzero byte bytes s' e error s'' e' ih =>
    rw [readExact, if_neg nonzero, readSome_map h, e]
    simp only [ih, e']
  | case5 s n nonzero byte bytes s' e rest s'' e' ih =>
    rw [readExact, if_neg nonzero, readSome_map h, e]
    simp only [ih, e']

theorem readFrame_map (h : Commutes f) (s : σ) :
    readFrame (f s) = ((readFrame s).1, f (readFrame s).2) := by
  rw [readFrame, readFrame, readSome_map h]
  rcases readSome s 1 with ⟨_ | _ | ⟨type, more⟩, s₁⟩
  · rfl
  · rfl
  · simp only [readExact_map h s₁ 4]
    rcases readExact s₁ 4 with ⟨_ | length, s₂⟩
    · rfl
    · simp only
      cases Frame.payloadLength length with
      | error fault => rfl
      | ok count =>
        simp only [readExact_map h s₂ count]
        rcases readExact s₂ count with ⟨_ | payload, s₃⟩ <;> rfl

/-- Both sources bring the same frames. -/
theorem readFrames_map (h : Commutes f) (s : σ) (calls : Nat) :
    readFrames (f s) calls = readFrames s calls := by
  induction calls generalizing s with
  | zero => rfl
  | succ calls ih =>
    rw [readFrames, readFrames, readFrame_map h]
    simp only [ih]

end ByteSource

/-! ### Sources that never fail -/

namespace ByteSource

variable {σ : Type} [ByteSource σ]

/-- A source that no read fails on. -/
def Unfailing (σ : Type) [ByteSource σ] : Prop :=
  ∀ (s : σ) (n : Nat) (error : IoError) (s' : σ), read s n ≠ (.failed error, s')

theorem readSome_ne_error (unfailing : Unfailing σ) (s : σ) (n : Nat) (error : IoError) (s' : σ) :
    readSome s n ≠ (.error error, s') := by
  fun_induction readSome s n with
  | case1 => simp
  | case2 s error₁ s₁ e => exact absurd e (unfailing s n error₁ s₁)
  | case3 s s₁ e _ ih => exact ih

/-- Where nothing fails, the end of the input is the only error. -/
theorem eq_unexpectedEnd_of_readExact (unfailing : Unfailing σ) {s s' : σ} {n : Nat}
    {error : IoError} (h : readExact s n = (.error error, s')) :
    error = .unexpectedEnd := by
  fun_induction readExact s n generalizing error with
  | case1 => simp at h
  | case2 s n nonzero error₁ s₁ e => exact absurd e (readSome_ne_error unfailing s n error₁ s₁)
  | case3 => exact (Except.error.inj (Prod.mk.inj h).1).symm
  | case4 s n _ byte more s₁ e error₁ s₂ e' ih =>
    obtain ⟨same, rfl⟩ := Prod.mk.inj h
    exact Except.error.inj same ▸ ih e'
  | case5 => simp at h

end ByteSource

/-! ### Deliveries without failures -/

namespace Delivery

/-- Some bytes arrive, or the read may be tried again. -/
def Steady : Delivery → Prop
  | .bytes arrived => arrived ≠ []
  | .interruption => True
  | .failure _ => False

instance (delivery : Delivery) : Decidable delivery.Steady := by
  cases delivery <;> unfold Steady <;> infer_instance

/-- The bytes that arrive. -/
def arriving : Delivery → Bytes
  | .bytes arrived => arrived
  | _ => []

/-- What is left of steady deliveries is steady. -/
theorem steady_read {deliveries : List Delivery} (steady : ∀ d ∈ deliveries, d.Steady) (n : Nat) :
    ∀ d ∈ (read deliveries n).2, d.Steady := by
  match deliveries, steady with
  | [], _ => simp [read]
  | .interruption :: rest, steady => exact fun d member => steady d (List.mem_cons_of_mem _ member)
  | .failure error :: rest, steady => exact fun d member => steady d (List.mem_cons_of_mem _ member)
  | .bytes arrived :: rest, steady =>
    have later : ∀ d ∈ rest, d.Steady := fun d member => steady d (List.mem_cons_of_mem _ member)
    simp only [read]
    split
    · exact later
    · next long =>
      intro d member
      rcases List.mem_cons.mp member with rfl | member
      · show arrived.drop n ≠ []
        rw [ne_eq, List.drop_eq_nil_iff]
        exact long
      · exact later d member

end Delivery

/-- Deliveries none of which is a failure or empty. -/
structure SteadyDeliveries where
  /-- The deliveries. -/
  list : List Delivery
  /-- Each of them is steady. -/
  steady : ∀ d ∈ list, d.Steady

namespace SteadyDeliveries

/-- Reads from the deliveries. -/
def read (s : SteadyDeliveries) (n : Nat) : ReadOutcome × SteadyDeliveries :=
  ((Delivery.read s.list n).1, ⟨(Delivery.read s.list n).2, Delivery.steady_read s.steady n⟩)

instance : ByteSource SteadyDeliveries where
  read := read
  remaining s := ByteSource.remaining s.list
  interruptions s := ByteSource.interruptions s.list
  remaining_add_le s n := ByteSource.remaining_add_le s.list n
  interruptions_lt := by
    intro s n s' h
    obtain ⟨outcome, rfl⟩ := Prod.mk.inj h
    exact ByteSource.interruptions_lt (Prod.ext outcome rfl)

theorem commutes_list : ByteSource.Commutes SteadyDeliveries.list := fun _ _ => rfl

/-- The bytes that are still to arrive. -/
def unread (s : SteadyDeliveries) : Bytes :=
  s.list.flatMap Delivery.arriving

/-- What a read does, by the delivery that comes next. -/
theorem read_cases (s : SteadyDeliveries) (n : Nat) :
    (s.unread = [] ∧ ∃ s', s.read n = (.data [], s') ∧ s'.unread = []) ∨
    (∃ s', s.read n = (.interrupted, s') ∧ s'.unread = s.unread) ∨
    ∃ bytes s', s.read n = (.data bytes, s') ∧ s.unread = bytes ++ s'.unread ∧
      bytes.length ≤ n ∧ (bytes = [] → n = 0) := by
  obtain ⟨deliveries, steady⟩ := s
  -- what arrives first decides
  match deliveries, steady with
  | [], _ => exact .inl ⟨rfl, _, rfl, rfl⟩
  | .interruption :: rest, _ => exact .inr (.inl ⟨_, rfl, rfl⟩)
  | .failure error :: rest, steady => exact (steady _ List.mem_cons_self).elim
  | .bytes arrived :: rest, steady =>
    have nonempty : arrived ≠ [] := steady _ List.mem_cons_self
    refine .inr (.inr ⟨arrived.take n, _, rfl, ?_, List.length_take_le .., ?_⟩)
    · show arrived ++ rest.flatMap Delivery.arriving =
        arrived.take n ++ (Delivery.read (.bytes arrived :: rest) n).2.flatMap Delivery.arriving
      rw [Delivery.read]
      split
      · next short => rw [List.take_of_length_le short]
      · rw [List.flatMap_cons, Delivery.arriving, ← List.append_assoc, List.take_append_drop]
    · intro none
      exact (List.take_eq_nil_iff.mp none).resolve_right nonempty

instance : FaithfulSource SteadyDeliveries where
  unread := unread
  read_data := by
    intro s s' n bytes h
    rcases s.read_cases n with ⟨empty, s₁, e, empty'⟩ | ⟨s₁, e, -⟩ | ⟨front, s₁, e, split, short, -⟩
    · obtain ⟨data, rfl⟩ := Prod.mk.inj (h.symm.trans e)
      obtain rfl := ReadOutcome.data.inj data
      exact ⟨by rw [empty, empty']; rfl, Nat.zero_le n⟩
    · simp [show s.read n = _ from h] at e
    · obtain ⟨data, rfl⟩ := Prod.mk.inj (h.symm.trans e)
      obtain rfl := ReadOutcome.data.inj data
      exact ⟨split, short⟩
  read_nil := by
    intro s s' n h nonzero
    rcases s.read_cases n with ⟨empty, -⟩ | ⟨s₁, e, -⟩ | ⟨front, s₁, e, -, -, zero⟩
    · exact empty
    · simp [show s.read n = _ from h] at e
    · obtain ⟨data, -⟩ := Prod.mk.inj (h.symm.trans e)
      obtain rfl := ReadOutcome.data.inj data
      exact absurd (zero rfl) nonzero
  read_interrupted := by
    intro s s' n h
    rcases s.read_cases n with ⟨-, s₁, e, -⟩ | ⟨s₁, e, same⟩ | ⟨front, s₁, e, -⟩
    · simp [show s.read n = _ from h] at e
    · obtain ⟨-, rfl⟩ := Prod.mk.inj (h.symm.trans e)
      exact same
    · simp [show s.read n = _ from h] at e
  read_failed := by
    intro s s' n error h
    rcases s.read_cases n with ⟨-, s₁, e, -⟩ | ⟨s₁, e, -⟩ | ⟨front, s₁, e, -⟩ <;>
      simp [show s.read n = _ from h] at e

end SteadyDeliveries

/-! ### Frames that are cut off -/

namespace FaithfulSource

open ByteSource (Unfailing)

variable {σ : Type} [ByteSource σ] [FaithfulSource σ]

/-- Bytes that are there can be read. -/
theorem readExact_of_le {s : σ} {n : Nat} (h : n ≤ (unread s).length) :
    ∃ s', ByteSource.readExact s n = (.ok ((unread s).take n), s') ∧
      unread s' = (unread s).drop n := by
  rcases e : ByteSource.readExact s n with ⟨error | bytes, s'⟩
  · exact absurd h (Nat.not_le.mpr (readExact_error e).1)
  · obtain ⟨length, split⟩ := readExact_ok e
    refine ⟨s', ?_, ?_⟩
    · rw [split, List.take_left' length]
    · rw [split, List.drop_left' length]

/-- More bytes than are there cannot be read. -/
theorem readExact_of_lt (unfailing : Unfailing σ) {s : σ} {n : Nat} (h : (unread s).length < n) :
    ∃ s', ByteSource.readExact s n = (.error .unexpectedEnd, s') ∧ unread s' = [] := by
  rcases e : ByteSource.readExact s n with ⟨error | bytes, s'⟩
  · rw [ByteSource.eq_unexpectedEnd_of_readExact unfailing e]
    exact ⟨s', rfl, (readExact_error e).2⟩
  · obtain ⟨length, split⟩ := readExact_ok e
    rw [split, List.length_append] at h
    omega

/-- Where a byte is there, it can be read. -/
theorem readSome_one (unfailing : Unfailing σ) {s : σ} {byte : UInt8} {rest : Bytes}
    (h : unread s = byte :: rest) :
    ∃ s', ByteSource.readSome s 1 = (.ok [byte], s') ∧ unread s' = rest := by
  rcases e : ByteSource.readSome s 1 with ⟨error | bytes, s'⟩
  · exact absurd e (ByteSource.readSome_ne_error unfailing s 1 error s')
  · cases bytes with
    | nil =>
      obtain ⟨-, -, none⟩ := readSome_ok e
      rw [none rfl (by decide)] at h
      contradiction
    | cons first more =>
      obtain ⟨rfl, front⟩ := readSome_first e
      rw [h] at front
      obtain ⟨rfl, rfl⟩ := List.cons.inj front
      exact ⟨s', rfl, rfl⟩

theorem readFrame_of_nil (unfailing : Unfailing σ) {s : σ} (h : unread s = []) :
    ∃ s', readFrame s = (.ended, s') ∧ unread s' = [] := by
  rcases e : ByteSource.readSome s 1 with ⟨error | bytes, s'⟩
  · exact absurd e (ByteSource.readSome_ne_error unfailing s 1 error s')
  · obtain ⟨front, -, -⟩ := readSome_ok e
    obtain ⟨rfl, empty⟩ := List.append_eq_nil_iff.mp (front.symm.trans h)
    exact ⟨s', by rw [readFrame, e], empty⟩

/-- A frame that is cut off is an error, and nothing is left behind it. -/
theorem readFrame_of_take (unfailing : Unfailing σ) {s : σ} {frame : Frame} {count : Nat}
    (fits : frame.Fits) (some : count ≠ 0) (short : count < frame.encode.length)
    (h : unread s = frame.encode.take count) :
    ∃ s', unread s' = [] ∧
      readFrame s =
        (.failed (if Frame.headerLength ≤ count then .some frame.type else none)
          (.io .unexpectedEnd), s') := by
  let length := Bytes.bigEndian 4 (frame.payload.length + 4)
  have four : length.length = 4 := Bytes.length_bigEndian ..
  obtain ⟨behind, rfl⟩ := Nat.exists_eq_succ_of_ne_zero some
  rw [Frame.encode_cons, List.take_succ_cons] at h
  obtain ⟨s₁, e₁, h₁⟩ := readSome_one unfailing h
  have size₁ : (unread s₁).length = behind := by
    rw [Frame.length_encode] at short
    rw [h₁, List.length_take, List.length_append, Bytes.length_bigEndian]
    omega
  rw [readFrame, e₁]
  simp only
  by_cases header : 4 ≤ behind
  · -- the header is whole, and the payload is not
    obtain ⟨s₂, e₂, h₂⟩ := readExact_of_le (s := s₁) (n := 4) (by omega)
    have announced : (unread s₁).take 4 = length := by
      rw [h₁, List.take_take, Nat.min_eq_left header, List.take_left' four]
    have size₂ : (unread s₂).length < frame.payload.length := by
      rw [Frame.length_encode] at short
      rw [h₂, List.length_drop]
      omega
    obtain ⟨s₃, e₃, h₃⟩ := readExact_of_lt unfailing size₂
    refine ⟨s₃, h₃, ?_⟩
    rw [if_pos (show Frame.headerLength ≤ behind + 1 by rw [Frame.headerLength]; omega)]
    simp only [e₂, announced, length, Frame.payloadLength_bigEndian fits, e₃]
  · obtain ⟨s₂, e₂, h₂⟩ := readExact_of_lt unfailing (s := s₁) (n := 4) (by omega)
    refine ⟨s₂, h₂, ?_⟩
    rw [if_neg (show ¬ Frame.headerLength ≤ behind + 1 by rw [Frame.headerLength]; omega)]
    simp only [e₂]

end FaithfulSource

/-- What is read where only the first `count` bytes of a row of frames arrive:
the frames that arrive whole and, if one is cut off inside, an error, which
knows the type of the frame if its header arrived. -/
def cutReads (count : Nat) : List Frame → List FrameRead
  | [] => []
  | frame :: frames =>
    if frame.encode.length ≤ count then
      .frame frame :: cutReads (count - frame.encode.length) frames
    else if count = 0 then []
    else
      [.failed (if Frame.headerLength ≤ count then some frame.type else none)
        (.io .unexpectedEnd)]

/-- Where all bytes arrive, all frames are read. -/
theorem cutReads_of_le {count : Nat} {frames : List Frame}
    (h : (frames.flatMap Frame.encode).length ≤ count) :
    cutReads count frames = frames.map .frame := by
  induction frames generalizing count with
  | nil => rfl
  | cons frame frames ih =>
    rw [List.flatMap_cons, List.length_append] at h
    have first : frame.encode.length ≤ count := by omega
    rw [cutReads, if_pos first, ih (by omega), List.map_cons]

/-- Repeated reading brings what the cut leaves, and then the end of the input. -/
theorem FaithfulSource.readFrames_of_take {σ : Type} [ByteSource σ] [FaithfulSource σ]
    (unfailing : ByteSource.Unfailing σ) {frames : List Frame} (fits : ∀ frame ∈ frames, frame.Fits)
    {s : σ} {count : Nat} (h : unread s = (frames.flatMap Frame.encode).take count)
    (calls : Nat) : readFrames s calls = (cutReads count frames).takeD calls .ended := by
  -- behind the last byte every call finds the end
  have empty : ∀ (calls : Nat) {s : σ}, unread s = [] →
      readFrames s calls = List.takeD calls [] .ended := by
    intro calls
    induction calls with
    | zero => intro s _; rfl
    | succ calls ih =>
      intro s none
      obtain ⟨s', e, none'⟩ := readFrame_of_nil unfailing none
      rw [readFrames, e]
      simp only [ih none', List.takeD_succ, List.head?_nil, Option.getD_none, List.tail_nil]
  induction frames generalizing s count calls with
  | nil => exact empty calls (by rw [h, List.flatMap_nil, List.take_nil])
  | cons frame frames ih =>
    cases calls with
    | zero => rfl
    | succ calls =>
      rw [List.flatMap_cons] at h
      by_cases whole : frame.encode.length ≤ count
      · -- the cut is behind this frame
        have front : unread s = frame.encode ++
            (frames.flatMap Frame.encode).take (count - frame.encode.length) := by
          rw [h, List.take_append, List.take_of_length_le whole]
        obtain ⟨s', e, rest⟩ := readFrame_of_encode (fits frame List.mem_cons_self) front
        have others := ih (fun other member => fits other (List.mem_cons_of_mem frame member))
          rest calls
        rw [readFrames, e, cutReads, if_pos whole]
        simp only [others, List.takeD_succ, List.head?_cons, Option.getD_some, List.tail_cons]
      · -- it is in this frame, or just in front of it
        have part : unread s = frame.encode.take count := by
          rw [h, List.take_append_of_le_length (Nat.le_of_not_le whole)]
        rw [readFrames, cutReads, if_neg whole]
        by_cases zero : count = 0
        · subst zero
          obtain ⟨s', e, none⟩ := readFrame_of_nil unfailing (part.trans List.take_zero)
          rw [e, if_pos rfl]
          simp only [empty calls none, List.takeD_succ, List.head?_nil, Option.getD_none,
            List.tail_nil]
        · obtain ⟨s', none, e⟩ := readFrame_of_take unfailing (fits frame List.mem_cons_self)
            zero (Nat.lt_of_not_le whole) part
          rw [e, if_neg zero]
          simp only [empty calls none, List.takeD_succ, List.head?_cons, Option.getD_some,
            List.tail_cons]

/-! ### Written and read -/

namespace SteadyDeliveries

theorem unfailing : ByteSource.Unfailing SteadyDeliveries := by
  intro s n error s' h
  rcases s.read_cases n with ⟨-, s₁, e, -⟩ | ⟨s₁, e, -⟩ | ⟨front, s₁, e, -⟩ <;>
    simp [show s.read n = _ from h] at e

/-- However the first bytes of a row of frames are delivered, the frames that
they hold are read. -/
theorem readFrames_of_take {frames : List Frame} (fits : ∀ frame ∈ frames, frame.Fits)
    {deliveries : List Delivery} (steady : ∀ d ∈ deliveries, d.Steady) {count : Nat}
    (h : deliveries.flatMap Delivery.arriving = (frames.flatMap Frame.encode).take count)
    (calls : Nat) : readFrames deliveries calls = (cutReads count frames).takeD calls .ended := by
  let source : SteadyDeliveries := ⟨deliveries, steady⟩
  calc readFrames deliveries calls
    _ = readFrames source calls := ByteSource.readFrames_map commutes_list source calls
    _ = (cutReads count frames).takeD calls .ended :=
      FaithfulSource.readFrames_of_take unfailing fits (s := source) h calls

end SteadyDeliveries

namespace Writer

/-- Messages that are written into one buffer are read back from its bytes.

Each call leaves what is in the buffer and appends one frame; a statement with
too many bind variables appends nothing.  If all the bytes of the buffer are
delivered, in whatever pieces and with whatever interruptions, repeated
reading brings these frames and then the end of the input.  If only the first
`count` bytes are, it brings the frames among them, an error if one is cut
off, and then the end of the input. -/
theorem read_written (writers : List Writer)
    (fits : ∀ writer ∈ writers, ∀ frame ∈ writer.frame?, frame.Fits) :
    (∀ writer ∈ writers, ∀ buffer, writer.Appends buffer) ∧
    (∀ deliveries : List Delivery, (∀ d ∈ deliveries, d.Steady) →
      deliveries.flatMap Delivery.arriving = writeAll writers [] →
      ∀ calls, readFrames deliveries calls =
        ((writers.filterMap frame?).map FrameRead.frame).takeD calls .ended) ∧
    ∀ (deliveries : List Delivery) (count : Nat), (∀ d ∈ deliveries, d.Steady) →
      deliveries.flatMap Delivery.arriving = (writeAll writers []).take count →
      ∀ calls, readFrames deliveries calls =
        (cutReads count (writers.filterMap frame?)).takeD calls .ended := by
  let frames := writers.filterMap frame?
  -- what is written are the frames, one behind the other
  have written : writeAll writers [] = frames.flatMap Frame.encode := writeAll_eq writers []
  have fit : ∀ frame ∈ frames, frame.Fits := by
    intro frame member
    obtain ⟨writer, among, same⟩ := List.mem_filterMap.mp member
    exact fits writer among frame same
  refine ⟨fun writer among buffer => writer.appends (fits writer among) buffer, ?_, ?_⟩
  · intro deliveries steady all calls
    have whole : deliveries.flatMap Delivery.arriving =
        (frames.flatMap Frame.encode).take (frames.flatMap Frame.encode).length := by
      rw [all, written, List.take_length]
    rw [SteadyDeliveries.readFrames_of_take fit steady whole calls,
      cutReads_of_le (Nat.le_refl _)]
  · intro deliveries count steady cut calls
    rw [written] at cut
    exact SteadyDeliveries.readFrames_of_take fit steady cut calls

/-- The second of two messages is cut off behind its header. -/
theorem read_written_torn :
    (∀ writer ∈ [request (.command .commit), message (.batchEnd ⟨true, 2⟩)],
      ∀ frame ∈ writer.frame?, frame.Fits) ∧
    readFrames [Delivery.bytes [99, 0], .interruption, .bytes [0, 0, 4, 67, 0, 0],
        .bytes [0, 13, 1]] 3 =
      [.frame ⟨99, []⟩, .failed (some 67) (.io .unexpectedEnd), .ended] :=
  have fits : ∀ writer ∈ [request (.command .commit), message (.batchEnd ⟨true, 2⟩)],
      ∀ frame ∈ writer.frame?, frame.Fits := by decide
  ⟨fits, (read_written _ fits).2.2 _ 11 (by decide) (by decide) 3⟩

end Writer

end ProxyClient
