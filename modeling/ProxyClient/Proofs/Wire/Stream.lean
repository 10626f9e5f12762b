/-
ProxyClient/Proofs/Wire/Stream.lean

Sources that hand out one byte string, in pieces and in order.  `unread s`
is what such a source still holds; how it is cut into reads does not matter.

A frame is read exactly when it stands in front of the unread bytes:

    readFrame s = (.frame f, s')  →  unread s = f.encode ++ unread s'
    unread s = f.encode ++ rest   →  readFrame s = (.frame f, s'), unread s' = rest

The first direction says that nothing is read beyond a frame, the second that
no frame is missed.  A frame that is cut off uses up the source: nothing is
unread afterwards.
-/
import ProxyClient.Disk.Stream
import ProxyClient.Network.Transport

namespace ProxyClient

/-! ### Frames as bytes -/

namespace Frame

/-- The length field can tell the length of the frame. -/
def Fits (frame : Frame) : Prop :=
  frame.payload.length + 4 < 2 ^ 32

instance (frame : Frame) : Decidable frame.Fits := by
  unfold Fits; infer_instance

theorem encode_cons (frame : Frame) :
    frame.encode =
      frame.type :: (Bytes.bigEndian 4 (frame.payload.length + 4) ++ frame.payload) := rfl

theorem length_encode (frame : Frame) : frame.encode.length = frame.payload.length + 5 := by
  simp only [encode_cons, List.length_cons, List.length_append, Bytes.length_bigEndian]
  omega

theorem encode_ne_nil (frame : Frame) : frame.encode ≠ [] := by
  simp [encode_cons]

/-- The length bytes of a frame that fits announce its payload. -/
theorem payloadLength_bigEndian {n : Nat} (h : n + 4 < 2 ^ 32) :
    payloadLength (Bytes.bigEndian 4 (n + 4)) = .ok n := by
  have e : Bytes.ofBigEndian (Bytes.bigEndian 4 (n + 4)) = n + 4 := by
    rw [Bytes.ofBigEndian_bigEndian]
    omega
  have low : ¬ n + 4 < 4 := by omega
  simp [payloadLength, e, low]

/-- Four bytes that announce a payload are the length bytes of a frame that fits. -/
theorem bigEndian_of_payloadLength {length : Bytes} {n : Nat} (four : length.length = 4)
    (h : payloadLength length = .ok n) :
    n + 4 < 2 ^ 32 ∧ length = Bytes.bigEndian 4 (n + 4) := by
  have digits := Bytes.bigEndian_ofBigEndian length
  have few := Bytes.ofBigEndian_lt length
  rw [four] at digits few
  unfold payloadLength at h
  simp only at h
  split at h
  · simp at h
  · obtain rfl := Except.ok.inj h
    have number : Bytes.ofBigEndian length - 4 + 4 = Bytes.ofBigEndian length := by omega
    refine ⟨by omega, ?_⟩
    rw [number, digits]

/-- Where frames follow each other, the bytes tell them apart. -/
theorem encode_append_inj {f g : Frame} (hf : f.Fits) (hg : g.Fits) {rest rest' : Bytes}
    (h : f.encode ++ rest = g.encode ++ rest') : f = g ∧ rest = rest' := by
  obtain ⟨t, p⟩ := f
  obtain ⟨t', p'⟩ := g
  simp only [Fits] at hf hg
  simp only [encode_cons, List.cons_append, List.append_assoc, List.cons.injEq] at h
  obtain ⟨rfl, h⟩ := h
  obtain ⟨lengths, h⟩ := List.append_inj h (by simp)
  have lengths' := congrArg payloadLength lengths
  rw [payloadLength_bigEndian hf, payloadLength_bigEndian hg] at lengths'
  obtain ⟨rfl, rfl⟩ := List.append_inj h (Except.ok.inj lengths')
  exact ⟨rfl, rfl⟩

/-- Where a frame is announced, four bytes behind its type tell the length of its
payload. -/
theorem announced_of_encode {f : Frame} (fits : f.Fits) {type : UInt8}
    {length bytes rest : Bytes} (four : length.length = 4)
    (h : f.encode ++ rest = [type] ++ (length ++ bytes)) :
    payloadLength length = .ok f.payload.length ∧ bytes = f.payload ++ rest := by
  rw [encode_cons] at h
  simp only [List.cons_append, List.nil_append, List.append_assoc, List.cons.injEq] at h
  obtain ⟨rfl, tail⟩ := List.append_inj h.2.symm (by simp [four])
  exact ⟨payloadLength_bigEndian fits, tail⟩

/-- Some of the bytes of a frame, from its beginning, but not all. -/
def Torn (bytes : Bytes) : Prop :=
  ∃ frame : Frame, ∃ lost : Bytes, frame.Fits ∧ lost ≠ [] ∧ frame.encode = bytes ++ lost

/-- What is torn holds no frame. -/
theorem Torn.ne_encode_append {bytes : Bytes} (torn : Torn bytes) {frame : Frame}
    (fits : frame.Fits) (rest : Bytes) : bytes ≠ frame.encode ++ rest := by
  rintro rfl
  obtain ⟨g, lost, hg, nonempty, e⟩ := torn
  rw [List.append_assoc] at e
  have e' : g.encode ++ [] = frame.encode ++ (rest ++ lost) := by rw [List.append_nil, e]
  obtain ⟨-, h⟩ := encode_append_inj hg fits e'
  exact nonempty (List.append_eq_nil_iff.mp h.symm).2

end Frame

/-! ### Faithful sources -/

/-- A source that hands out one byte string in order, and fails only behind it. -/
class FaithfulSource (σ : Type) [ByteSource σ] where
  /-- The bytes that are still to be handed out. -/
  unread : σ → Bytes
  /-- What is read was in front. -/
  read_data : ∀ {s s' : σ} {n : Nat} {bytes : Bytes},
    ByteSource.read s n = (.data bytes, s') → unread s = bytes ++ unread s' ∧ bytes.length ≤ n
  /-- Nothing is read only where nothing is left. -/
  read_nil : ∀ {s s' : σ} {n : Nat},
    ByteSource.read s n = (.data [], s') → n ≠ 0 → unread s = []
  /-- An interruption loses nothing. -/
  read_interrupted : ∀ {s s' : σ} {n : Nat},
    ByteSource.read s n = (.interrupted, s') → unread s' = unread s
  /-- Before a failure everything was read. -/
  read_failed : ∀ {s s' : σ} {n : Nat} {e : IoError},
    ByteSource.read s n = (.failed e, s') → unread s = [] ∧ unread s' = []

namespace FaithfulSource

variable {σ : Type} [ByteSource σ] [FaithfulSource σ]

theorem readSome_ok {s s' : σ} {n : Nat} {bytes : Bytes}
    (h : ByteSource.readSome s n = (.ok bytes, s')) :
    unread s = bytes ++ unread s' ∧ bytes.length ≤ n ∧ (bytes = [] → n ≠ 0 → unread s = []) := by
  fun_induction ByteSource.readSome s n with
  | case1 s bytes₁ s₁ e =>
    obtain ⟨hb, rfl⟩ := Prod.mk.inj h
    obtain rfl := Except.ok.inj hb
    refine ⟨(read_data e).1, (read_data e).2, ?_⟩
    rintro rfl
    exact read_nil e
  | case2 s e₁ s₁ e => simp at h
  | case3 s s₁ e _ ih =>
    rw [← read_interrupted e]
    exact ih h

/-- A byte that is read alone stood in front. -/
theorem readSome_first {s s' : σ} {byte : UInt8} {more : Bytes}
    (h : ByteSource.readSome s 1 = (.ok (byte :: more), s')) :
    more = [] ∧ unread s = [byte] ++ unread s' := by
  obtain ⟨front, short, -⟩ := readSome_ok h
  obtain rfl : more = [] := List.length_eq_zero_iff.mp (Nat.le_zero.mp (Nat.le_of_succ_le_succ short))
  exact ⟨rfl, front⟩

theorem readSome_error {s s' : σ} {n : Nat} {e : IoError}
    (h : ByteSource.readSome s n = (.error e, s')) : unread s = [] ∧ unread s' = [] := by
  fun_induction ByteSource.readSome s n with
  | case1 s bytes₁ s₁ he => simp at h
  | case2 s e₁ s₁ he =>
    obtain ⟨-, rfl⟩ := Prod.mk.inj h
    exact read_failed he
  | case3 s s₁ he _ ih =>
    rw [← read_interrupted he]
    exact ih h

/-- Bytes that were asked for exactly were in front. -/
theorem readExact_ok {s s' : σ} {n : Nat} {bytes : Bytes}
    (h : ByteSource.readExact s n = (.ok bytes, s')) :
    bytes.length = n ∧ unread s = bytes ++ unread s' := by
  fun_induction ByteSource.readExact s n generalizing bytes with
  | case1 s =>
    obtain ⟨hb, rfl⟩ := Prod.mk.inj h
    obtain rfl := Except.ok.inj hb
    exact ⟨rfl, rfl⟩
  | case2 | case3 | case4 => simp at h
  | case5 s n _ byte more s₁ e rest s₂ e' ih =>
    obtain ⟨hb, rfl⟩ := Prod.mk.inj h
    obtain rfl := Except.ok.inj hb
    obtain ⟨front, short, -⟩ := readSome_ok e
    obtain ⟨hl, hr⟩ := ih e'
    simp only [List.length_cons] at short
    refine ⟨by simp only [List.length_append, List.length_cons, hl]; omega, ?_⟩
    rw [front, hr, List.append_assoc]

/-- Bytes cannot be read exactly only where fewer are left, and these are lost then. -/
theorem readExact_error {s s' : σ} {n : Nat} {e : IoError}
    (h : ByteSource.readExact s n = (.error e, s')) :
    (unread s).length < n ∧ unread s' = [] := by
  fun_induction ByteSource.readExact s n generalizing e with
  | case1 => simp at h
  | case2 s n nonzero e₁ s₁ he =>
    obtain ⟨-, rfl⟩ := Prod.mk.inj h
    obtain ⟨none, none'⟩ := readSome_error he
    exact ⟨by rw [none]; exact Nat.pos_of_ne_zero nonzero, none'⟩
  | case3 s n nonzero s₁ he =>
    obtain ⟨-, rfl⟩ := Prod.mk.inj h
    obtain ⟨front, -, none⟩ := readSome_ok he
    have empty := none rfl nonzero
    refine ⟨by rw [empty]; exact Nat.pos_of_ne_zero nonzero, ?_⟩
    rw [empty] at front
    exact (List.append_eq_nil_iff.mp front.symm).2
  | case4 s n _ byte more s₁ he e₁ s₂ he' ih =>
    obtain ⟨-, rfl⟩ := Prod.mk.inj h
    obtain ⟨front, short, -⟩ := readSome_ok he
    obtain ⟨hl, hr⟩ := ih he'
    simp only [List.length_cons] at short
    refine ⟨?_, hr⟩
    rw [front]
    simp only [List.length_append, List.length_cons]
    omega
  | case5 => simp at h

/-! ### Frames from a faithful source -/

/-- A frame that was read stood in front. -/
theorem encode_of_readFrame {s s' : σ} {f : Frame} (h : readFrame s = (.frame f, s')) :
    f.Fits ∧ unread s = f.encode ++ unread s' := by
  unfold readFrame at h
  split at h
  · simp at h
  · simp at h
  · -- the type, the length and the payload, each behind the one before
    next type more s₁ e₁ =>
    obtain ⟨rfl, front⟩ := readSome_first e₁
    split at h
    · simp at h
    · next length s₂ e₂ =>
      obtain ⟨four, front₂⟩ := readExact_ok e₂
      split at h
      · simp at h
      · next count e₃ =>
        obtain ⟨fits, rfl⟩ := Frame.bigEndian_of_payloadLength four e₃
        split at h
        · simp at h
        · next payload s₃ e₄ =>
          obtain ⟨rfl, front₃⟩ := readExact_ok e₄
          obtain ⟨hf, rfl⟩ := Prod.mk.inj h
          obtain rfl := FrameRead.frame.inj hf
          refine ⟨fits, ?_⟩
          rw [front, front₂, front₃]
          simp [Frame.encode_cons]

/-- The input ends only where nothing is left. -/
theorem unread_of_readFrame_ended {s s' : σ} (h : readFrame s = (.ended, s')) :
    unread s = [] ∧ unread s' = [] := by
  unfold readFrame at h
  split at h
  · simp at h
  · -- only a source that has nothing left ends in front of a frame
    next s₁ e₁ =>
    obtain ⟨-, rfl⟩ := Prod.mk.inj h
    obtain ⟨front, -, none⟩ := readSome_ok e₁
    have empty := none rfl (by decide)
    rw [empty] at front
    exact ⟨empty, (List.append_eq_nil_iff.mp front.symm).2⟩
  · split at h
    · simp at h
    · split at h
      · simp at h
      · split at h <;> simp at h

/-- A frame that could not be read was not there, and the connection is at fault. -/
theorem readFrame_failed {s s' : σ} {t : Option UInt8} {e : Error}
    (h : readFrame s = (.failed t e, s')) :
    e.breaksConnection = true ∧
      (∀ (f : Frame) (rest : Bytes), f.Fits → unread s ≠ f.encode ++ rest) ∧
      (Frame.Torn (unread s) → unread s' = []) := by
  unfold readFrame at h
  split at h
  · -- there was nothing at all
    next e₀ s₁ e₁ =>
    obtain ⟨hf, rfl⟩ := Prod.mk.inj h
    obtain ⟨-, rfl⟩ := FrameRead.failed.inj hf
    obtain ⟨empty, empty'⟩ := readSome_error e₁
    refine ⟨rfl, fun f rest _ hu => ?_, fun _ => empty'⟩
    rw [empty] at hu
    exact f.encode_ne_nil (List.append_eq_nil_iff.mp hu.symm).1
  · simp at h
  · next type more s₁ e₁ =>
    obtain ⟨rfl, front⟩ := readSome_first e₁
    split at h
    · -- the length is cut off
      next e₀ s₂ e₂ =>
      obtain ⟨hf, rfl⟩ := Prod.mk.inj h
      obtain ⟨-, rfl⟩ := FrameRead.failed.inj hf
      obtain ⟨few, empty⟩ := readExact_error e₂
      refine ⟨rfl, fun f rest _ hu => ?_, fun _ => empty⟩
      have lengths := congrArg List.length (front.symm.trans hu)
      simp only [List.length_append, List.length_cons, List.length_nil, Frame.length_encode]
        at lengths
      omega
    · next length s₂ e₂ =>
      obtain ⟨four, front₂⟩ := readExact_ok e₂
      rw [front₂] at front
      split at h
      · -- no frame announces such a length
        next fault e₃ =>
        obtain ⟨hf, rfl⟩ := Prod.mk.inj h
        obtain ⟨-, rfl⟩ := FrameRead.failed.inj hf
        refine ⟨rfl, fun f rest fits hu => ?_, fun torn => ?_⟩
        · rw [(Frame.announced_of_encode fits four (hu.symm.trans front)).1] at e₃
          contradiction
        · -- also a frame that is torn behind its length was announced
          obtain ⟨f, lost, fits, -, e⟩ := torn
          rw [front, ← List.append_nil f.encode, List.append_assoc, List.append_assoc] at e
          rw [(Frame.announced_of_encode fits four e).1] at e₃
          contradiction
      · next count e₃ =>
        split at h
        · -- the payload is cut off
          next e₀ s₃ e₄ =>
          obtain ⟨hf, rfl⟩ := Prod.mk.inj h
          obtain ⟨-, rfl⟩ := FrameRead.failed.inj hf
          obtain ⟨few, empty⟩ := readExact_error e₄
          refine ⟨rfl, fun f rest fits hu => ?_, fun _ => empty⟩
          obtain ⟨hl, hr⟩ := Frame.announced_of_encode fits four (hu.symm.trans front)
          obtain rfl := Except.ok.inj (e₃.symm.trans hl)
          rw [hr, List.length_append] at few
          omega
        · simp at h

/-- The frame in front is the one that is read. -/
theorem readFrame_of_encode {s : σ} {f : Frame} {rest : Bytes} (fits : f.Fits)
    (h : unread s = f.encode ++ rest) :
    ∃ s', readFrame s = (.frame f, s') ∧ unread s' = rest := by
  rcases e : readFrame s with ⟨g | _ | ⟨t, err⟩, s'⟩
  · obtain ⟨gfits, hg⟩ := encode_of_readFrame e
    obtain ⟨rfl, rfl⟩ := Frame.encode_append_inj gfits fits (hg.symm.trans h)
    exact ⟨s', rfl, rfl⟩
  · rw [(unread_of_readFrame_ended e).1] at h
    exact absurd (List.append_eq_nil_iff.mp h.symm).1 f.encode_ne_nil
  · exact absurd h ((readFrame_failed e).2.1 f rest fits)

/-- Where a frame is cut off, none is read, and nothing is left. -/
theorem readFrame_of_torn {s : σ} (h : Frame.Torn (unread s)) :
    ∃ s', unread s' = [] ∧
      (readFrame s = (.ended, s') ∨
        ∃ t e, readFrame s = (.failed t e, s') ∧ e.breaksConnection = true) := by
  rcases e : readFrame s with ⟨g | _ | ⟨t, err⟩, s'⟩
  · obtain ⟨fits, hg⟩ := encode_of_readFrame e
    exact absurd hg (h.ne_encode_append fits _)
  · obtain ⟨-, empty⟩ := unread_of_readFrame_ended e
    exact ⟨s', empty, .inl rfl⟩
  · obtain ⟨breaks, -, gone⟩ := readFrame_failed e
    exact ⟨s', gone h, .inr ⟨t, err, rfl, breaks⟩⟩

end FaithfulSource

/-! ### What every read keeps -/

namespace ByteSource

variable {σ : Type} [ByteSource σ] {P : σ → Prop}

theorem readSome_keeps (keeps : ∀ s n, P s → P (read s n).2) (s : σ) (n : Nat) (h : P s) :
    P (readSome s n).2 := by
  fun_induction readSome s n with
  | case1 s bytes s' e => simpa [e] using keeps s n h
  | case2 s e' s' e => simpa [e] using keeps s n h
  | case3 s s' e _ ih => exact ih (by simpa [e] using keeps s n h)

theorem readExact_keeps (keeps : ∀ s n, P s → P (read s n).2) (s : σ) (n : Nat) (h : P s) :
    P (readExact s n).2 := by
  fun_induction readExact s n with
  | case1 => exact h
  | case2 s n _ e' s' e => simpa [e] using readSome_keeps keeps s n h
  | case3 s n _ s' e => simpa [e] using readSome_keeps keeps s n h
  | case4 s n _ byte more s' e e' s'' he ih =>
    simpa [he] using ih (by simpa [e] using readSome_keeps keeps s n h)
  | case5 s n _ byte more s' e rest s'' he ih =>
    simpa [he] using ih (by simpa [e] using readSome_keeps keeps s n h)

/-- What every read keeps, the reading of a frame keeps. -/
theorem readFrame_keeps (keeps : ∀ s n, P s → P (read s n).2) (s : σ) (h : P s) :
    P (readFrame s).2 := by
  rw [readFrame]
  have h₁ := readSome_keeps keeps s 1 h
  split
  · next e => simpa [e] using h₁
  · next e => simpa [e] using h₁
  · next s₁ e =>
    have h₂ := readExact_keeps keeps s₁ 4 (by simpa [e] using h₁)
    split
    · next e' => simpa [e'] using h₂
    · next s₂ e' =>
      split
      · simpa [e'] using h₂
      · next count _ =>
        have h₃ := readExact_keeps keeps s₂ count (by simpa [e'] using h₂)
        split
        · next e'' => simpa [e''] using h₃
        · next e'' => simpa [e''] using h₃

end ByteSource

/-! ### Links and open files -/

instance : FaithfulSource Inbox where
  unread inbox := inbox.bytes
  read_data := by
    intro s s' n bytes h
    simp only [ByteSource.read, Inbox.read] at h
    split at h
    · simp at h
    · obtain ⟨hb, rfl⟩ := Prod.mk.inj h
      obtain rfl := ReadOutcome.data.inj hb
      exact ⟨(List.take_append_drop n s.bytes).symm, List.length_take_le n s.bytes⟩
  read_nil := by
    intro s s' n h nonzero
    simp only [ByteSource.read, Inbox.read] at h
    split at h
    · simp at h
    · have none := ReadOutcome.data.inj (Prod.mk.inj h).1
      rcases List.take_eq_nil_iff.mp none with zero | empty
      · exact absurd zero nonzero
      · exact empty
  read_interrupted := by
    intro s s' n h
    simp only [ByteSource.read, Inbox.read] at h
    split at h <;> simp at h
  read_failed := by
    intro s s' n e h
    simp only [ByteSource.read, Inbox.read] at h
    split at h
    · next empty =>
      simp only [Bool.and_eq_true, List.isEmpty_iff] at empty
      obtain ⟨-, rfl⟩ := Prod.mk.inj h
      exact ⟨empty.1, empty.1⟩
    · simp at h

/-- A link that was not given up is not given up by reading. -/
theorem Inbox.reset_readFrame {inbox : Inbox} (h : inbox.reset = false) :
    (readFrame inbox).2.reset = false := by
  refine ByteSource.readFrame_keeps (P := fun inbox : Inbox => inbox.reset = false) ?_ inbox h
  intro s n hs
  simp only [ByteSource.read, Inbox.read]
  split <;> simp [hs]

instance : FaithfulSource InputView where
  unread view := view.file.buffered ++ view.bytes.drop view.file.position
  read_data := by
    intro view view' n bytes h
    simp only [ByteSource.read, InputView.read] at h
    split at h
    · next empty =>
      obtain ⟨hb, rfl⟩ := Prod.mk.inj h
      obtain rfl := ReadOutcome.data.inj hb
      refine ⟨?_, by simp only [List.length_take]; omega⟩
      rw [List.isEmpty_iff.mp empty, List.nil_append, ← List.append_assoc, List.take_append_drop,
        ← List.drop_drop]
      generalize view.bytes.drop view.file.position = rest
      -- a block may be shorter than it was asked to be
      have behind := calc rest.drop (rest.take (max n bufferSize)).length
        _ = (rest.take (max n bufferSize) ++ rest.drop (max n bufferSize)).drop
              (rest.take (max n bufferSize)).length := by rw [List.take_append_drop]
        _ = rest.drop (max n bufferSize) := List.drop_left
      rw [behind]
      exact (List.take_append_drop _ rest).symm
    · obtain ⟨hb, rfl⟩ := Prod.mk.inj h
      obtain rfl := ReadOutcome.data.inj hb
      refine ⟨?_, List.length_take_le ..⟩
      rw [← List.append_assoc, List.take_append_drop]
  read_nil := by
    intro view view' n h nonzero
    simp only [ByteSource.read, InputView.read] at h
    split at h
    · next empty =>
      have none := ReadOutcome.data.inj (Prod.mk.inj h).1
      simp only [List.take_eq_nil_iff, nonzero, false_or] at none
      have large : max n bufferSize ≠ 0 := by omega
      rw [List.isEmpty_iff.mp empty, List.nil_append]
      exact none.resolve_left large
    · next nonempty =>
      have none := ReadOutcome.data.inj (Prod.mk.inj h).1
      rcases List.take_eq_nil_iff.mp none with zero | empty
      · exact absurd zero nonzero
      · exact absurd (List.isEmpty_iff.mpr empty) nonempty
  read_interrupted := by
    intro view view' n h
    simp only [ByteSource.read, InputView.read] at h
    split at h <;> simp at h
  read_failed := by
    intro view view' n e h
    simp only [ByteSource.read, InputView.read] at h
    split at h <;> simp at h

/-- A view is of the same file with the same bytes as another. -/
def InputView.SameFile (view other : InputView) : Prop :=
  other.bytes = view.bytes ∧ other.file.id = view.file.id

/-- A file stays the same while it is read. -/
theorem InputView.sameFile_read (view other : InputView) (n : Nat) (same : view.SameFile other) :
    view.SameFile (ByteSource.read other n).2 := by
  simp only [ByteSource.read, InputView.read]
  split <;> exact same

theorem InputView.sameFile_readExact (view : InputView) (n : Nat) :
    view.SameFile (ByteSource.readExact view n).2 :=
  ByteSource.readExact_keeps view.sameFile_read view n ⟨rfl, rfl⟩

theorem InputView.sameFile_readFrame (view : InputView) : view.SameFile (readFrame view).2 :=
  ByteSource.readFrame_keeps view.sameFile_read view ⟨rfl, rfl⟩

end ProxyClient
