/-
ProxyClient/Wire/Source.lean

Frames read from anything that hands out bytes piecewise: a connection, a
file, a list of deliveries.  A read may be interrupted, and is then tried
again; a source is interrupted only finitely often.

A frame is read as its type byte, its length and its payload.  The input may
end before the type byte; an end anywhere else is an error, and so a frame
is never delivered shortened.
-/
import ProxyClient.Wire.Frame

namespace ProxyClient

/-- What a single read brings. -/
inductive ReadOutcome where
  /-- Some bytes, at most as many as asked for; none at the end of the input. -/
  | data (bytes : Bytes)
  /-- Nothing, but the read may be tried again. -/
  | interrupted
  /-- A failure. -/
  | failed (error : IoError)
  deriving Repr

/-- The number of bytes that a read brings. -/
def ReadOutcome.size : ReadOutcome → Nat
  | .data bytes => bytes.length
  | _ => 0

/-- Something that hands out bytes piecewise, finitely many in all. -/
class ByteSource (σ : Type) where
  /-- Reads at most the given number of bytes. -/
  read : σ → Nat → ReadOutcome × σ
  /-- A bound on the bytes still to come. -/
  remaining : σ → Nat
  /-- A bound on the interruptions still to come. -/
  interruptions : σ → Nat
  /-- Bytes that were read no longer remain. -/
  remaining_add_le : ∀ s n, remaining (read s n).2 + (read s n).1.size ≤ remaining s
  /-- Each interruption uses up one. -/
  interruptions_lt :
    ∀ {s n s'}, read s n = (.interrupted, s') → interruptions s' < interruptions s

namespace ByteSource

variable {σ : Type} [ByteSource σ]

/-- Reads at most `n` bytes, trying again after interruptions. -/
def readSome (s : σ) (n : Nat) : Except IoError Bytes × σ :=
  match h : read s n with
  | (.data bytes, s') => (.ok bytes, s')
  | (.failed error, s') => (.error error, s')
  | (.interrupted, s') =>
    have := interruptions_lt h
    readSome s' n
termination_by interruptions s

/-- Reads exactly `n` bytes.  What was read before an error or the end of the
input is lost. -/
def readExact (s : σ) (n : Nat) : Except IoError Bytes × σ :=
  if n = 0 then (.ok [], s)
  else
    match readSome s n with
    | (.error error, s') => (.error error, s')
    | (.ok [], s') => (.error .unexpectedEnd, s')
    | (.ok (byte :: bytes), s') =>
      match readExact s' (n - (bytes.length + 1)) with
      | (.error error, s'') => (.error error, s'')
      | (.ok rest, s'') => (.ok (byte :: bytes ++ rest), s'')
termination_by n

/-- The number of bytes in what was read. -/
def sizeOf? : Except IoError Bytes → Nat
  | .ok bytes => bytes.length
  | .error _ => 0

/-- Bytes read after interruptions no longer remain either. -/
theorem remaining_readSome (s : σ) (n : Nat) :
    remaining (readSome s n).2 + sizeOf? (readSome s n).1 ≤ remaining s := by
  fun_induction readSome s n with
  | case1 s bytes s' h => simpa [h, ReadOutcome.size, sizeOf?] using remaining_add_le s n
  | case2 s error s' h => simpa [h, ReadOutcome.size, sizeOf?] using remaining_add_le s n
  | case3 s s' h _ ih =>
    have := remaining_add_le s n
    simp only [h, ReadOutcome.size, Nat.add_zero] at this
    omega

/-- Bytes read in several pieces no longer remain. -/
theorem remaining_readExact (s : σ) (n : Nat) :
    remaining (readExact s n).2 + sizeOf? (readExact s n).1 ≤ remaining s := by
  -- every piece that arrives is off what remains
  fun_induction readExact s n with
  | case1 => simp [sizeOf?]
  | case2 s n _ error s' h =>
    have := remaining_readSome s n
    simpa [h, sizeOf?] using this
  | case3 s n _ s' h =>
    have := remaining_readSome s n
    simpa [h, sizeOf?] using this
  | case4 s n _ byte bytes s' h error s'' h' ih =>
    have := remaining_readSome s n
    simp only [h, h', sizeOf?] at this ih ⊢
    omega
  | case5 s n _ byte bytes s' h rest s'' h' ih =>
    have := remaining_readSome s n
    simp only [h, h', sizeOf?, List.length_append] at this ih ⊢
    omega

end ByteSource

/-- What reading a frame brings. -/
inductive FrameRead where
  /-- A complete frame. -/
  | frame (frame : Frame)
  /-- The input ended before a type byte. -/
  | ended
  /-- The frame could not be read; `type` is its type if the header was complete. -/
  | failed (type : Option UInt8) (error : Error)
  deriving DecidableEq, Repr

/-- The type byte of the last complete header, `previous` being the one before. -/
def FrameRead.lastType (previous : UInt8) : FrameRead → UInt8
  | .frame f => f.type
  | .ended => previous
  | .failed type _ => type.getD previous

/-- Reads the next frame of a source. -/
def readFrame {σ : Type} [ByteSource σ] (s : σ) : FrameRead × σ :=
  match ByteSource.readSome s 1 with
  | (.error error, s) => (.failed none (.io error), s)
  | (.ok [], s) => (.ended, s)
  | (.ok (type :: _), s) =>
    match ByteSource.readExact s 4 with
    | (.error error, s) => (.failed none (.io error), s)
    | (.ok length, s) =>
      match Frame.payloadLength length with
      | .error fault => (.failed none (.wire fault), s)
      | .ok count =>
        match ByteSource.readExact s count with
        | (.error error, s) => (.failed (some type) (.io error), s)
        | (.ok payload, s) => (.frame ⟨type, payload⟩, s)

/-- What reading a frame brings, again and again. -/
def readFrames {σ : Type} [ByteSource σ] (s : σ) : Nat → List FrameRead
  | 0 => []
  | calls + 1 =>
    match readFrame s with
    | (found, s) => found :: readFrames s calls

/-- A frame that was read no longer remains. -/
theorem remaining_readFrame_lt {σ : Type} [ByteSource σ] {s s' : σ} {frame : Frame}
    (h : readFrame s = (.frame frame, s')) :
    ByteSource.remaining s' + frame.payload.length < ByteSource.remaining s := by
  unfold readFrame at h
  -- one byte at least is gone with the type
  have h₁ := ByteSource.remaining_readSome s 1
  split at h
  · simp at h
  · simp at h
  · next type more s₁ e₁ =>
    have h₂ := ByteSource.remaining_readExact s₁ 4
    split at h
    · simp at h
    · next length s₂ e₂ =>
      split at h
      · simp at h
      · next count e₃ =>
        have h₃ := ByteSource.remaining_readExact s₂ count
        split at h
        · simp at h
        · next payload s₃ e₄ =>
          obtain ⟨hf, rfl⟩ := Prod.mk.inj h
          obtain rfl := FrameRead.frame.inj hf
          simp only [e₁, e₂, e₄, ByteSource.sizeOf?, List.length_cons] at h₁ h₂ h₃
          show _ + payload.length < _
          omega

/-! ### Deliveries -/

/-- One event at the receiving end of a connection. -/
inductive Delivery where
  /-- These bytes arrive. -/
  | bytes (bytes : Bytes)
  /-- The next read is interrupted. -/
  | interruption
  /-- The next read fails. -/
  | failure (error : IoError)
  deriving Repr

namespace Delivery

/-- The number of bytes that arrive. -/
def size : Delivery → Nat
  | .bytes arrived => arrived.length
  | _ => 0

/-- Reads from a list of deliveries; a read never goes beyond one delivery. -/
def read : List Delivery → Nat → ReadOutcome × List Delivery
  | [], _ => (.data [], [])
  | .interruption :: rest, _ => (.interrupted, rest)
  | .failure error :: rest, _ => (.failed error, rest)
  | .bytes arrived :: rest, n =>
    (.data (arrived.take n), if arrived.length ≤ n then rest else .bytes (arrived.drop n) :: rest)

instance : ByteSource (List Delivery) where
  read := read
  remaining deliveries := deliveries.foldr (fun delivery rest => delivery.size + rest) 0
  interruptions := List.length
  remaining_add_le := by
    intro s n
    match s with
    | [] => simp [read, ReadOutcome.size]
    | .interruption :: rest => simp [read, ReadOutcome.size]
    | .failure error :: rest => simp [read, ReadOutcome.size]
    | .bytes arrived :: rest =>
      simp only [read, ReadOutcome.size, List.length_take, List.foldr_cons, size]
      split <;> simp <;> omega
  interruptions_lt := by
    intro s n s' h
    match s with
    | [] => simp [read] at h
    | .interruption :: rest => simp [read] at h; simp [h]
    | .failure error :: rest => simp [read] at h
    | .bytes arrived :: rest => simp [read] at h

end Delivery

end ProxyClient
