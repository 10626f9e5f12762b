/-
ProxyClient/Wire/Frame.lean

Frames: a type byte, the length of what follows (four bytes, counting
themselves), and the payload.
-/
import ProxyClient.Wire.Codec

namespace ProxyClient

/-- One message: its type and its payload. -/
structure Frame where
  /-- The letter that tells the type. -/
  type : UInt8
  /-- Everything after the length. -/
  payload : Bytes
  deriving DecidableEq, Repr

namespace Frame

/-- The bytes in front of a payload. -/
def headerLength : Nat := 5

/-- The bytes of a frame.  The length field wraps at `2 ^ 32`. -/
def encode (frame : Frame) : Bytes :=
  frame.type :: Bytes.bigEndian 4 (frame.payload.length + 4) ++ frame.payload

/-- The payload length that the four length bytes announce. -/
def payloadLength (length : Bytes) : Except WireFault Nat :=
  let n := Bytes.ofBigEndian length
  if n < 4 then .error (.frameLength n) else .ok (n - 4)

/-- The type and payload length that the five bytes of a header announce. -/
def parseHeader : Decoder (UInt8 × Nat) := do
  let type ← Wire.u8
  let length ← Wire.take 4
  let payload ← (payloadLength length : Except WireFault Nat)
  return (type, payload)

end Frame

end ProxyClient
