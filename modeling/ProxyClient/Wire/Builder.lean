/-
ProxyClient/Wire/Builder.lean

Messages written at the end of a buffer.  The length of a message is only
known once its fields are written, so its length field is held open at first
and filled in at the end.
-/
import ProxyClient.Wire.Frame

namespace ProxyClient

/-- A message that is being written at the end of a buffer. -/
structure MessageBuilder where
  /-- Everything that is in the buffer. -/
  buffer : Bytes
  /-- Where the length field of the message stands. -/
  start : Nat
  deriving DecidableEq, Repr

namespace MessageBuilder

/-- Begins a message: its type, and room for its length. -/
def new (buffer : Bytes) (type : UInt8) : MessageBuilder :=
  let typed := buffer ++ [type]
  ⟨typed ++ [0, 0, 0, 0], typed.length⟩

/-- Writes the bytes of a field. -/
def write (message : MessageBuilder) (field : Bytes) : MessageBuilder :=
  { message with buffer := message.buffer ++ field }

/-- Writes the bytes of several fields, one after another. -/
def writeAll (message : MessageBuilder) (fields : List Bytes) : MessageBuilder :=
  fields.foldl write message

/-- Ends the message: its length, modulo `2 ^ 32`, goes where room was left for it. -/
def finish (message : MessageBuilder) : Bytes :=
  message.buffer.take message.start ++
    Bytes.bigEndian 4 (message.buffer.length - message.start) ++
    message.buffer.drop (message.start + 4)

end MessageBuilder

/-- Writes a frame at the end of a buffer. -/
def Frame.write (frame : Frame) (buffer : Bytes) : Bytes :=
  ((MessageBuilder.new buffer frame.type).write frame.payload).finish

end ProxyClient
