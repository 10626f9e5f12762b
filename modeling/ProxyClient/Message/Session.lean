/-
ProxyClient/Message/Session.lean

What a server answers about the session as a whole: that it is open, parked,
asked about or in error.  Each message has a payload and a decoder; bytes
after the fields of a message are ignored.
-/
import ProxyClient.Wire.Frame

namespace ProxyClient

open Wire

namespace ServerMessage

/-- The type bytes of server messages. -/
inductive Kind where
  /-- The session is open. -/
  | sessionReady
  /-- The request failed. -/
  | error
  /-- The request succeeded. -/
  | ok
  /-- A single text. -/
  | value
  /-- The description of a result set. -/
  | describe
  /-- The values of output variables. -/
  | outputBinds
  /-- A row. -/
  | dataRow
  /-- The end of a batch of rows. -/
  | batchEnd
  /-- The session is parked. -/
  | suspended
  deriving DecidableEq, Repr

/-- The byte of a type. -/
def Kind.toByte : Kind → UInt8
  | sessionReady => 'K'.toUInt8
  | error => 'E'.toUInt8
  | ok => 'O'.toUInt8
  | value => 'V'.toUInt8
  | describe => 'T'.toUInt8
  | outputBinds => 'o'.toUInt8
  | dataRow => 'D'.toUInt8
  | batchEnd => 'C'.toUInt8
  | suspended => 'z'.toUInt8

/-- All types. -/
def Kind.all : List Kind :=
  [sessionReady, error, ok, value, describe, outputBinds, dataRow, batchEnd, suspended]

/-- The type of a byte, if it has one. -/
def Kind.ofByte? (byte : UInt8) : Option Kind :=
  all.find? (·.toByte == byte)

@[simp] theorem Kind.ofByte?_toByte (kind : Kind) : Kind.ofByte? kind.toByte = some kind := by
  cases kind <;> decide

theorem Kind.toByte_of_ofByte? {byte : UInt8} {kind : Kind} (h : Kind.ofByte? byte = some kind) :
    kind.toByte = byte := by
  simpa using List.find?_some h

end ServerMessage

/-! ### The session is open -/

/-- The answer to opening or resuming a session. -/
structure SessionReady where
  /-- The name of the backend. -/
  serverName : String
  /-- The version of the server. -/
  serverVersion : String
  /-- Bit 0: autocommit is on.  Bit 1: a transaction is open. -/
  flags : UInt8
  deriving DecidableEq, Repr

namespace SessionReady

/-- Autocommit is on. -/
def autocommit (ready : SessionReady) : Bool :=
  ready.flags &&& 1 ≠ 0

/-- Whether a transaction is open. -/
def transaction (ready : SessionReady) : TransactionStatus :=
  if ready.flags &&& 2 ≠ 0 then .inTransaction else .idle

/-- The payload of the message. -/
def payload (ready : SessionReady) : Bytes :=
  encodeName ready.serverName ++ encodeName ready.serverVersion ++ encodeU8 ready.flags

/-- Reads the message. -/
def decoder : Decoder SessionReady := do
  let serverName ← name
  let serverVersion ← name
  let flags ← u8
  return { serverName, serverVersion, flags }

end SessionReady

/-! ### Errors -/

/-- The answer to a request that failed. -/
structure ErrorReport where
  /-- The classification. -/
  kind : ErrorKind
  /-- The number of the error at the backend. -/
  code : Int64
  /-- The words of the server. -/
  text : String
  deriving DecidableEq, Repr

namespace ErrorReport

/-- The payload of the message. -/
def payload (report : ErrorReport) : Bytes :=
  encodeU8 report.kind.toByte ++ encodeI64 report.code ++ encodeText report.text

/-- Reads the message. -/
def decoder : Decoder ErrorReport := do
  let kind ← u8
  let code ← i64
  let text ← Wire.text
  return { kind := ErrorKind.ofByte kind, code, text }

/-- The error that the message reports. -/
def toError (report : ErrorReport) : Error :=
  Error.ofServer report.kind report.code report.text

/-- The error that an error frame with the given payload means: the one it
reports, or the fault in it. -/
def errorOf (payload : Bytes) : Error :=
  match decoder payload with
  | .ok (report, _) => report.toError
  | .error fault => .wire fault

end ErrorReport

/-! ### Single values -/

/-- Reads the text of a single value. -/
def SingleValue.decoder : Decoder String := name

/-- The payload of a single value. -/
def SingleValue.payload (text : String) : Bytes := encodeName text

/-! ### The session is parked -/

/-- Where and how a parked session is reclaimed. -/
structure Suspension where
  /-- The host to connect to; empty for the host of the session. -/
  host : String
  /-- The port to connect to. -/
  port : UInt16
  /-- The name of the session there. -/
  token : String
  deriving DecidableEq, Repr

namespace Suspension

/-- The payload of the message. -/
def payload (suspension : Suspension) : Bytes :=
  encodeName suspension.host ++ encodeU16 suspension.port ++ encodeText suspension.token

/-- Reads the message. -/
def decoder : Decoder Suspension := do
  let host ← name
  let port ← u16
  let token ← text
  return { host, port, token }

end Suspension

end ProxyClient
