/-
ProxyClient/Message/Server.lean

Everything that a server may say, as one type.  A message is a frame: its
type byte tells the kind, and the payload is read as that kind.
-/
import ProxyClient.Message.Rows
import ProxyClient.Wire.Builder

namespace ProxyClient

/-- A message from a server. -/
inductive ServerMessage where
  /-- The session is open. -/
  | sessionReady (ready : SessionReady)
  /-- The request failed. -/
  | error (report : ErrorReport)
  /-- The request succeeded. -/
  | ok
  /-- A single text. -/
  | value (text : String)
  /-- The description of a result set. -/
  | describe (describe : Describe)
  /-- The values of output variables. -/
  | outputBinds (binds : List OutputBind)
  /-- A row. -/
  | dataRow (row : DataRow)
  /-- The end of a batch of rows. -/
  | batchEnd (batch : BatchEnd)
  /-- The session is parked. -/
  | suspended (suspension : Suspension)
  deriving DecidableEq, Repr

namespace ServerMessage

/-- The kind of a message. -/
def kind : ServerMessage → Kind
  | sessionReady _ => .sessionReady
  | error _ => .error
  | ok => .ok
  | value _ => .value
  | describe _ => .describe
  | outputBinds _ => .outputBinds
  | dataRow _ => .dataRow
  | batchEnd _ => .batchEnd
  | suspended _ => .suspended

/-- The payload of a message. -/
def payload : ServerMessage → Bytes
  | sessionReady ready => ready.payload
  | error report => report.payload
  | ok => []
  | value text => SingleValue.payload text
  | describe description => description.payload
  | outputBinds binds => OutputBinds.payload binds
  | dataRow row => row.payload
  | batchEnd batch => batch.payload
  | suspended suspension => suspension.payload

/-- The frame of a message. -/
def frame (message : ServerMessage) : Frame :=
  ⟨message.kind.toByte, message.payload⟩

/-- Writes a message at the end of a buffer. -/
def write (message : ServerMessage) (buffer : Bytes) : Bytes :=
  message.frame.write buffer

/-- Reads a payload as a message of a kind. -/
def parse (kind : Kind) (payload : Bytes) : Except Error ServerMessage :=
  match kind with
  | .sessionReady => (decoded SessionReady.decoder payload).map sessionReady
  | .error => (decoded ErrorReport.decoder payload).map error
  | .ok => .ok ok
  | .value => (decoded SingleValue.decoder payload).map value
  | .describe => (decoded Describe.decoder payload).map describe
  | .outputBinds => (decoded OutputBinds.decoder payload).map outputBinds
  | .dataRow => (decoded DataRow.decoder payload).map dataRow
  | .batchEnd => (decoded BatchEnd.decoder payload).map batchEnd
  | .suspended => (decoded Suspension.decoder payload).map suspended

end ServerMessage

end ProxyClient
