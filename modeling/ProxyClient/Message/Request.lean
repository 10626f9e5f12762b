/-
ProxyClient/Message/Request.lean

What a client asks of a server.  Every request is one frame; the only one
that cannot be written is a statement with more bind variables than its
count of two bytes can tell.
-/
import ProxyClient.Bind.Set
import ProxyClient.Wire.Builder

namespace ProxyClient

/-- How the result set of a statement is to be sent. -/
structure ExecuteOptions where
  /-- With descriptions of the columns. -/
  columnInfo : Bool
  /-- The rows to send at once; zero for all. -/
  bufferSize : UInt32
  deriving DecidableEq, Repr

/-- A request. -/
inductive Request where
  /-- Opens a session with credentials. -/
  | startup (user password : String)
  /-- Reclaims a suspended session. -/
  | resumeSession (token : String)
  /-- Ends the session; there is no answer. -/
  | endSession
  /-- A command answered by one frame. -/
  | command (command : Command)
  /-- Runs a statement with its bind variables. -/
  | execute (sql : String) (binds : List Bind) (options : ExecuteOptions)
  /-- Skips rows of a result set and sends at most `limit` more; zero for all. -/
  | fetch (id : ResultSetId) (skip : UInt64) (limit : UInt32)
  /-- Attaches to a parked result set. -/
  | resumeResultSet (id : ResultSetId) (options : ExecuteOptions)
  deriving Repr

namespace Request

open Wire

/-- The value of an input variable, laid out by its type. -/
def encodeValue : Value → Bytes
  | .null => []
  | .string text | .clob text => encodeText text
  | .integer n => encodeI64 n
  | .double x precision scale => encodeU64 x.bits ++ encodeU32 precision ++ encodeU32 scale
  | .blob bytes => encodeCounted bytes

/-- A bind variable: name, direction, type, the value if it is sent, capacity. -/
def encodeBind (entry : Bind) : Bytes :=
  encodeName entry.key.wireName ++
    encodeU8 entry.direction.toByte ++
    encodeU8 entry.type.toByte ++
    (match entry.direction with
      | .input => encodeValue entry.value
      | .output => []) ++
    encodeU32 entry.capacity

/-- The frame of a command. -/
def commandFrame : Command → Frame
  | .ping => ⟨'p'.toUInt8, []⟩
  | .identify => ⟨'i'.toUInt8, []⟩
  | .commit => ⟨'c'.toUInt8, []⟩
  | .rollback => ⟨'b'.toUInt8, []⟩
  | .autocommit on => ⟨'a'.toUInt8, encodeFlag on⟩
  | .suspendSession => ⟨'Z'.toUInt8, []⟩
  | .abortResultSet id => ⟨'A'.toUInt8, encodeU16 id⟩

/-- The type byte of the request that ends a session. -/
def endSessionType : UInt8 := 'X'.toUInt8

/-- The frame of a request. -/
def frame : Request → Except Error Frame
  | startup user password =>
    .ok ⟨'S'.toUInt8, encodeU16 protocolVersion ++ encodeName user ++ encodeText password⟩
  | resumeSession token => .ok ⟨'r'.toUInt8, encodeU16 protocolVersion ++ encodeText token⟩
  | endSession => .ok ⟨endSessionType, []⟩
  | command c => .ok (commandFrame c)
  | execute sql binds options =>
    if binds.length < 65536 then
      .ok ⟨'Q'.toUInt8,
        encodeFlag options.columnInfo ++ encodeU32 options.bufferSize ++ encodeText sql ++
          Bytes.bigEndian 2 binds.length ++ binds.flatMap encodeBind⟩
    else .error (.usage (.tooManyBinds binds.length))
  | fetch id skip limit => .ok ⟨'F'.toUInt8, encodeU16 id ++ encodeU64 skip ++ encodeU32 limit⟩
  | resumeResultSet id options =>
    .ok ⟨'R'.toUInt8,
      encodeU16 id ++ encodeFlag options.columnInfo ++ encodeU32 options.bufferSize⟩

/-- The bytes of a request. -/
def encode (request : Request) : Except Error Bytes :=
  request.frame.map Frame.encode

/-- Writes a request at the end of a buffer; a request that is refused leaves
the buffer as it was. -/
def write (request : Request) (buffer : Bytes) : Except Error Unit × Bytes :=
  match request.frame with
  | .ok frame => (.ok (), frame.write buffer)
  | .error error => (.error error, buffer)

end Request

end ProxyClient
