/-
ProxyClient/Error.lean

Everything that can go wrong, as causes.  The wording of each cause stands
in one function `message`, and `Error.breaksConnection` tells which errors
leave a session that cannot be used again: those after which the next byte
of the transport may belong to an answer that nobody waits for.
-/
import ProxyClient.Exchange.Phase
import ProxyClient.Text.Numeral

namespace ProxyClient

/-! ### Faults on the wire -/

/-- The whole numbers of the wire, by size and sign. -/
inductive IntegerField where
  /-- Two bytes, unsigned. -/
  | u16
  /-- Four bytes, unsigned. -/
  | u32
  /-- Four bytes, signed. -/
  | i32
  /-- Eight bytes, unsigned. -/
  | u64
  /-- Eight bytes, signed. -/
  | i64
  deriving DecidableEq, Repr

/-- The number of bytes of a field. -/
def IntegerField.width : IntegerField → Nat
  | u16 => 2
  | u32 | i32 => 4
  | u64 | i64 => 8

/-- The name of a field in messages. -/
def IntegerField.name : IntegerField → String
  | u16 => "u16"
  | u32 => "u32"
  | i32 => "i32"
  | u64 => "u64"
  | i64 => "i64"

/-- Why bytes from the server or from a cache file are not a message. -/
inductive WireFault where
  /-- A byte is wanted and none is left. -/
  | emptyBuffer
  /-- Fewer bytes are left than the number takes. -/
  | shortInteger (field : IntegerField) (available : Nat)
  /-- Fewer bytes are left than wanted. -/
  | shortBytes (available wanted : Nat)
  /-- No zero byte ends the text. -/
  | noTerminator
  /-- A text ended by a zero byte is not UTF-8. -/
  | illFormedTerminated
  /-- A text with its length in front is not UTF-8. -/
  | illFormedPrefixed
  /-- The description of a result set is shorter than its fixed part. -/
  | describeTruncated
  /-- The description of a column is shorter than its fixed part. -/
  | columnTruncated
  /-- The byte is the tag of no type. -/
  | unknownValueType (byte : UInt8)
  /-- The length of a frame does not cover itself. -/
  | frameLength (length : Nat)
  /-- The frame does not belong to this phase of opening a session. -/
  | unexpectedInHandshake (type : UInt8) (phase : HandshakePhase)
  /-- The frame does not belong to this phase of a query. -/
  | unexpectedInQuery (type : UInt8) (phase : QueryPhase)
  /-- The frame does not answer the command. -/
  | unexpectedReply (type : UInt8) (command : Command)
  /-- The command is over and no reply was kept. -/
  | noReply
  /-- A fault found by code outside this library. -/
  | foreign (text : String)
  deriving DecidableEq, Repr

/-- A type byte as messages show it: the character of that number. -/
def showType (type : UInt8) : String :=
  String.ofList [Char.ofNat type.toNat]

/-- The wording of a fault. -/
def WireFault.message : WireFault → String
  | emptyBuffer => "read_u8: empty buffer"
  | shortInteger field available =>
    s!"read_{field.name}: buffer too short: {available} < {field.width}"
  | shortBytes available wanted => s!"read_bytes: buffer too short: {available} < {wanted}"
  | noTerminator => "read_cstring: no null terminator found"
  | illFormedTerminated => "read_cstr: invalid UTF-8"
  | illFormedPrefixed => "read_lstr: invalid UTF-8"
  | describeTruncated => "Describe header truncated"
  | columnTruncated => "ColumnDescription truncated"
  | unknownValueType byte => s!"unknown value type {byte.toNat}"
  | frameLength length => s!"Invalid message length: {length}"
  | unexpectedInHandshake type phase =>
    s!"Unexpected message '{showType type}' in state {phase.name}"
  | unexpectedInQuery type phase =>
    s!"Unexpected message '{showType type}' in state {phase.name}"
  | unexpectedReply type command =>
    s!"Unexpected reply '{showType type}' to {command.describe}"
  | noReply => "command finished without a reply"
  | foreign text => text

/-! ### Faults of the transport and the disk -/

/-- Why bytes could not be read or written. -/
inductive IoError where
  /-- The input ends inside what is read. -/
  | unexpectedEnd
  /-- There is nothing of that name. -/
  | notFound
  /-- The name belongs to a directory. -/
  | isDirectory
  /-- A part of the path is no directory. -/
  | notDirectory
  /-- The name holds a zero byte. -/
  | zeroInName
  /-- The path or one of its names is too long. -/
  | nameTooLong
  /-- The other side has closed the connection. -/
  | brokenPipe
  /-- The other side has given up the connection. -/
  | connectionReset
  /-- Nothing arrived in time. -/
  | timedOut (text : String)
  deriving DecidableEq, Repr

/-- The wording of a transport or disk fault. -/
def IoError.message : IoError → String
  | unexpectedEnd => "failed to fill whole buffer"
  | notFound => "No such file or directory (os error 2)"
  | isDirectory => "Is a directory (os error 21)"
  | notDirectory => "Not a directory (os error 20)"
  | zeroInName => "file name contained an unexpected NUL byte"
  | nameTooLong => "File name too long (os error 36)"
  | brokenPipe => "Broken pipe (os error 32)"
  | connectionReset => "Connection reset by peer (os error 104)"
  | timedOut text => text

/-- The name of the kind of a transport or disk fault. -/
def IoError.kind : IoError → String
  | unexpectedEnd => "UnexpectedEof"
  | notFound => "NotFound"
  | isDirectory => "IsADirectory"
  | notDirectory => "NotADirectory"
  | zeroInName => "InvalidInput"
  | nameTooLong => "InvalidFilename"
  | brokenPipe => "BrokenPipe"
  | connectionReset => "ConnectionReset"
  | timedOut _ => "TimedOut"

/-! ### Faults of the caller -/

/-- Why a text is not a connection URL. -/
inductive UrlFault where
  /-- There is no scheme. -/
  | noScheme
  /-- The port is no number below 65536. -/
  | port
  /-- The brackets of an address do not close, or hold no address. -/
  | ipv6Address
  /-- A scheme that needs a host has none. -/
  | emptyHost
  /-- The host holds a character that no host may hold. -/
  | domainCharacter
  /-- The numbers of the host are no address. -/
  | ipv4Address
  /-- The host has no international form. -/
  | internationalName
  deriving DecidableEq, Repr

/-- The wording of a URL fault. -/
def UrlFault.message : UrlFault → String
  | noScheme => "relative URL without a base"
  | port => "invalid port number"
  | ipv6Address => "invalid IPv6 address"
  | emptyHost => "empty host"
  | domainCharacter => "invalid domain character"
  | ipv4Address => "invalid IPv4 address"
  | internationalName => "invalid international domain name"

/-- Why a call makes no sense. -/
inductive UsageError where
  /-- More bind variables than a statement can carry. -/
  | tooManyBinds (count : Nat)
  /-- Lists that belong together differ in length. -/
  | mismatchedBinds (keys values precisions scales : Nat)
  /-- A result set would be recorded into the file it is read from. -/
  | cacheIntoSource
  /-- The text is no token. -/
  | suspendToken (text : String)
  /-- The port of an endpoint is no number below 65536. -/
  | endpointPort (text : String)
  /-- The text is no URL. -/
  | url (fault : UrlFault)
  /-- The URL is not one of this protocol. -/
  | scheme (found : String)
  /-- The pause between connect rounds is no number of seconds. -/
  | retryInterval (text : String)
  /-- The number of connect rounds is no positive number. -/
  | tries (text : String)
  /-- The URL has a parameter that means nothing. -/
  | unknownParameter (name : String)
  /-- There is nothing to connect to. -/
  | noServer
  /-- The server refused the request in these words. -/
  | refused (text : String)
  deriving DecidableEq, Repr

/-- The wording of a usage error. -/
def UsageError.message : UsageError → String
  | tooManyBinds count => s!"{count} binds exceed the limit of 65535"
  | mismatchedBinds keys values precisions scales =>
    s!"mismatched bind arrays: {keys} keys, {values} values, " ++
      s!"{precisions} precisions, {scales} scales"
  | cacheIntoSource => "cannot cache a result set into the file it is read from"
  | suspendToken text => s!"Invalid suspend token: {text}"
  | endpointPort text => s!"Invalid port in endpoint: {text}"
  | url fault => s!"Invalid URL: {fault.message}"
  | scheme found => s!"Invalid scheme: expected 'relay://', got '{found}://'"
  | retryInterval text => s!"Invalid retry_interval: {text}"
  | tries text => s!"Invalid tries: {text}"
  | unknownParameter name => s!"Unknown connection parameter: {name}"
  | noServer => "no host or socket given"
  | refused text => text

/-! ### Errors -/

/-- Why no session was opened. -/
inductive ConnectError where
  /-- No server accepted a connection in any round. -/
  | unreachable
  /-- The credentials were refused. -/
  | authRejected
  /-- The server speaks another version of the protocol. -/
  | protocolMismatch
  deriving DecidableEq, Repr

/-- The wording of a connect error. -/
def ConnectError.message : ConnectError → String
  | unreachable => "no server reachable"
  | authRejected => "authentication rejected"
  | protocolMismatch => "protocol version mismatch"

/-- The classification of a statement that failed on the server. -/
inductive StatementErrorKind where
  /-- The statement does not parse. -/
  | syntaxError
  /-- The statement names something that does not exist, or does not fit. -/
  | semantic
  /-- The backend or the proxy failed. -/
  | serverFault
  deriving DecidableEq, Repr

/-- The name of a statement error. -/
def StatementErrorKind.name : StatementErrorKind → String
  | syntaxError => "Syntax"
  | semantic => "Semantic"
  | serverFault => "ServerFault"

/-- What the server says about a statement that failed. -/
structure ServerError where
  /-- The classification. -/
  kind : StatementErrorKind
  /-- The number of the error at the backend; zero if there is none. -/
  code : Int64
  /-- The words of the backend. -/
  message : String
  deriving DecidableEq, Repr

/-- A server error in one line; the number stands only if there is one. -/
def ServerError.describe (error : ServerError) : String :=
  let line := s!"{error.kind.name}: {error.message}"
  if error.code = 0 then line else s!"{line} (code {error.code.toInt})"

/-- Why a suspended session or result set was not resumed. -/
inductive ResumeError where
  /-- The server gave the session up. -/
  | expired
  /-- The token was used before. -/
  | alreadyResumed
  /-- The server that the token names does not accept connections. -/
  | unreachable
  deriving DecidableEq, Repr

/-- The wording of a resume error. -/
def ResumeError.message : ResumeError → String
  | expired => "suspended session expired"
  | alreadyResumed => "suspended session already resumed"
  | unreachable => "suspended session endpoint unreachable"

/-- Why a cache file cannot be used. -/
inductive CacheError where
  /-- Its time has passed. -/
  | expired
  /-- It does not exist. -/
  | notFound
  /-- It is no cache file, or is damaged. -/
  | corrupt
  deriving DecidableEq, Repr

/-- The wording of a cache error. -/
def CacheError.message : CacheError → String
  | expired => "cache file expired"
  | notFound => "cache file not found"
  | corrupt => "cache file corrupt"

/-- Everything that can go wrong. -/
inductive Error where
  /-- No session was opened. -/
  | connect (cause : ConnectError)
  /-- The statement failed on the server. -/
  | query (cause : ServerError)
  /-- A bind variable stands nowhere in the statement. -/
  | unknownPlaceholder (key : String)
  /-- Nothing was resumed. -/
  | resume (cause : ResumeError)
  /-- The cache file cannot be used. -/
  | cache (cause : CacheError)
  /-- The server refused to park the session. -/
  | notSuspendable
  /-- The session is parked. -/
  | suspended
  /-- Bytes that are not the message expected. -/
  | wire (cause : WireFault)
  /-- Bytes that could not be read or written. -/
  | io (cause : IoError)
  /-- The connection cannot be used again. -/
  | connectionBroken
  /-- The call makes no sense. -/
  | usage (cause : UsageError)
  deriving DecidableEq, Repr

namespace Error

/-- The wording of an error. -/
def message : Error → String
  | connect cause => s!"Connect error: {cause.message}"
  | query cause => s!"Query error: {cause.describe}"
  | unknownPlaceholder key => s!"Bind error: no placeholder for bind variable {key}"
  | resume cause => s!"Resume error: {cause.message}"
  | cache cause => s!"Cache error: {cause.message}"
  | notSuspendable => "Session cannot be suspended"
  | suspended => "Session is suspended"
  | wire cause => s!"Protocol error: {cause.message}"
  | io cause => s!"I/O error: {cause.message}"
  | connectionBroken => "Connection is broken"
  | usage cause => s!"Invalid usage: {cause.message}"

/-- The name of an error, which is what programs tell errors apart by. -/
def name : Error → String
  | connect .unreachable => "Connect.Unreachable"
  | connect .authRejected => "Connect.AuthRejected"
  | connect .protocolMismatch => "Connect.ProtocolMismatch"
  | query cause => "Query." ++ cause.kind.name
  | unknownPlaceholder _ => "Bind.UnknownPlaceholder"
  | resume .expired => "Resume.Expired"
  | resume .alreadyResumed => "Resume.AlreadyResumed"
  | resume .unreachable => "Resume.Unreachable"
  | cache .expired => "Cache.Expired"
  | cache .notFound => "Cache.NotFound"
  | cache .corrupt => "Cache.Corrupt"
  | notSuspendable => "NotSuspendable"
  | suspended => "Suspended"
  | wire _ => "Protocol"
  | io cause => "Io." ++ cause.kind
  | connectionBroken => "ConnectionBroken"
  | usage _ => "InvalidUsage"

/-- The error leaves a connection that cannot be used again. -/
def breaksConnection : Error → Bool
  | io _ | connectionBroken | wire _ => true
  | _ => false

/-- What the server said, if it is the server that refused the statement. -/
def server? : Error → Option ServerError
  | query cause => some cause
  | _ => none

/-- The error that an error frame stands for. -/
def ofServer (kind : ErrorKind) (code : Int64) (text : String) : Error :=
  match kind with
  | .syntaxError => query ⟨.syntaxError, code, text⟩
  | .semantic => query ⟨.semantic, code, text⟩
  | .serverFault => query ⟨.serverFault, code, text⟩
  | .authRejected => connect .authRejected
  | .protocolMismatch => connect .protocolMismatch
  | .resumeExpired => resume .expired
  | .alreadyResumed => resume .alreadyResumed
  | .notSuspendable => notSuspendable
  | .unknownResultSet => usage (.refused text)

end Error

end ProxyClient
