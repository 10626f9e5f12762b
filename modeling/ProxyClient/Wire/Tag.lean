/-
ProxyClient/Wire/Tag.lean

The one-byte tags of the protocol: the kind of a server error, the direction
of a bind variable and the type of a value.  Each has a byte and a reading
of bytes that gives the tag back.
-/

namespace ProxyClient

/-- The version sent when a session is opened or resumed. -/
def protocolVersion : UInt16 := 1

/-- The identifier that the server gives a result set. -/
abbrev ResultSetId := UInt16

/-! ### Server errors -/

/-- The classification in an error frame. -/
inductive ErrorKind where
  /-- The statement does not parse. -/
  | syntaxError
  /-- The statement names something that does not exist, or does not fit. -/
  | semantic
  /-- The backend or the proxy failed. -/
  | serverFault
  /-- The credentials were refused. -/
  | authRejected
  /-- The server speaks another version of the protocol. -/
  | protocolMismatch
  /-- The suspended session is gone. -/
  | resumeExpired
  /-- The suspended session was reclaimed before. -/
  | alreadyResumed
  /-- The session holds state that cannot be parked. -/
  | notSuspendable
  /-- The session knows no result set of that identifier. -/
  | unknownResultSet
  deriving DecidableEq, Repr

namespace ErrorKind

/-- The byte of a classification. -/
def toByte : ErrorKind → UInt8
  | syntaxError => 0
  | semantic => 1
  | serverFault => 2
  | authRejected => 10
  | protocolMismatch => 11
  | resumeExpired => 20
  | alreadyResumed => 21
  | notSuspendable => 30
  | unknownResultSet => 31

/-- The classification of a byte; a byte without one is a server fault. -/
def ofByte (byte : UInt8) : ErrorKind :=
  if byte = 0 then syntaxError
  else if byte = 1 then semantic
  else if byte = 10 then authRejected
  else if byte = 11 then protocolMismatch
  else if byte = 20 then resumeExpired
  else if byte = 21 then alreadyResumed
  else if byte = 30 then notSuspendable
  else if byte = 31 then unknownResultSet
  else serverFault

@[simp] theorem ofByte_toByte (kind : ErrorKind) : ofByte kind.toByte = kind := by
  cases kind <;> decide

/-- The name of a classification. -/
def name : ErrorKind → String
  | syntaxError => "Syntax"
  | semantic => "Semantic"
  | serverFault => "ServerFault"
  | authRejected => "AuthRejected"
  | protocolMismatch => "ProtocolMismatch"
  | resumeExpired => "ResumeExpired"
  | alreadyResumed => "AlreadyResumed"
  | notSuspendable => "NotSuspendable"
  | unknownResultSet => "UnknownResultSet"

end ErrorKind

/-! ### Bind variables -/

/-- Which way the value of a bind variable travels. -/
inductive BindDirection where
  /-- To the server. -/
  | input
  /-- From the server. -/
  | output
  deriving DecidableEq, Repr

namespace BindDirection

/-- The byte of a direction. -/
def toByte : BindDirection → UInt8
  | input => 0
  | output => 1

/-- The direction of a byte, if it has one. -/
def ofByte? (byte : UInt8) : Option BindDirection :=
  if byte = 0 then some input else if byte = 1 then some output else none

@[simp] theorem ofByte?_toByte (direction : BindDirection) :
    ofByte? direction.toByte = some direction := by
  cases direction <;> decide

/-- The name of a direction. -/
def name : BindDirection → String
  | input => "In"
  | output => "Out"

end BindDirection

/-- The type of a bound or returned value. -/
inductive ValueType where
  /-- The absent value. -/
  | null
  /-- Characters. -/
  | string
  /-- A signed integer of 64 bits. -/
  | integer
  /-- A floating point number with precision and scale. -/
  | double
  /-- A large object of bytes. -/
  | blob
  /-- A large object of characters. -/
  | clob
  deriving DecidableEq, Repr

namespace ValueType

/-- The byte of a type. -/
def toByte : ValueType → UInt8
  | null => 0
  | string => 1
  | integer => 2
  | double => 3
  | blob => 4
  | clob => 5

/-- The type of a byte, if it has one. -/
def ofByte? (byte : UInt8) : Option ValueType :=
  if byte = 0 then some null
  else if byte = 1 then some string
  else if byte = 2 then some integer
  else if byte = 3 then some double
  else if byte = 4 then some blob
  else if byte = 5 then some clob
  else none

@[simp] theorem ofByte?_toByte (type : ValueType) : ofByte? type.toByte = some type := by
  cases type <;> decide

/-- The name of a type. -/
def name : ValueType → String
  | null => "Null"
  | string => "String"
  | integer => "Integer"
  | double => "Double"
  | blob => "Blob"
  | clob => "Clob"

end ValueType

/-! ### Transactions -/

/-- Whether the session holds work that is not committed. -/
inductive TransactionStatus where
  /-- No statement ran since the last commit or rollback. -/
  | idle
  /-- Statements ran that are not committed. -/
  | inTransaction
  deriving DecidableEq, Repr, Inhabited

/-- The name of a transaction status. -/
def TransactionStatus.name : TransactionStatus → String
  | idle => "Idle"
  | inTransaction => "InTransaction"

end ProxyClient
