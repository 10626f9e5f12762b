/-
ProxyClient/Message/Rows.lean

What a server answers about a result set: its description, the values of
output variables, its rows and the ends of batches.  A cache file holds the
same messages, byte for byte, so a description and a row remember the bytes
they were read from.
-/
import ProxyClient.Message.Session

namespace ProxyClient

open Wire

/-! ### Columns -/

/-- The description of a column. -/
structure ColumnDescription where
  /-- The name of the column. -/
  name : String
  /-- The name of its type at the backend. -/
  typeName : String
  /-- The declared length. -/
  length : UInt32
  /-- The number of digits. -/
  precision : UInt32
  /-- The number of digits after the point. -/
  scale : UInt32
  /-- Bit 0: may be null.  Bit 1: part of the primary key. -/
  flags : UInt8
  deriving DecidableEq, Repr

namespace ColumnDescription

/-- The column may be null. -/
def nullable (column : ColumnDescription) : Bool :=
  column.flags &&& 1 ≠ 0

/-- The column is part of the primary key. -/
def primaryKey (column : ColumnDescription) : Bool :=
  column.flags &&& 2 ≠ 0

/-- The bytes of a description. -/
def encode (column : ColumnDescription) : Bytes :=
  encodeName column.name ++ encodeName column.typeName ++ encodeU32 column.length ++
    encodeU32 column.precision ++ encodeU32 column.scale ++ encodeU8 column.flags

/-- Fails with `fault` unless `count` bytes are left. -/
def guardLength (count : Nat) (fault : WireFault) : Decoder Unit := fun bytes =>
  if bytes.length < count then .error fault else .ok ((), bytes)

/-- Reads a description. -/
def decoder : Decoder ColumnDescription := do
  let name ← Wire.name
  let typeName ← Wire.name
  guardLength 13 .columnTruncated
  let length ← u32
  let precision ← u32
  let scale ← u32
  let flags ← u8
  return { name, typeName, length, precision, scale, flags }

end ColumnDescription

/-! ### Descriptions -/

/-- The fixed part of the description of a result set. -/
structure DescribeHead where
  /-- The identifier of the result set. -/
  id : ResultSetId
  /-- The index of the first row that follows. -/
  firstRow : UInt64
  /-- The rows that the statement changed; negative if unknown. -/
  affectedRows : Int64
  /-- The number of all rows; negative if unknown. -/
  totalRows : Int64
  /-- Descriptions of the columns follow if this is not zero. -/
  hasColumns : UInt8
  /-- The number of columns. -/
  columnCount : UInt16
  deriving DecidableEq, Repr

namespace DescribeHead

/-- The bytes of the fixed part. -/
def encode (head : DescribeHead) : Bytes :=
  encodeU16 head.id ++ encodeU64 head.firstRow ++ encodeI64 head.affectedRows ++
    encodeI64 head.totalRows ++ encodeU8 head.hasColumns ++ encodeU16 head.columnCount

/-- Reads the fixed part. -/
def decoder : Decoder DescribeHead := do
  ColumnDescription.guardLength 29 .describeTruncated
  let id ← u16
  let firstRow ← u64
  let affectedRows ← i64
  let totalRows ← i64
  let hasColumns ← u8
  let columnCount ← u16
  return { id, firstRow, affectedRows, totalRows, hasColumns, columnCount }

end DescribeHead

/-- Applies a decoder `count` times. -/
def repeated {α : Type} (decoder : Decoder α) : Nat → Decoder (List α)
  | 0 => return []
  | count + 1 => return (← decoder) :: (← repeated decoder count)

/-- The description of a result set. -/
structure Describe where
  /-- The fixed part. -/
  head : DescribeHead
  /-- The columns; empty if they were not sent. -/
  columns : List ColumnDescription
  /-- The bytes of the message. -/
  payload : Bytes
  deriving DecidableEq, Repr

namespace Describe

/-- The payload of a description. -/
def encode (head : DescribeHead) (columns : List ColumnDescription) : Bytes :=
  head.encode ++ if head.hasColumns = 0 then [] else columns.flatMap ColumnDescription.encode

/-- Reads the fixed part and the columns that it announces. -/
def fields : Decoder (DescribeHead × List ColumnDescription) := do
  let head ← DescribeHead.decoder
  if head.hasColumns = 0 then return (head, [])
  return (head, ← repeated ColumnDescription.decoder head.columnCount.toNat)

/-- The description with the given parts. -/
def ofParts (head : DescribeHead) (columns : List ColumnDescription) : Describe where
  head := head
  columns := if head.hasColumns = 0 then [] else columns
  payload := encode head columns

/-- Reads a message, and remembers its bytes. -/
def decoder : Decoder Describe := fun payload => do
  let ((head, columns), rest) ← fields payload
  return ({ head, columns, payload }, rest)

/-- The frame that the message came in. -/
def frame (describe : Describe) : Frame :=
  ⟨ServerMessage.Kind.describe.toByte, describe.payload⟩

end Describe

/-! ### Output variables -/

/-- The value of an output variable. -/
structure OutputBind where
  /-- The name of the variable. -/
  name : String
  /-- The type of the value. -/
  type : ValueType
  /-- The bytes of the value, if it is not null. -/
  value : Option Bytes
  deriving DecidableEq, Repr

namespace OutputBind

/-- The bytes of a returned value. -/
def encode (bind : OutputBind) : Bytes :=
  encodeName bind.name ++ encodeU8 bind.type.toByte ++ encodeNullable bind.value

/-- The type of a tag. -/
def typeOfByte (byte : UInt8) : Decoder ValueType := fun bytes =>
  match ValueType.ofByte? byte with
  | some type => .ok (type, bytes)
  | none => .error (.unknownValueType byte)

/-- Reads a returned value. -/
def decoder : Decoder OutputBind := do
  let name ← Wire.name
  let type ← typeOfByte (← u8)
  let value ← nullable
  return { name, type, value }

end OutputBind

namespace OutputBinds

/-- The payload of a list of returned values. -/
def payload (binds : List OutputBind) : Bytes :=
  Bytes.bigEndian 2 binds.length ++ binds.flatMap OutputBind.encode

/-- Reads a list of returned values. -/
def decoder : Decoder (List OutputBind) := do
  repeated OutputBind.decoder (← u16).toNat

end OutputBinds

/-! ### Rows -/

/-- A row as it was received: its values are looked at on demand. -/
structure DataRow where
  /-- The announced number of columns. -/
  columnCount : UInt16
  /-- The bytes of the values. -/
  data : Bytes
  deriving DecidableEq, Repr

namespace DataRow

/-- The row with the given values. -/
def ofValues (values : List (Option Bytes)) : DataRow :=
  ⟨UInt16.ofNat values.length, values.flatMap encodeNullable⟩

/-- Reads a row. -/
def decoder : Decoder DataRow := fun payload => do
  let (columnCount, data) ← u16 payload
  return ({ columnCount, data }, [])

/-- The payload of a row as it was received. -/
def payload (row : DataRow) : Bytes :=
  encodeU16 row.columnCount ++ row.data

/-- The frame that the row came in. -/
def frame (row : DataRow) : Frame :=
  ⟨ServerMessage.Kind.dataRow.toByte, row.payload⟩

/-- The values in a byte string, up to the first that is not complete.  A
negative length stands for null. -/
def valuesIn : Bytes → List (Option Bytes)
  | a :: b :: c :: d :: rest =>
    let length := Bytes.ofBigEndian [a, b, c, d]
    if 2 ^ 31 ≤ length then none :: valuesIn rest
    else if length ≤ rest.length then some (rest.take length) :: valuesIn (rest.drop length)
    else []
  | _ => []
termination_by bytes => bytes.length
decreasing_by all_goals simp only [List.length_cons, List.length_drop]; omega

/-- The values of a row. -/
def values (row : DataRow) : List (Option Bytes) :=
  valuesIn row.data

end DataRow

/-! ### Ends of batches -/

/-- The end of a batch of rows. -/
structure BatchEnd where
  /-- No rows are left on the server. -/
  endOfResultSet : Bool
  /-- The rows that were skipped in front of the batch. -/
  rowsSkipped : UInt64
  deriving DecidableEq, Repr

namespace BatchEnd

/-- The payload of the message. -/
def payload (batch : BatchEnd) : Bytes :=
  encodeFlag batch.endOfResultSet ++ encodeU64 batch.rowsSkipped

/-- Reads the message. -/
def decoder : Decoder BatchEnd := do
  let ended ← u8
  let rowsSkipped ← u64
  return { endOfResultSet := ended ≠ 0, rowsSkipped }

/-- The frame of the message. -/
def frame (batch : BatchEnd) : Frame :=
  ⟨ServerMessage.Kind.batchEnd.toByte, batch.payload⟩

end BatchEnd

end ProxyClient
