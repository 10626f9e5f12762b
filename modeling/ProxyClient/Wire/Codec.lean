/-
ProxyClient/Wire/Codec.lean

Reading and writing the values that messages are made of.  Whole numbers are
big-endian; a name ends with a zero byte; a value has its length in front,
so that it may hold any bytes, and a negative length stands for the absent
value.

A decoder takes what it reads off the front of the input and leaves the rest
to the next one.
-/
import ProxyClient.Bytes
import ProxyClient.Error

namespace ProxyClient

/-- Reads a value off the front of a byte string. -/
abbrev Decoder (α : Type) := StateT Bytes (Except WireFault) α

namespace Wire

/-! ### Writing -/

/-- A byte. -/
def encodeU8 (n : UInt8) : Bytes := [n]

/-- An unsigned number of two bytes. -/
def encodeU16 (n : UInt16) : Bytes := Bytes.bigEndian 2 n.toNat

/-- An unsigned number of four bytes. -/
def encodeU32 (n : UInt32) : Bytes := Bytes.bigEndian 4 n.toNat

/-- An unsigned number of eight bytes. -/
def encodeU64 (n : UInt64) : Bytes := Bytes.bigEndian 8 n.toNat

/-- A signed number of four bytes, in two's complement. -/
def encodeI32 (n : Int32) : Bytes := encodeU32 n.toUInt32

/-- A signed number of eight bytes, in two's complement. -/
def encodeI64 (n : Int64) : Bytes := encodeU64 n.toUInt64

/-- Bytes followed by a zero byte. -/
def encodeTerminated (bytes : Bytes) : Bytes := bytes ++ [0]

/-- A text followed by a zero byte. -/
def encodeName (text : String) : Bytes := encodeTerminated (Bytes.ofText text)

/-- Bytes with their number in front, modulo `2 ^ 32`. -/
def encodeCounted (bytes : Bytes) : Bytes := Bytes.bigEndian 4 bytes.length ++ bytes

/-- A text with the number of its bytes in front. -/
def encodeText (text : String) : Bytes := encodeCounted (Bytes.ofText text)

/-- Bytes with their number in front, or the length -1 for the absent value. -/
def encodeNullable : Option Bytes → Bytes
  | some bytes => encodeCounted bytes
  | none => encodeI32 (-1)

/-- A flag as a byte. -/
def encodeFlag (on : Bool) : Bytes := [if on then 1 else 0]

/-! ### Reading -/

/-- The number in the next bytes. -/
def unsigned (field : IntegerField) : Decoder Nat := fun bytes =>
  if bytes.length < field.width then .error (.shortInteger field bytes.length)
  else .ok (Bytes.ofBigEndian (bytes.take field.width), bytes.drop field.width)

/-- A byte. -/
def u8 : Decoder UInt8
  | [] => .error .emptyBuffer
  | byte :: rest => .ok (byte, rest)

/-- An unsigned number of two bytes. -/
def u16 : Decoder UInt16 := return UInt16.ofNat (← unsigned .u16)

/-- An unsigned number of four bytes. -/
def u32 : Decoder UInt32 := return UInt32.ofNat (← unsigned .u32)

/-- A signed number of four bytes. -/
def i32 : Decoder Int32 := return (UInt32.ofNat (← unsigned .i32)).toInt32

/-- An unsigned number of eight bytes. -/
def u64 : Decoder UInt64 := return UInt64.ofNat (← unsigned .u64)

/-- A signed number of eight bytes. -/
def i64 : Decoder Int64 := return (UInt64.ofNat (← unsigned .i64)).toInt64

/-- The next `count` bytes. -/
def take (count : Nat) : Decoder Bytes := fun bytes =>
  if bytes.length < count then .error (.shortBytes bytes.length count)
  else .ok (bytes.take count, bytes.drop count)

/-- The bytes up to the next zero byte, which is taken as well. -/
def terminated : Decoder Bytes := fun bytes =>
  match bytes.dropWhile (· ≠ 0) with
  | _ :: rest => .ok (bytes.takeWhile (· ≠ 0), rest)
  | [] => .error .noTerminator

/-- The text that bytes hold, or a fault if they are not UTF-8. -/
def wellFormed (fault : WireFault) (bytes : Bytes) : Decoder String := fun rest =>
  match bytes.toText? with
  | some text => .ok (text, rest)
  | none => .error fault

/-- A text that ends with a zero byte. -/
def name : Decoder String := do
  wellFormed .illFormedTerminated (← terminated)

/-- Bytes with their number in front. -/
def counted : Decoder Bytes := do
  take (← u32).toNat

/-- A text with the number of its bytes in front. -/
def text : Decoder String := do
  wellFormed .illFormedPrefixed (← counted)

/-- Bytes with their number in front; a negative number stands for the absent value. -/
def nullable : Decoder (Option Bytes) := do
  let length ← i32
  if length < 0 then return none
  return some (← take length.toInt.toNat)

end Wire

/-- What a payload holds; bytes behind it are ignored. -/
def decoded {α : Type} (decoder : Decoder α) (payload : Bytes) : Except Error α :=
  match decoder payload with
  | .ok (value, _) => .ok value
  | .error fault => .error (.wire fault)

end ProxyClient
