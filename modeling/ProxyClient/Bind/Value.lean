/-
ProxyClient/Bind/Value.lean

The values that a statement is given: to bind to its placeholders, or to
paste into its text.
-/
import ProxyClient.Wire.Tag
import ProxyClient.Double.Print
import ProxyClient.Text.Lossy

namespace ProxyClient

/-- A value for a statement. -/
inductive Value where
  /-- The absent value. -/
  | null
  /-- Characters. -/
  | string (text : String)
  /-- An integer. -/
  | integer (n : Int64)
  /-- A number with the digits to show; without a scale it is shown shortest. -/
  | double (x : Double) (precision scale : UInt32)
  /-- A large object of bytes. -/
  | blob (bytes : Bytes)
  /-- A large object of characters. -/
  | clob (text : String)
  deriving DecidableEq, Repr

namespace Value

/-- The type of a value. -/
def type : Value → ValueType
  | null => .null
  | string _ => .string
  | integer _ => .integer
  | double .. => .double
  | blob _ => .blob
  | clob _ => .clob

/-- The value with precision and scale attached, which only a double takes. -/
def withPrecision (value : Value) (precision scale : UInt32) : Value :=
  match value with
  | double x _ _ => double x precision scale
  | other => other

/-- The value as it is pasted into a statement. -/
def toText : Value → String
  | null => "NULL"
  | string text | clob text => text
  | integer n => toString n.toInt
  | double x _ scale => x.format scale.toNat
  | blob bytes => Text.decodeLossy bytes

end Value

end ProxyClient
