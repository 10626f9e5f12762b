/-
ProxyClient/Column.lean

The columns of a result set as a reader sees them, and the coarse classes of
their types.
-/
import ProxyClient.Message.Rows
import ProxyClient.Text.Case

namespace ProxyClient

/-- A coarse class of column types, for display. -/
inductive ColumnClass where
  /-- Characters, and everything unknown. -/
  | textual
  /-- Whole, decimal and floating point numbers. -/
  | numeric
  /-- Raw bytes. -/
  | binary
  /-- Dates, times and intervals. -/
  | temporal
  deriving DecidableEq, Repr, Inhabited

namespace ColumnClass

/-- The words that make a type temporal. -/
def temporalWords : List String := ["DATE", "TIME", "INTERVAL", "YEAR"]

/-- The words that make a type binary. -/
def binaryWords : List String := ["BLOB", "BINARY", "RAW", "BYTEA", "IMAGE"]

/-- The words that make a type numeric. -/
def numericWords : List String :=
  ["INT", "NUMBER", "NUMERIC", "DECIMAL", "FLOAT", "DOUBLE", "REAL", "MONEY", "SERIAL"]

/-- The class of a type, by the words that occur in its name.  A temporal word
counts more than a binary one, and that more than a numeric one. -/
def ofTypeName (typeName : String) : ColumnClass :=
  let name := typeName.toList.map Char.toUpper
  let has (words : List String) : Bool := words.any fun word => Text.occursIn word.toList name
  if has temporalWords then temporal
  else if has binaryWords then binary
  else if has numericWords then numeric
  else textual

/-- Columns of this class are set flush right. -/
def rightAligned (cls : ColumnClass) : Bool :=
  cls = numeric

/-- The name of a class. -/
def name : ColumnClass → String
  | textual => "Textual"
  | numeric => "Numeric"
  | binary => "Binary"
  | temporal => "Temporal"

end ColumnClass

/-- A column of a result set. -/
structure Column where
  /-- The name of the column. -/
  name : String
  /-- The name of its type at the backend. -/
  typeName : String
  /-- The declared length. -/
  length : UInt32
  /-- The number of digits. -/
  precision : UInt32
  /-- The number of digits after the point. -/
  scale : UInt32
  /-- The column may be null. -/
  nullable : Bool
  /-- The column is part of the primary key. -/
  primaryKey : Bool
  /-- The class of its type. -/
  cls : ColumnClass
  deriving DecidableEq, Repr, Inhabited

/-- The column that a description describes. -/
def Column.ofDescription (column : ColumnDescription) : Column where
  name := column.name
  typeName := column.typeName
  length := column.length
  precision := column.precision
  scale := column.scale
  nullable := column.nullable
  primaryKey := column.primaryKey
  cls := ColumnClass.ofTypeName column.typeName

/-- Which column of a row is meant. -/
inductive FieldKey where
  /-- The column at a place, counted from zero. -/
  | index (i : Nat)
  /-- The first column of a name, up to the case of letters. -/
  | name (text : String)
  deriving DecidableEq, Repr

end ProxyClient
