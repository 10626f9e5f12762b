/-
ProxyClient/ResultSet.lean

One page of a result set.  Rows are counted from the beginning of the
result set; the page holds those from `firstRow` on.  Fetching replaces the
page, so that the window of readable rows only moves forward until the next
statement.
-/
import ProxyClient.Bind.Key
import ProxyClient.Column
import ProxyClient.RowHandler
import ProxyClient.Text.Lossy

namespace ProxyClient

/-- A row: its values, of which some may be null. -/
abbrev Row := List (Option Bytes)

/-- One page of a result set with the counters for paging. -/
structure ResultSet where
  /-- The identifier at the server, once a statement has given one. -/
  id : Option ResultSetId := none
  /-- The columns; empty if they were not sent. -/
  columns : List Column := []
  /-- The number of columns. -/
  columnCount : Nat := 0
  /-- The rows of the page. -/
  rows : List Row := []
  /-- The index of the first row of the page. -/
  firstRow : Nat := 0
  /-- One more than the highest index fetched. -/
  rowCount : Nat := 0
  /-- Where the page was begun, before rows were skipped. -/
  pageStart : Nat := 0
  /-- The server has no more rows. -/
  ended : Bool := false
  /-- The rows that the statement changed; negative if unknown. -/
  affectedRows : Int64 := -1
  /-- What the server expects as the number of all rows; negative if unknown. -/
  totalHint : Int64 := -1
  /-- The length of the longest value of each column. -/
  longest : List Nat := []
  /-- The values of output variables. -/
  outputs : List OutputBind := []
  /-- Null is read as the empty text. -/
  nullsAsEmpty : Bool := false
  /-- The page was given up by a suspension. -/
  suspended : Bool := false
  deriving DecidableEq, Repr, Inhabited

namespace ResultSet

/-! ### Paging -/

/-- Forgets everything but how null is to be read from now on. -/
def reset (nullsAsEmpty : Bool) : ResultSet :=
  { nullsAsEmpty }

/-- Clears the page for the rows of a fetch, which begin behind those fetched. -/
def beginPage (rs : ResultSet) : ResultSet :=
  { rs with rows := [], pageStart := rs.rowCount, firstRow := rs.rowCount }

/-- Gives the page up, and keeps the counters and the identifier. -/
def suspend (rs : ResultSet) : ResultSet :=
  { rs with rows := [], suspended := true }

/-- The row lies behind the page, and there may be more rows. -/
def needsFetch (rs : ResultSet) (row : Nat) : Bool :=
  rs.rowCount ≤ row && !rs.ended && !rs.suspended && rs.id.isSome

/-- Only rows behind the page are fetched. -/
theorem rowCount_le_of_needsFetch {rs : ResultSet} {row : Nat} (h : rs.needsFetch row) :
    rs.rowCount ≤ row := by
  simp only [needsFetch, Bool.and_eq_true, decide_eq_true_eq] at h
  exact h.1.1.1

/-- The number of all rows: exact at the end, and what the server expects before. -/
def totalRows (rs : ResultSet) : Option Nat :=
  if rs.ended then some rs.rowCount
  else if 0 ≤ rs.totalHint then some rs.totalHint.toInt.toNat
  else none

/-- The first row of the page and the number of rows as they are shown, in 64
bits each.  They are those above as long as these fit, and only a server that
claims to have skipped more rows than can be counted makes them overflow. -/
def counters (rs : ResultSet) : UInt64 × UInt64 :=
  (UInt64.ofNat rs.firstRow, UInt64.ofNat rs.rowCount)

/-! ### Columns -/

/-- The place of a column. -/
def columnIndex (rs : ResultSet) : FieldKey → Option Nat
  | .index i => if i < rs.columnCount then some i else none
  | .name text => rs.columns.findIdx? fun column => Text.sameName column.name text

/-- The description of a column. -/
def column (rs : ResultSet) (key : FieldKey) : Option Column := do
  rs.columns[← rs.columnIndex key]?

/-- The length of the longest value seen in a column since the statement ran. -/
def longestIn (rs : ResultSet) (key : FieldKey) : Nat :=
  ((rs.columnIndex key).bind (rs.longest[·]?)).getD 0

/-! ### Rows -/

/-- A row of the page. -/
def bufferedRow (rs : ResultSet) (row : Nat) : Option Row :=
  if row < rs.firstRow then none else rs.rows[row - rs.firstRow]?

/-- A value as it is read: null may be read as the empty text. -/
def readValue (rs : ResultSet) : Option Bytes → Option Bytes
  | some bytes => some bytes
  | none => if rs.nullsAsEmpty then some [] else none

/-- The bytes of a field; nothing for null and for rows outside of the page. -/
def field (rs : ResultSet) (row : Nat) (key : FieldKey) : Option Bytes := do
  let i ← rs.columnIndex key
  rs.readValue (← (← rs.bufferedRow row)[i]?)

/-- The text of a field. -/
def fieldText (rs : ResultSet) (row : Nat) (key : FieldKey) : Option String :=
  (rs.field row key).map Text.decodeLossy

/-- The length of a field in bytes; zero for null and for rows outside of the page. -/
def fieldLength (rs : ResultSet) (row : Nat) (key : FieldKey) : Nat :=
  ((rs.field row key).map List.length).getD 0

/-- The texts of a row. -/
def rowTexts (rs : ResultSet) (row : Nat) : Option (List (Option String)) :=
  (rs.bufferedRow row).map (·.map fun value => (rs.readValue value).map Text.decodeLossy)

/-- The lengths of the values of a row. -/
def rowLengths (rs : ResultSet) (row : Nat) : Option (List Nat) :=
  (rs.bufferedRow row).map (·.map fun value => (value.map List.length).getD 0)

/-- The texts of a row with the names of their columns; nothing without column
descriptions. -/
def rowPairs (rs : ResultSet) (row : Nat) : Option (List (String × Option String)) :=
  if rs.columns.isEmpty then none
  else (rs.rowTexts row).map ((rs.columns.map Column.name).zip ·)

/-- The value of an output variable.  A sigil may stand in front of the name. -/
def output (rs : ResultSet) (name : String) : Option OutputBind :=
  rs.outputs.find? fun bind => Text.sameName bind.name (withoutSigil name)

/-! ### Taking the answer to a query -/

/-- The first `n` entries, filled up with zeros. -/
def resizeTo (n : Nat) (lengths : List Nat) : List Nat :=
  lengths.take n ++ List.replicate (n - lengths.length) 0

/-- Opens the result set that is described. -/
def openWith (rs : ResultSet) (describe : Describe) : ResultSet :=
  let first := describe.head.firstRow.toNat
  let count := describe.head.columnCount.toNat
  { rs with
    id := some describe.head.id
    firstRow := first
    rowCount := first
    pageStart := first
    ended := false
    suspended := false
    rows := []
    affectedRows := describe.head.affectedRows
    totalHint := describe.head.totalRows
    columnCount := count
    columns := describe.columns.map Column.ofDescription
    longest := resizeTo count rs.longest }

/-- The longer of each recorded length and the length of the value in its place. -/
def widen (lengths : List Nat) (values : Row) : List Nat :=
  let all := lengths ++ List.replicate (values.length - lengths.length) 0
  all.zipIdx.map fun (length, i) => max length (((values[i]?).join.map List.length).getD 0)

/-- Appends a row to the page. -/
def addRow (rs : ResultSet) (values : Row) : ResultSet :=
  { rs with rows := rs.rows ++ [values], longest := widen rs.longest values }

/-- Ends the page: it begins behind the rows that were skipped. -/
def endPage (rs : ResultSet) (batch : BatchEnd) : ResultSet :=
  let first := rs.pageStart + batch.rowsSkipped.toNat
  { rs with
    firstRow := first
    rowCount := first + rs.rows.length
    ended := rs.ended || batch.endOfResultSet }

/-- The result set after an event. -/
def apply (rs : ResultSet) : RowEvent → ResultSet
  | .describe describe => rs.openWith describe
  | .outputBinds binds => { rs with outputs := binds }
  | .row row => rs.addRow row.values
  | .batchEnd batch => rs.endPage batch

/-- A result set takes every event. -/
def handler : Handler ResultSet :=
  fun event rs => .ok () (rs.apply event)

end ResultSet

end ProxyClient
