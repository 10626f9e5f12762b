/-
ProxyClient/Cursor/Rows.lean

Reading rows.  A row behind the page is fetched, with the rows that follow
it; the rows of the former page are no longer there then.
-/
import ProxyClient.Cursor.Basic

namespace ProxyClient.Cursor

variable {ν : Type} [Network ν]

/-- Fetches the next page after skipping rows, and tells how many rows it has. -/
def fetchPage (skip : Nat) (cursor : Cursor ν) : Outcome Nat (Cursor ν) :=
  match cursor.result.id with
  | none => .ok 0 cursor
  | some id =>
    let cursor := { cursor with result := cursor.result.beginPage }
    let fetched :=
      match cursor.source with
      | some reader =>
        (reader.fetch reception Reception.disk skip cursor.bufferSize.toNat cursor.parts).mapState
          fun (reader, parts) => { cursor with source := some reader }.withParts parts
      | none => cursor.query (.fetch id (UInt64.ofNat skip) cursor.bufferSize)
    match fetched with
    | .ok () cursor => .ok cursor.result.rows.length cursor
    | .error e cursor => .error e cursor

/-- The rows to skip in front of a row that is wanted.  A recorder is to see
every row. -/
def skipFor (row : Nat) (cursor : Cursor ν) : Nat :=
  if cursor.recorder.isSome then 0 else row - cursor.result.rowCount

/-- Fetches pages up to a row.  An error ends the search and is remembered, and
so does an empty page that is not the last. -/
def fetchTo (row : Nat) (cursor : Cursor ν) : Cursor ν :=
  if h : cursor.result.needsFetch row then
    match cursor.fetchPage (cursor.skipFor row) with
    | .error e after => after.note e
    | .ok count after =>
      if count = 0 ∧ !after.result.ended then after
      else if cursor.result.rowCount < after.result.rowCount then
        have := ResultSet.rowCount_le_of_needsFetch h
        fetchTo row after
      else after
  else cursor
termination_by row + 1 - cursor.result.rowCount

/-- Makes a row readable, if it can be. -/
def ensureRow (row : Nat) (cursor : Cursor ν) : Cursor ν :=
  cursor.checkEpoch.fetchTo row

/-! ### Access -/

/-- Looks into the page after a row was made readable. -/
def reading {α : Type} (row : Nat) (look : ResultSet → α) (cursor : Cursor ν) : α × Cursor ν :=
  let cursor := cursor.ensureRow row
  (look cursor.result, cursor)

/-- The bytes of a field. -/
def field (row : Nat) (key : FieldKey) : Cursor ν → Option Bytes × Cursor ν :=
  reading row (·.field row key)

/-- The text of a field. -/
def fieldText (row : Nat) (key : FieldKey) : Cursor ν → Option String × Cursor ν :=
  reading row (·.fieldText row key)

/-- The length of a field. -/
def fieldLength (row : Nat) (key : FieldKey) : Cursor ν → Nat × Cursor ν :=
  reading row (·.fieldLength row key)

/-- The texts of a row. -/
def row (row : Nat) : Cursor ν → Option (List (Option String)) × Cursor ν :=
  reading row (·.rowTexts row)

/-- The lengths of the values of a row. -/
def rowLengths (row : Nat) : Cursor ν → Option (List Nat) × Cursor ν :=
  reading row (·.rowLengths row)

/-- The texts of a row with the names of their columns. -/
def rowPairs (row : Nat) : Cursor ν → Option (List (String × Option String)) × Cursor ν :=
  reading row (·.rowPairs row)

/-- The texts of the rows from `first` on, up to one that is missing and at
most `limit` of them. -/
def rowsFrom (first : Nat) : Nat → Cursor ν → List (List (Option String)) × Cursor ν
  | 0, cursor => ([], cursor)
  | limit + 1, cursor =>
    match cursor.row first with
    | (none, cursor) => ([], cursor)
    | (some texts, cursor) =>
      let (rest, cursor) := rowsFrom (first + 1) limit cursor
      (texts :: rest, cursor)

end ProxyClient.Cursor
