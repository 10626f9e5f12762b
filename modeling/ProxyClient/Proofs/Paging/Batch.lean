/-
ProxyClient/Proofs/Paging/Batch.lean

Result sets as a server holds them, and the batches it sends of them.  A
server stands at a row; a fetch skips rows from there, sends a batch, and
the server stands behind it.  `Batch.Within` is what is promised of every
batch: rows are skipped as asked as long as there are any, and no more rows
are sent than asked for.  `Batch.documented` is the batch of a server that
sends as many as it can.
-/
import ProxyClient.Proofs.Exchange.Events
import ProxyClient.Proofs.Paging.Window

namespace ProxyClient

/-! ### Result sets at a server -/

/-- A result set at a server: its rows, and how it is described. -/
structure RowStore where
  /-- Its identifier. -/
  id : ResultSetId
  /-- Its rows. -/
  rows : List DataRow
  /-- Its description to a client that is sent the rows from a given one on. -/
  describe : ExecuteOptions → Nat → Describe
  /-- The values of output variables, as they follow the description. -/
  outputs : List (List OutputBind)
  /-- A row fits into a frame. -/
  row_fits : ∀ row ∈ rows, row.frame.Fits
  /-- A description can be read. -/
  describe_legible : ∀ options first, (RowEvent.describe (describe options first)).Legible
  /-- It names the result set. -/
  describe_id : ∀ options first, (describe options first).head.id = id
  /-- A result set is opened at its first row. -/
  describe_zero : ∀ options, (describe options 0).head.firstRow = 0
  /-- The values of output variables can be read. -/
  outputs_legible : ∀ binds ∈ outputs, (RowEvent.outputBinds binds).Legible

/-! ### Batches -/

/-- A batch of rows. -/
structure Batch where
  /-- The rows in front of it that were skipped. -/
  skipped : Nat
  /-- The rows of the batch. -/
  count : Nat
  /-- The server says that no rows are left. -/
  ended : Bool
  deriving DecidableEq, Repr

namespace Batch

/-- Where the server stands behind the batch. -/
def next (batch : Batch) (position : Nat) : Nat :=
  position + batch.skipped + batch.count

/-- The message that closes the batch. -/
def ending (batch : Batch) : BatchEnd :=
  ⟨batch.ended, UInt64.ofNat batch.skipped⟩

/-- The batch as it is sent: its rows and its end. -/
def events (batch : Batch) (rows : List DataRow) (position : Nat) : List RowEvent :=
  ((rows.drop (position + batch.skipped)).take batch.count).map .row ++ [.batchEnd batch.ending]

/-- What is promised of the batch that a fetch brings: `total` rows in all, the
server standing at `position`. -/
structure Within (batch : Batch) (total position : Nat) (skip : UInt64) (limit : UInt32) : Prop where
  /-- Rows are skipped as asked, as long as there are any. -/
  skipped_eq : batch.skipped = min skip.toNat (total - position)
  /-- The rows of the batch exist. -/
  next_le : batch.next position ≤ total
  /-- There are no more of them than asked for. -/
  count_le : limit ≠ 0 → batch.count ≤ limit.toNat
  /-- All of them are sent if no number was asked for. -/
  next_eq : limit = 0 → batch.next position = total

theorem toNat_rowsSkipped_ending {batch : Batch} (small : batch.skipped < 2 ^ 64) :
    batch.ending.rowsSkipped.toNat = batch.skipped := by
  show (UInt64.ofNat batch.skipped).toNat = _
  rw [UInt64.toNat_ofNat', Nat.mod_eq_of_lt small]

theorem Within.toNat_skipped {batch : Batch} {total position : Nat} {skip : UInt64} {limit : UInt32}
    (h : batch.Within total position skip limit) :
    batch.ending.rowsSkipped.toNat = batch.skipped := by
  have small : batch.skipped ≤ skip.toNat := by rw [h.skipped_eq]; omega
  exact toNat_rowsSkipped_ending (Nat.lt_of_le_of_lt small skip.toNat_lt)

/-- Behind the rows that were skipped stands what stands behind all that were to
be skipped. -/
theorem Within.drop_eq {batch : Batch} {rows : List DataRow} {position : Nat} {skip : UInt64}
    {limit : UInt32} (h : batch.Within rows.length position skip limit) :
    rows.drop (position + batch.skipped) = rows.drop (position + skip.toNat) := by
  have skipped := h.skipped_eq
  rcases Nat.le_total skip.toNat (rows.length - position) with inside | outside
  · rw [skipped, Nat.min_eq_left inside]
  · rw [skipped, Nat.min_eq_right outside, List.drop_eq_nil_of_le (by omega),
      List.drop_eq_nil_of_le (by omega)]

/-- The batch of a server that sends as many rows as it can, and knows that
none are left if it was asked for all or could not send as many as asked for. -/
def documented (total position : Nat) (skip : UInt64) (limit : UInt32) : Batch :=
  let skipped := min skip.toNat (total - position)
  let left := total - (position + skipped)
  let count := if limit = 0 then left else min limit.toNat left
  ⟨skipped, count, limit = 0 ∨ count < limit.toNat⟩

theorem documented_within {total position : Nat} (h : position ≤ total) (skip : UInt64)
    (limit : UInt32) : (documented total position skip limit).Within total position skip limit where
  skipped_eq := rfl
  next_le := by
    simp only [documented, next]
    split <;> omega
  count_le := by
    intro some_
    simp only [documented, if_neg some_]
    omega
  next_eq := by
    intro all
    simp only [documented, next, if_pos all]
    omega

/-- Nothing is skipped that is not to be skipped. -/
theorem skipped_documented_zero (total position : Nat) (limit : UInt32) :
    (documented total position 0 limit).skipped = 0 :=
  Nat.zero_min _

/-- The server says that no rows are left only where none are. -/
theorem next_documented_of_ended {total position : Nat} (h : position ≤ total) {skip : UInt64}
    {limit : UInt32} (ended : (documented total position skip limit).ended = true) :
    (documented total position skip limit).next position = total := by
  simp only [documented, next, decide_eq_true_eq] at ended ⊢
  split
  · omega
  · next some_ =>
    rw [if_neg some_] at ended
    rcases ended with all | few
    · exact absurd all some_
    · omega

/-- Unless it says that no rows are left, the server has sent as many as asked for. -/
theorem documented_of_not_ended {total position : Nat} {skip : UInt64} {limit : UInt32}
    (more : (documented total position skip limit).ended = false) :
    limit ≠ 0 ∧ (documented total position skip limit).skipped = skip.toNat ∧
      (documented total position skip limit).count = limit.toNat := by
  simp only [documented, decide_eq_false_iff_not, not_or] at more ⊢
  obtain ⟨some_, many⟩ := more
  have positive : limit.toNat ≠ 0 := fun zero => some_ (UInt32.toNat_inj.mp zero)
  rw [if_neg some_] at many ⊢
  refine ⟨some_, ?_, ?_⟩ <;> omega

/-- The answer to a statement: a description, the values of output variables,
and a first batch. -/
def opening (batch : Batch) (describe : Describe) (outputs : List (List OutputBind))
    (rows : List DataRow) : List RowEvent :=
  .describe describe :: (outputs.map .outputBinds ++ batch.events rows 0)

variable {batch : Batch} {describe : Describe} {outputs : List (List OutputBind)}
  {rows : List DataRow} {position : Nat}

theorem orderly_events (fit : ∀ row ∈ rows, row.frame.Fits) :
    Orderly .processingRows (batch.events rows position) :=
  orderly_rows (fun row mem => fit row (List.mem_of_mem_drop (List.mem_of_mem_take mem)))
    batch.ending

theorem orderly_opening (legible : (RowEvent.describe describe).Legible)
    (outputs_legible : ∀ binds ∈ outputs, (RowEvent.outputBinds binds).Legible)
    (fit : ∀ row ∈ rows, row.frame.Fits) :
    Orderly .waitingDescribe (batch.opening describe outputs rows) := by
  refine ⟨rfl, legible, ?_⟩
  show Orderly .processingRows (outputs.map RowEvent.outputBinds ++ batch.events rows 0)
  induction outputs with
  | nil => exact orderly_events fit
  | cons binds outputs ih =>
    exact ⟨rfl, outputs_legible binds (by simp),
      ih fun b mem => outputs_legible b (List.mem_cons_of_mem _ mem)⟩

/-- The end of the batch stands behind everything else. -/
theorem opening_eq (batch : Batch) (describe : Describe) (outputs : List (List OutputBind))
    (rows : List DataRow) :
    batch.opening describe outputs rows =
      (.describe describe :: (outputs.map .outputBinds ++
        ((rows.drop (0 + batch.skipped)).take batch.count).map .row)) ++
      [.batchEnd batch.ending] := by
  rw [opening, events, List.cons_append, List.append_assoc]

end Batch

namespace RowStore

/-- The answer to a fetch: the rows of a batch and its end. -/
def fetched (store : RowStore) (position : Nat) (batch : Batch) : List RowEvent :=
  batch.events store.rows position

/-- The answer to a client that attaches to a parked result set. -/
def attached (store : RowStore) (options : ExecuteOptions) (position : Nat) (batch : Batch) :
    List RowEvent :=
  .describe (store.describe options position) :: store.fetched position batch

/-- The answer to a statement. -/
def opened (store : RowStore) (options : ExecuteOptions) (batch : Batch) : List RowEvent :=
  .describe (store.describe options 0) ::
    (store.outputs.map .outputBinds ++ store.fetched 0 batch)

variable (store : RowStore)

theorem attached_eq (options : ExecuteOptions) (position : Nat) (batch : Batch) :
    store.attached options position batch =
      (.describe (store.describe options position) ::
        ((store.rows.drop (position + batch.skipped)).take batch.count).map .row) ++
      [.batchEnd batch.ending] := rfl

theorem opened_eq (options : ExecuteOptions) (batch : Batch) :
    store.opened options batch =
      (.describe (store.describe options 0) :: (store.outputs.map .outputBinds ++
        ((store.rows.drop (0 + batch.skipped)).take batch.count).map .row)) ++
      [.batchEnd batch.ending] :=
  batch.opening_eq (store.describe options 0) store.outputs store.rows

theorem orderly_fetched (position : Nat) (batch : Batch) :
    Orderly .processingRows (store.fetched position batch) :=
  Batch.orderly_events store.row_fits

theorem orderly_attached (options : ExecuteOptions) (position : Nat) (batch : Batch) :
    Orderly .waitingDescribe (store.attached options position batch) :=
  ⟨rfl, store.describe_legible options position, store.orderly_fetched position batch⟩

theorem orderly_opened (options : ExecuteOptions) (batch : Batch) :
    Orderly .waitingDescribe (store.opened options batch) :=
  Batch.orderly_opening (store.describe_legible options 0) store.outputs_legible store.row_fits

end RowStore

end ProxyClient
