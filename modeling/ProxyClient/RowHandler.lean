/-
ProxyClient/RowHandler.lean

Consumers of the answer to a query.  A handler takes one event after the
other, changes its state and may fail; after a failure it keeps the state
that it had reached.

`tee` hands every event to two handlers, to the second only if the first
took it.
-/
import ProxyClient.Message.Rows

namespace ProxyClient

/-- A part of the answer to a query. -/
inductive RowEvent where
  /-- A result set is opened or attached to. -/
  | describe (describe : Describe)
  /-- The values of output variables. -/
  | outputBinds (binds : List OutputBind)
  /-- A row. -/
  | row (row : DataRow)
  /-- The end of a batch of rows. -/
  | batchEnd (batch : BatchEnd)
  deriving DecidableEq, Repr

/-- What is left of an action that may fail: the state is kept in either case. -/
abbrev Outcome (α σ : Type) := EStateM.Result Error σ α

/-- The state after an action. -/
def Outcome.state {α σ : Type} : Outcome α σ → σ
  | .ok _ s => s
  | .error _ s => s

/-- The value or error of an action. -/
def Outcome.toExcept {α σ : Type} : Outcome α σ → Except Error α
  | .ok a _ => .ok a
  | .error e _ => .error e

/-- The same outcome with another state. -/
def Outcome.mapState {α σ τ : Type} (f : σ → τ) : Outcome α σ → Outcome α τ
  | .ok a s => .ok a (f s)
  | .error e s => .error e (f s)

/-- A consumer of the answer to a query, with states in `σ`. -/
abbrev Handler (σ : Type) := RowEvent → σ → Outcome Unit σ

namespace Handler

/-- Counts rows and does nothing else. -/
def counter : Handler Nat
  | .row _, n => .ok () (n + 1)
  | _, n => .ok () n

/-- Hands every event to two handlers, to the second only if the first took it. -/
def tee {α β : Type} (first : Handler α) (second : Handler β) : Handler (α × β) :=
  fun event (a, b) =>
    match first event a with
    | .error e a => .error e (a, b)
    | .ok () a => (second event b).mapState (a, ·)

/-- A handler that may be absent, and then takes everything. -/
def optional {α : Type} (handler : Handler α) : Handler (Option α)
  | _, none => .ok () none
  | event, some a => (handler event a).mapState some

/-- Hands over events up to the first failure. -/
def run {α : Type} (handler : Handler α) : List RowEvent → α → Outcome Unit α
  | [], a => .ok () a
  | event :: rest, a =>
    match handler event a with
    | .ok () a => handler.run rest a
    | .error e a => .error e a

section

variable {α β : Type} {handler first : Handler α} {second : Handler β} {event : RowEvent}
  {a a' : α} {b b' : β} {e : Error}

theorem tee_of_ok (taken : first event a = .ok () a') (taken' : second event b = .ok () b') :
    first.tee second event (a, b) = .ok () (a', b') := by
  rw [tee, taken, taken']
  rfl

/-- What the second refuses, the first has taken. -/
theorem tee_of_ok_error (taken : first event a = .ok () a') (refused : second event b = .error e b') :
    first.tee second event (a, b) = .error e (a', b') := by
  rw [tee, taken, refused]
  rfl

/-- What the first refuses, the second is not asked. -/
theorem tee_of_error (refused : first event a = .error e a') :
    first.tee second event (a, b) = .error e (a', b) := by
  rw [tee, refused]

theorem run_of_ok (taken : handler event a = .ok () a') (rest : List RowEvent) :
    handler.run (event :: rest) a = handler.run rest a' := by
  rw [run, taken]

theorem run_of_error (refused : handler event a = .error e a') (rest : List RowEvent) :
    handler.run (event :: rest) a = .error e a' := by
  rw [run, refused]

end

end Handler

end ProxyClient
