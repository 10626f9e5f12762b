/-
ProxyClient/Exchange/Basic.lean

Request and answer without a transport.  An exchange begins with the bytes
of its request and then takes the frames of the answer one by one, until it
has seen the last.
-/
import ProxyClient.RowHandler

namespace ProxyClient

/-- Whether an answer goes on. -/
inductive Progress where
  /-- More frames follow. -/
  | more
  /-- The frame was the last. -/
  | done
  deriving DecidableEq, Repr

/-- A request and the way its answer is taken, with states in `σ`. -/
structure Exchange (σ : Type) where
  /-- The bytes of the request. -/
  start : σ → Outcome Bytes σ
  /-- Takes a frame of the answer. -/
  step : Frame → σ → Outcome Progress σ

end ProxyClient
