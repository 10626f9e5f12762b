/-
ProxyClient/Network/Transport.lean

A link with the bytes that have arrived on it, and exchanges over links.  An
exchange sends one request and reads frames until the answer is complete.
Bytes behind the answer are kept for the next exchange.
-/
import ProxyClient.Exchange.Basic
import ProxyClient.Network.Basic
import ProxyClient.Wire.Source

namespace ProxyClient

/-! ### Arrived bytes -/

/-- What has arrived on a link and was not read. -/
structure Inbox where
  /-- The bytes. -/
  bytes : Bytes := []
  /-- The other side gave the link up; this is noticed once behind the bytes. -/
  reset : Bool := false
  deriving DecidableEq, Repr, Inhabited

namespace Inbox

/-- Takes what a request brings in return. -/
def add (inbox : Inbox) (reply : Bytes) (reset : Bool) : Inbox :=
  ⟨inbox.bytes ++ reply, inbox.reset || reset⟩

/-- Reads at most `n` bytes.  The end of the bytes is the end of the input. -/
def read (inbox : Inbox) (n : Nat) : ReadOutcome × Inbox :=
  if inbox.bytes.isEmpty && inbox.reset then
    (.failed .connectionReset, { inbox with reset := false })
  else (.data (inbox.bytes.take n), { inbox with bytes := inbox.bytes.drop n })

instance : ByteSource Inbox where
  read := read
  remaining inbox := inbox.bytes.length
  interruptions _ := 0
  remaining_add_le := by
    intro inbox n
    simp only [read]
    split
    · simp [ReadOutcome.size]
    · simp only [ReadOutcome.size, List.length_drop, List.length_take]; omega
  interruptions_lt := by
    intro inbox n inbox' h
    simp only [read] at h
    split at h <;> simp at h

end Inbox

/-! ### Answers -/

/-- Reads frames until an exchange has seen its last.  It is broken if the
input ends in front of a frame. -/
def readAnswer {ι σ : Type} [ByteSource ι] (exchange : Exchange σ) (input : ι) (state : σ) :
    Outcome Unit (ι × σ) :=
  match h : readFrame input with
  | (.ended, input) => .error .connectionBroken (input, state)
  | (.failed _ e, input) => .error e (input, state)
  | (.frame frame, input') =>
    match exchange.step frame state with
    | .error e state => .error e (input', state)
    | .ok .done state => .ok () (input', state)
    | .ok .more state =>
      have := remaining_readFrame_lt h
      readAnswer exchange input' state
termination_by ByteSource.remaining input

/-! ### Transports -/

/-- A link with what has arrived on it. -/
structure Transport where
  /-- The link. -/
  link : LinkId
  /-- What has arrived and was not read. -/
  inbox : Inbox := {}
  deriving DecidableEq, Repr

namespace Transport

variable {ν : Type} [Network ν]

/-- Dials an address. -/
def dial (address : Address) (traffic : Traffic ν) : Option Transport × Traffic ν :=
  let (link, traffic) := traffic.dial address
  (link.map fun link => { link }, traffic)

/-- Sends the bytes of a request. -/
def send (transport : Transport) (bytes : Bytes) (traffic : Traffic ν) :
    Outcome Unit (Transport × Traffic ν) :=
  match traffic.send transport.link bytes with
  | (.failed, traffic) => .error (.io .brokenPipe) (transport, traffic)
  | (.accepted reply reset, traffic) =>
    .ok () ({ transport with inbox := transport.inbox.add reply reset }, traffic)

/-- Carries out an exchange: nothing is sent if its request cannot be written. -/
def perform {σ : Type} (exchange : Exchange σ) (transport : Transport) (traffic : Traffic ν)
    (state : σ) : Outcome Unit ((Transport × Traffic ν) × σ) :=
  match exchange.start state with
  | .error e state => .error e ((transport, traffic), state)
  | .ok bytes state =>
    match transport.send bytes traffic with
    | .error e ends => .error e (ends, state)
    | .ok () (transport, traffic) =>
      (readAnswer exchange transport.inbox state).mapState fun (inbox, state) =>
        (({ transport with inbox }, traffic), state)

end Transport

end ProxyClient
