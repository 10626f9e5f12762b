/-
ProxyClient/Network/Basic.lean

Networks, as seen by a client: addresses are dialled, and what is sent over
a link brings bytes in return.  What a network does on the next call is in
its state alone, so that a network may do anything: lose a link, answer
twice, or answer half a frame.

`Traffic` is a network together with a record of what the client did on it.
The record has no influence on the network.
-/
import ProxyClient.Address.Endpoint
import ProxyClient.Bytes

namespace ProxyClient

/-- The number of a link to a server. -/
abbrev LinkId := Nat

/-- What becomes of bytes that are sent over a link. -/
inductive SendResult where
  /-- The link no longer takes any. -/
  | failed
  /-- They are taken, and `reply` arrives in return; with `reset` the link is
  given up by the other side. -/
  | accepted (reply : Bytes) (reset : Bool)
  deriving DecidableEq, Repr

/-- A network, with states in `ν`. -/
class Network (ν : Type) where
  /-- Dials an address; nothing if no server takes the call. -/
  dial : ν → Address → Option LinkId × ν
  /-- Sends the bytes of a request over a link. -/
  send : ν → LinkId → Bytes → SendResult × ν

/-- What a client did on a network. -/
inductive NetworkEvent where
  /-- A server took the call. -/
  | connected (address : Address)
  /-- No server took the call. -/
  | refused (address : Address)
  /-- The bytes of a request were sent. -/
  | sent (link : LinkId) (bytes : Bytes)
  /-- The bytes of a request could not be sent. -/
  | sendFailed (link : LinkId)
  /-- Some seconds passed between two rounds of dialling. -/
  | paused (seconds : Nat)
  deriving DecidableEq, Repr

/-- A network with a record of what the client did on it. -/
structure Traffic (ν : Type) where
  /-- The network. -/
  network : ν
  /-- The record, in order of time. -/
  events : List NetworkEvent := []
  deriving Repr

namespace Traffic

variable {ν : Type} [Network ν]

/-- Adds to the record. -/
def note (traffic : Traffic ν) (event : NetworkEvent) : Traffic ν :=
  { traffic with events := traffic.events ++ [event] }

/-- Dials an address.  The network sees nothing of an address that cannot be tried. -/
def dial (traffic : Traffic ν) (address : Address) : Option LinkId × Traffic ν :=
  if !address.isDialable then (none, traffic)
  else
    match Network.dial traffic.network address with
    | (some link, network) => (some link, { traffic with network }.note (.connected address))
    | (none, network) => (none, { traffic with network }.note (.refused address))

/-- Sends the bytes of a request. -/
def send (traffic : Traffic ν) (link : LinkId) (bytes : Bytes) : SendResult × Traffic ν :=
  match Network.send traffic.network link bytes with
  | (.failed, network) => (.failed, { traffic with network }.note (.sendFailed link))
  | (.accepted reply reset, network) =>
    (.accepted reply reset, { traffic with network }.note (.sent link bytes))

/-- The longest pause that is made at once, in seconds. -/
def longestPause : Nat := 2 ^ 63 - 1

/-- The pauses that make up a pause: the longest as often as they fit, and the rest. -/
def pauses (seconds : Nat) : List Nat :=
  List.replicate (seconds / longestPause) longestPause ++
    if seconds % longestPause = 0 then [] else [seconds % longestPause]

/-- Lets time pass. -/
def pause (traffic : Traffic ν) (seconds : Nat) : Traffic ν :=
  (pauses seconds).foldl (fun traffic part => traffic.note (.paused part)) traffic

end Traffic

end ProxyClient
