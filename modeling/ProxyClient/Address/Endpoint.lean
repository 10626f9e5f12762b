/-
ProxyClient/Address/Endpoint.lean

The addresses of servers.  As text an endpoint is `host:port`; read from a
text without a colon it has the port 9000.

A host that spells a number is dialled by that number, however it is spelt.
Some addresses cannot even be tried: names with a zero byte, and sockets
whose path does not fit into the address of a socket.
-/
import ProxyClient.Address.Ipv6
import ProxyClient.Error
import ProxyClient.Text.Split

namespace ProxyClient

/-- The address of a server. -/
structure Endpoint where
  /-- A name or a number. -/
  host : String
  /-- The port. -/
  port : UInt16
  deriving DecidableEq, Repr, Inhabited

namespace Endpoint

/-- The port of a server that names none. -/
def defaultPort : UInt16 := 9000

/-- The endpoint as text. -/
def toText (endpoint : Endpoint) : String :=
  endpoint.host ++ ":" ++ Text.decimal endpoint.port.toNat

/-- The endpoint that a text spells: everything up to the last colon is the host. -/
def parse (text : String) : Except Error Endpoint :=
  match Text.splitLast ':' text.toList with
  | none => .ok ⟨text, defaultPort⟩
  | some (host, port) =>
    match Text.natural? 65536 (String.ofList port) with
    | some n => .ok ⟨String.ofList host, UInt16.ofNat n⟩
    | none => .error (.usage (.endpointPort text))

end Endpoint

/-- Where a client may connect to. -/
inductive Address where
  /-- A server reached by its endpoint. -/
  | server (endpoint : Endpoint)
  /-- A server reached by a socket in the file system. -/
  | socket (path : String)
  deriving DecidableEq, Repr

/-- An endpoint as it is dialled: an address of eight pieces in its mixed form,
and every other host as it stands. -/
def Endpoint.dialled (endpoint : Endpoint) : Endpoint :=
  match Ipv6.parse? endpoint.host.toList with
  | some pieces => { endpoint with host := Ipv6.mixedText pieces }
  | none => endpoint

namespace Address

/-- An address as text, a server as it is dialled. -/
def toText : Address → String
  | server endpoint => endpoint.dialled.toText
  | socket path => "unix:" ++ path

/-- The number of bytes that the path of a socket may have. -/
def socketPathLimit : Nat := 107

/-- An address that can be tried: its name holds no zero byte, and the path of
a socket is short enough. -/
def isDialable : Address → Bool
  | server endpoint => Char.ofNat 0 ∉ endpoint.host.toList
  | socket path => Char.ofNat 0 ∉ path.toList ∧ path.utf8ByteSize ≤ socketPathLimit

end Address

end ProxyClient
