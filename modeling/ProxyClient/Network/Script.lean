/-
ProxyClient/Network/Script.lean

A network that follows a script.  Each server of the script takes one call
and then gives its replies in order, one to each request; once they are used
up it takes requests and stays silent.  The request that ends a session is
not answered and uses up no reply.
-/
import ProxyClient.Message.Request
import ProxyClient.Network.Basic

namespace ProxyClient

/-- A reply in a script. -/
inductive ScriptedReply where
  /-- These bytes. -/
  | bytes (bytes : Bytes)
  /-- The request is not taken. -/
  | failure
  /-- The request is taken, and then the link is given up. -/
  | reset
  deriving DecidableEq, Repr

/-- A server that takes one call. -/
structure ScriptedServer where
  /-- The address at which it waits, as text. -/
  address : String
  /-- Its replies. -/
  replies : List ScriptedReply
  deriving DecidableEq, Repr

/-- A network that follows a script. -/
structure ScriptedNetwork where
  /-- The servers that still wait for a call. -/
  waiting : List ScriptedServer
  /-- The replies that are left on each link. -/
  links : List (List ScriptedReply) := []
  deriving DecidableEq, Repr

namespace ScriptedNetwork

/-- The first waiting server at an address takes the call. -/
def dial (network : ScriptedNetwork) (address : Address) : Option LinkId × ScriptedNetwork :=
  let isThere (server : ScriptedServer) : Bool := server.address == address.toText
  match network.waiting.find? isThere with
  | none => (none, network)
  | some server =>
    (some network.links.length,
      { waiting := network.waiting.eraseP isThere, links := network.links ++ [server.replies] })

/-- Uses up the next reply of a link. -/
def send (network : ScriptedNetwork) (link : LinkId) (bytes : Bytes) :
    SendResult × ScriptedNetwork :=
  if bytes.head? = some Request.endSessionType then (.accepted [] false, network)
  else
    match network.links[link]? with
    | some (reply :: rest) =>
      let network := { network with links := network.links.set link rest }
      match reply with
      | .bytes reply => (.accepted reply false, network)
      | .failure => (.failed, network)
      | .reset => (.accepted [] true, network)
    | _ => (.accepted [] false, network)

instance : Network ScriptedNetwork where
  dial := dial
  send := send

end ScriptedNetwork

end ProxyClient
