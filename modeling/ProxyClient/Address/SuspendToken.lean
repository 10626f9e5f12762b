/-
ProxyClient/Address/SuspendToken.lean

The token of a suspended session: which server holds it, and under what
name.  As text it is `host:port/id`, and so it can travel to another
process.
-/
import ProxyClient.Address.Endpoint

namespace ProxyClient

/-- What it takes to reclaim a suspended session. -/
structure SuspendToken where
  /-- The host of the server that holds the session. -/
  host : String
  /-- The port of that server. -/
  port : UInt16
  /-- The name of the session there. -/
  id : String
  deriving DecidableEq, Repr

namespace SuspendToken

/-- The token as text. -/
def toText (token : SuspendToken) : String :=
  token.host ++ ":" ++ Text.decimal token.port.toNat ++ "/" ++ token.id

/-- The token that a text spells.  The identifier begins after the first
slash, the port after the last colon in front of it; neither host nor
identifier may be empty. -/
def parse? (text : String) : Option SuspendToken := do
  let (address, id) ← Text.splitFirst '/' text.toList
  let (host, port) ← Text.splitLast ':' address
  let n ← Text.natural? 65536 (String.ofList port)
  if host.isEmpty ∨ id.isEmpty then none
  else some ⟨String.ofList host, UInt16.ofNat n, String.ofList id⟩

/-- The token that a text spells, or the error for any other text. -/
def parse (text : String) : Except Error SuspendToken :=
  match parse? text with
  | some token => .ok token
  | none => .error (.usage (.suspendToken text))

/-- The server that holds the session. -/
def endpoint (token : SuspendToken) : Endpoint :=
  ⟨token.host, token.port⟩

end SuspendToken

end ProxyClient
