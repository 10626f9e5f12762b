/-
ProxyClient/Address/Options.lean

How to connect: to which servers, as whom, and how long to try.  A
connection URL is
`relay://[user[:password]@]host[:port][/][?name=value&...]` with the names
`socket`, `retry_interval`, `tries` and `fallback`.
-/
import ProxyClient.Address.Endpoint
import ProxyClient.Address.Reader

namespace ProxyClient

/-- How to connect. -/
structure Options where
  /-- The servers to try, in order. -/
  endpoints : List Endpoint := []
  /-- The socket to try in front of the servers. -/
  socket : Option String := none
  /-- The user. -/
  user : String := ""
  /-- The password. -/
  password : String := ""
  /-- The seconds between two rounds. -/
  retryInterval : Nat := 0
  /-- The number of rounds; zero means one. -/
  tries : Nat := 1
  deriving DecidableEq, Repr, Inhabited

namespace Options

/-- The scheme of connection URLs. -/
def urlScheme : String := "relay"

/-- The options for one server. -/
def single (host : String) (port : UInt16) (user password : String) : Options :=
  { endpoints := [⟨host, port⟩], user, password }

/-- Takes one name and value of a query. -/
def parameter (options : Options) (name value : String) : Except Error Options :=
  if name = "socket" then .ok { options with socket := some value }
  else if name = "retry_interval" then
    match Text.natural? (2 ^ 64) value with
    | some seconds => .ok { options with retryInterval := seconds }
    | none => .error (.usage (.retryInterval value))
  else if name = "tries" then
    match (Text.natural? (2 ^ 32) value).filter (0 < ·) with
    | some tries => .ok { options with tries }
    | none => .error (.usage (.tries value))
  else if name = "fallback" then do
    return { options with endpoints := options.endpoints ++ [← Endpoint.parse value] }
  else .error (.usage (.unknownParameter name))

/-- The options that a URL gives.  The first fault in its query counts; of
repeated names the last, but every `fallback`. -/
def ofUrl (url : Url) : Except Error Options := do
  if url.scheme ≠ urlScheme then throw (.usage (.scheme url.scheme))
  let first : List Endpoint := match url.host with
    | some host => [⟨host, url.port.getD Endpoint.defaultPort⟩]
    | none => []
  let options : Options := {
    endpoints := first, user := url.username, password := url.password.getD "" }
  let options ← url.query.foldlM (fun options pair => options.parameter pair.1 pair.2) options
  if options.endpoints.isEmpty ∧ options.socket.isNone then throw (.usage .noServer)
  return options

/-- The options that a connection URL gives, as a reader finds its parts. -/
def parseWith (read : Url.Reader) (text : String) : Except Error Options :=
  match read text with
  | .ok url => ofUrl url
  | .error fault => .error (.usage (.url fault))

/-- The options that a connection URL gives. -/
def parse (text : String) : Except Error Options :=
  parseWith Url.parse text

end Options

end ProxyClient
