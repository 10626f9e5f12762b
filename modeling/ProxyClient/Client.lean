/-
ProxyClient/Client.lean

A program that uses the library over time.  It has no connection at first;
it connects, opens a cursor on its connection, closes the cursor, and lets
the connection go.  The network, the disk and the clock are there all the
time, whoever holds them.
-/
import ProxyClient.Cursor.Statement

namespace ProxyClient

/-- Where a program stands. -/
inductive Client (ν : Type) where
  /-- It has no connection. -/
  | idle (traffic : Traffic ν) (disk : Disk) (now : Int64)
  /-- It has a connection. -/
  | connected (session : Session ν) (disk : Disk) (now : Int64)
  /-- It has a cursor on its connection. -/
  | working (cursor : Cursor ν)
  deriving Repr

namespace Client

variable {ν : Type}

/-! ### The world -/

/-- The network with the record of what was done on it. -/
def traffic : Client ν → Traffic ν
  | idle traffic _ _ => traffic
  | connected session _ _ => session.traffic
  | working cursor => cursor.session.traffic

/-- The disk. -/
def disk : Client ν → Disk
  | idle _ disk _ | connected _ disk _ => disk
  | working cursor => cursor.disk

/-- The clock, in seconds. -/
def now : Client ν → Int64
  | idle _ _ now | connected _ _ now => now
  | working cursor => cursor.now

/-- The same program on another state of the network. -/
def withTraffic (client : Client ν) (traffic : Traffic ν) : Client ν :=
  match client with
  | idle _ disk now => idle traffic disk now
  | connected session disk now => connected { session with traffic } disk now
  | working cursor => working { cursor with session := { cursor.session with traffic } }

/-- The same program with another disk. -/
def withDisk (client : Client ν) (disk : Disk) : Client ν :=
  match client with
  | idle traffic _ now => idle traffic disk now
  | connected session _ now => connected session disk now
  | working cursor => working { cursor with disk }

/-- The same program at another time. -/
def setClock (client : Client ν) (now : Int64) : Client ν :=
  match client with
  | idle traffic disk _ => idle traffic disk now
  | connected session disk _ => connected session disk now
  | working cursor => working { cursor with now }

/-- Takes the record of what was done on the network. -/
def takeEvents (client : Client ν) : List NetworkEvent × Client ν :=
  (client.traffic.events, client.withTraffic { client.traffic with events := [] })

/-! ### Connections and cursors -/

variable [Network ν]

/-- Opens a cursor on the connection. -/
def openCursor : Client ν → Client ν
  | connected session disk now => working (Cursor.onSession session disk now)
  | client => client

/-- Closes the cursor. -/
def closeCursor : Client ν → Client ν
  | working cursor =>
    let (session, disk) := cursor.release
    connected session disk cursor.now
  | client => client

/-- Lets the cursor go, and then the connection. -/
def close (client : Client ν) : Client ν :=
  match client.closeCursor with
  | connected session disk now => idle session.release disk now
  | client => client

/-- Ends the session of the connection. -/
def endSession : Client ν → Outcome Unit (Client ν)
  | connected session disk now => session.finish.mapState (idle · disk now)
  | client => .ok () client

/-- Opens a connection.  The old one is let go once the new one is open. -/
def connectBy (connect : Traffic ν → Outcome Connection (Traffic ν)) (client : Client ν) :
    Outcome Connection (Client ν) :=
  match connect client.traffic with
  | .error e traffic => .error e (client.withTraffic traffic)
  | .ok connection traffic =>
    let rest := (client.withTraffic traffic).close
    .ok connection (connected ⟨connection, rest.traffic⟩ rest.disk rest.now)

end Client

end ProxyClient
