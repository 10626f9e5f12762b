/-
ProxyClient/Exchange/Command.lean

Commands.  The answer is one frame: a text for `identify`, a suspension for
`suspendSession`, a plain acknowledgement for all others, or an error.
-/
import ProxyClient.Exchange.Basic
import ProxyClient.Message.Request

namespace ProxyClient

/-- The answer to a command. -/
inductive Reply where
  /-- It was done. -/
  | ok
  /-- A text. -/
  | value (text : String)
  /-- The session is parked. -/
  | suspended (suspension : Suspension)
  deriving DecidableEq, Repr

namespace Command

/-- The answer that a frame gives to a command. -/
def replyOf (command : Command) (frame : Frame) : Except Error Reply :=
  let unexpected : Except Error Reply := .error (.wire (.unexpectedReply frame.type command))
  match ServerMessage.Kind.ofByte? frame.type with
  | some .error => .error (ErrorReport.errorOf frame.payload)
  | some .value =>
    match command with
    | identify => (decoded SingleValue.decoder frame.payload).map .value
    | _ => unexpected
  | some .suspended =>
    match command with
    | suspendSession => (decoded Suspension.decoder frame.payload).map .suspended
    | _ => unexpected
  | some .ok =>
    match command with
    | identify | suspendSession => unexpected
    | _ => .ok .ok
  | _ => unexpected

/-- The exchange of a command.  Its state is the last answer. -/
def exchange (command : Command) : Exchange (Option Reply) where
  start := fun reply =>
    match (Request.command command).encode with
    | .ok bytes => .ok bytes reply
    | .error e => .error e reply
  step := fun frame reply =>
    match command.replyOf frame with
    | .ok answer => .ok .done (some answer)
    | .error e => .error e reply

/-- The answer after the exchange. -/
def answer : Option Reply → Except Error Reply
  | some reply => .ok reply
  | none => .error (.wire .noReply)

end Command

end ProxyClient
