import Courier.Assembly
import Courier.Failure
import Courier.Transport.Basic

/-!
# The journal

Everything worth noting is an event, and a journal is the sequence of events. An event has a level
and a wording; which levels are shown is for the reader of the journal to decide.
-/

namespace Courier

/-- How severe an event is, the most severe first. -/
inductive Level where
  | error
  | warn
  | info
  | debug
  | trace
  deriving DecidableEq, Repr

def Level.name : Level → String
  | .error => "ERROR"
  | .warn => "WARN"
  | .info => "INFO"
  | .debug => "DEBUG"
  | .trace => "TRACE"

def Level.rank : Level → Nat
  | .error => 1
  | .warn => 2
  | .info => 3
  | .debug => 4
  | .trace => 5

inductive Command where
  | subscribe (topic : String)
  | unsubscribe (topic : String)
  deriving DecidableEq, Repr

def Command.describe : Command → String
  | .subscribe topic => "Subscribe(" ++ Text.quote topic ++ ")"
  | .unsubscribe topic => "Unsubscribe(" ++ Text.quote topic ++ ")"

inductive AgentEvent where
  | connected (address session : String)
  | restored (address session : String)
  | unreachable (address : String) (cause : Fault)
  | stillUnreachable (address : String) (cause : Fault)
  | sessionLost (address : String) (cause : Fault)
  | disconnecting (session : String)
  | nameTaken (name : String)
  | rejoinFailed (topic : String) (cause : Fault)
  | keepAliveFailed (cause : Fault)
  deriving DecidableEq, Repr

namespace AgentEvent

def level : AgentEvent → Level
  | connected .. | restored .. => .info
  | unreachable .. | sessionLost .. | rejoinFailed .. | keepAliveFailed .. => .warn
  | stillUnreachable .. | disconnecting .. | nameTaken .. => .debug

def message : AgentEvent → String
  | connected address session => "Connected to " ++ address ++ " as " ++ session
  | restored address session => "Connection to " ++ address ++ " restored as " ++ session
  | unreachable address cause => "Unable to connect to " ++ address ++ ": " ++ cause.message
  | stillUnreachable address cause =>
    "Still unable to connect to " ++ address ++ ": " ++ cause.message
  | sessionLost address cause => "Session with " ++ address ++ " lost: " ++ cause.message
  | disconnecting session => "Disconnecting " ++ session
  | nameTaken name => "Client name " ++ name ++ " taken, trying next suffix"
  | rejoinFailed topic cause =>
    "Failed to re-join " ++ topic ++ " after connect: " ++ cause.message
  | keepAliveFailed cause => "Keep-alive failed: " ++ cause.message

end AgentEvent

inductive RelayEvent where
  | started
  | stopped (iterations : Nat)
  | killRequested
  | inboundClosed
  | applied (command : Command)
  /-- Something failed for want of a session, which the agent has noted already. -/
  | skipped (failure : Failure)
  | failed (failure : Failure)
  | keepAlive (sender : String)
  /-- A delivery without flags that is no keep-alive. -/
  | unmarked (sender : String)
  | unknownKind (flags : Flags) (sender : String)
  | dropped (cause : AssemblyError)
  deriving DecidableEq, Repr

namespace RelayEvent

def describeFlags (f : Flags) : String :=
  "KindFlags(" ++ (if f = .empty then "0x0" else f.text) ++ ")"

def level : RelayEvent → Level
  | started | stopped _ => .info
  | failed _ | unknownKind .. | dropped _ => .warn
  | killRequested | inboundClosed | applied _ | skipped _ => .debug
  | keepAlive _ | unmarked _ => .trace

def message : RelayEvent → String
  | started => "Message relay started"
  | stopped iterations => "Message relay stopped after " ++ iterations.repr ++ " iterations"
  | killRequested => "Relay kill requested"
  | inboundClosed => "Inbound queue closed, stopping relay"
  | applied command => "Applied " ++ command.describe
  | skipped failure => "Relay iteration skipped: " ++ failure.message
  | failed failure => "Relay operation failed: " ++ failure.message
  | keepAlive sender => "Keep-alive from " ++ sender
  | unmarked sender => "Dropping empty-kind message from " ++ sender
  | unknownKind flags sender =>
    "Dropping message of unknown kind " ++ describeFlags flags ++ " from " ++ sender
  | dropped cause => "Dropping fragment: " ++ cause.message

end RelayEvent

structure Remark where
  component? : Option String := none
  level : Level := .info
  text : String
  deriving DecidableEq, Repr

inductive Event where
  | daemon (e : DaemonEvent)
  | assembly (e : AssemblyEvent)
  | agent (e : AgentEvent)
  | relay (e : RelayEvent)
  | remark (r : Remark)
  deriving DecidableEq, Repr

namespace Event

def level : Event → Level
  | daemon _ | assembly _ => .debug
  | agent e => e.level
  | relay e => e.level
  | remark r => r.level

def message : Event → String
  | daemon e => e.message
  | assembly e => e.message
  | agent e => e.message
  | relay e => e.message
  | remark r => r.text

end Event

abbrev Journal := Array Event

end Courier
