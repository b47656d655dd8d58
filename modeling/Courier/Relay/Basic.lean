import Courier.Agent.Basic
import Courier.Assembly
import Courier.Relay.Queue
import Courier.Window

/-!
# Relays

A relay stands between callers, who must never wait for a daemon, and an agent, all of whose
operations may wait. Commands and messages go in through bounded queues, and complete messages
come out of another. A worker takes from the one and puts into the other, one command, one
delivery and one message at a time.

The worker's position is part of the relay's state, so that its run can be cut into steps between
which callers act.
-/

namespace Courier

structure Pace where
  commands : Nat := 64
  inbound : Nat := 1024
  outbound : Nat := 1024
  /-- In nanoseconds. -/
  idle : Nat := 100 * millisecond
  deriving DecidableEq, Repr

structure Counters where
  iterations : Nat := 0
  idleSleeps : Nat := 0
  protocolErrors : Nat := 0
  sendFailures : Nat := 0
  deriving DecidableEq, Repr

/-- Where the worker stands. In an iteration, `busy` tells whether there was work so far. -/
inductive Phase where
  | starting
  | checking
  | commanding
  | polling (busy : Bool)
  | delivering (m : Message)
  /-- Asleep until it tries again to queue a complete message. -/
  | blocked (m : Message)
  | sending (busy : Bool)
  | idling
  | stopped
  deriving DecidableEq, Repr

structure Relay where
  agent : Agent
  commands : Queue Command
  outbound : Queue Message
  inbound : Queue Message
  assemblies : Assemblies := {}
  counters : Counters := {}
  sent : Window := {}
  received : Window := {}
  idle : Nat
  limit : Nat
  /-- Has a request to stop been made that the worker has not seen? -/
  killRequested : Bool := false
  stopping : Bool := false
  abandoned : Bool := false
  phase : Phase := .starting

namespace Relay

def new (agent : Agent) (pace : Pace) : Relay where
  agent := agent
  commands := .withCapacity pace.commands
  outbound := .withCapacity pace.outbound
  inbound := .withCapacity pace.inbound
  idle := pace.idle
  limit := agent.profile.limit

def isStopped (r : Relay) : Bool :=
  r.phase = .stopped

/-- How long the worker sleeps where it stands, if it is asleep. A blocked worker tries again
after ten milliseconds at the latest. -/
def sleep? (r : Relay) : Option Nat :=
  match r.phase with
  | .idling => some r.idle
  | .blocked _ => some (min r.idle (10 * millisecond))
  | _ => none

def isAtRest (r : Relay) : Bool :=
  r.sleep?.isSome || r.isStopped

variable {σ α : Type}

def byAgent (task : Task Agent σ α) : Task Relay σ α :=
  Task.part Relay.agent (fun agent r => { r with agent }) task

def note (e : RelayEvent) : Task Relay σ Unit :=
  Task.note (.relay e)

end Relay

end Courier
