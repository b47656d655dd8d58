import Courier.Letter
import Courier.Relay.Basic

/-!
# What callers of a relay do

A caller queues commands and messages, receives complete messages, asks the worker to stop, and
reaches the agent for what concerns the session itself. A call that finds its queue full waits; in
this form it says so and leaves the queue as it is.
-/

namespace Courier

inductive Submission where
  | accepted
  | full
  | refused (failure : Failure)
  deriving DecidableEq, Repr

namespace Relay

variable {σ : Type}

def command (c : Command) : Task Relay σ Submission := do
  let r ← Task.self
  if r.isStopped then
    return .refused .stopped
  else if r.commands.isFull then
    return .full
  else
    Task.change fun r => { r with commands := r.commands.push c }
    return .accepted

def subscribe (topic : String) : Task Relay σ Submission :=
  command (.subscribe topic)

def unsubscribe (topic : String) : Task Relay σ Submission :=
  command (.unsubscribe topic)

/-- Queues a message. One that could not be sent is refused at once. -/
def send (m : Message) : Task Relay σ Submission := do
  let r ← Task.self
  match m.check r.limit with
  | .error failure => return .refused failure
  | .ok () =>
    if r.isStopped then
      return .refused .stopped
    else if r.outbound.isFull then
      return .full
    else
      Task.change fun r => { r with outbound := r.outbound.push m }
      return .accepted

def sendLetter (l : Letter) : Task Relay σ Submission :=
  send l.toMessage

def receive : Task Relay σ (Option Message) := do
  match (← Task.self).inbound.pop? with
  | none => return none
  | some (m, inbound) =>
    Task.change fun r => { r with inbound }
    return some m

def receiveLetter : Task Relay σ (Except Failure (Option Letter)) := do
  match ← receive with
  | none => return .ok none
  | some m =>
    match Letter.ofMessage m with
    | .ok l => return .ok (some l)
    | .error cause => return .error (.undecodable cause)

/-- Asks the worker to stop. A second request before the worker has seen the first, or one after
it is gone, makes no difference. -/
def kill : Task Relay σ Unit := do
  let r ← Task.self
  unless r.killRequested || r.isStopped do
    Task.change fun r => { r with killRequested := true }
    note .killRequested

def abandon : Task Relay σ Unit :=
  Task.change fun r => { r with abandoned := true }

def setAddress (t : Transport σ) (address : String) : Task Relay σ Unit :=
  byAgent (Agent.setAddress t address)

def setClient (t : Transport σ) (client : String) : Task Relay σ Unit :=
  byAgent (Agent.setClient t client)

def address (t : Transport σ) : Task Relay σ (Except Failure String) :=
  byAgent (Agent.address t)

def version (t : Transport σ) : String :=
  "relayed<" ++ Agent.version t ++ ">"

def rates : Task Relay σ (Rate × Rate) := do
  let now ← Task.now
  let r ← Task.self
  let (sentRate, sent) := r.sent.rate now
  let (receivedRate, received) := r.received.rate now
  Task.change fun r => { r with sent, received }
  return (sentRate, receivedRate)

end Relay

end Courier
