import Std.Data.ExtTreeSet
import Courier.ClientName
import Courier.Message
import Courier.Site

/-!
# Agents

An agent keeps a session with a daemon for its owner. It connects when a session is first needed,
finds a client name that is free, joins the topics that it has been told of again after every
connect, and sends keep-alives while it is polled. A session on which a call fails for good is
given up, and the next operation opens another.

Between a failure that ended or prevented a session and the next successful connect there is an
outage; it is announced once when it begins and once when it is over.
-/

namespace Courier

structure Profile where
  address : String := "4803@localhost"
  client : String := "unknown"
  limit : Nat := Transport.maxPayload
  /-- The time between keep-alives in nanoseconds, if there are to be any. -/
  keepAlive : Option Nat := some (2 * 1000000000)
  deriving DecidableEq, Repr

structure Agent where
  profile : Profile
  session : Option Connection := none
  topics : Std.ExtTreeSet String := ∅
  /-- When the current session was opened, or the last keep-alive after that was sent. -/
  lastKeepAlive : Nat := 0
  /-- Has a session been lost or refused since the last connect? -/
  outage : Bool := false

def keepAliveGroup : String := "keep_alive"

def keepAlivePayload : Bytes := Bytes.ofText keepAliveGroup

/-- A topic that can name a group, and a message that is not too large. -/
def Message.check (m : Message) (limit : Nat) : Except Failure Unit := do
  if let .error cause := Message.checkTopic m.topic then
    throw (.badTopic cause)
  if Transport.maxGroupSize < m.topic.utf8ByteSize then
    throw (.badTopic (.badTopic m.topic))
  if limit < m.size then
    throw (.tooLarge m.size limit)

namespace Agent

variable {σ : Type}

def maxAttempts : Nat := 1000

def isConnected (a : Agent) : Bool :=
  a.session.isSome

def check (a : Agent) (m : Message) : Except Failure Unit :=
  m.check a.profile.limit

def note (e : AgentEvent) : Task Agent σ Unit :=
  Task.note (.agent e)

def call {α : Type} (c : Connection) (f : SessionCall σ α) : Task Agent σ (Except Fault α) := do
  let (result, c) ← Task.serve (f c)
  Task.change fun a => { a with session := some c }
  return result

def disconnect (t : Transport σ) : Task Agent σ Unit := do
  if let some c := (← Task.self).session then
    Task.change fun a => { a with session := none }
    note (.disconnecting c.address)
    let _ ← Task.serve (t.disconnect c)

def connectFailed (cause : Fault) : Task Agent σ Failure := do
  let a ← Task.self
  if a.outage then
    note (.stillUnreachable a.profile.address cause)
  else
    note (.unreachable a.profile.address cause)
    Task.change fun a => { a with outage := true }
  return .connecting a.profile.address cause

/-- Joins topics on a session that has just been opened. A topic that fails is passed over. -/
def rejoin (t : Transport σ) (c : Connection) : List String → Task Agent σ Connection
  | [] => return c
  | topic :: rest => do
    let (result, c) ← Task.serve (t.join topic c)
    if let .error cause := result then
      note (.rejoinFailed topic cause)
    rejoin t c rest

def establish (t : Transport σ) (c : Connection) : Task Agent σ Connection := do
  let a ← Task.self
  let c ← rejoin t c a.topics.toList
  if a.outage then
    note (.restored a.profile.address c.address)
  else
    note (.connected a.profile.address c.address)
  let now ← Task.now
  Task.change fun a => { a with outage := false, lastKeepAlive := now }
  return c

/-- Tries the names of up to `remaining` attempts, beginning with that of attempt `attempt`. -/
def connectFrom (t : Transport σ) (attempt : Nat) :
    (remaining : Nat) → Task Agent σ (Except Failure Connection)
  | 0 => return .error (← connectFailed (.nameTaken (← Task.self).profile.client))
  | remaining + 1 => do
    let profile := (← Task.self).profile
    match ← Task.serve (t.connect profile.address (ClientName.candidate profile.client attempt)) with
    | .ok c => return .ok (← establish t c)
    | .error (.nameTaken name) =>
      note (.nameTaken name)
      connectFrom t (attempt + 1) remaining
    | .error cause => return .error (← connectFailed cause)

def connect (t : Transport σ) : Task Agent σ (Except Failure Connection) := do
  match (← Task.self).session with
  | some c => return .ok c
  | none =>
    match ← connectFrom t 0 maxAttempts with
    | .ok c =>
      Task.change fun a => { a with session := some c }
      return .ok c
    | .error failure => return .error failure

def giveUpAfter (t : Transport σ) (cause : Fault) : Task Agent σ Unit := do
  if cause.endsSession then
    note (.sessionLost (← Task.self).profile.address cause)
    disconnect t
    Task.change fun a => { a with outage := true }

/-- Opens a session if there is none, and makes a call on it. A fault that ends the session makes
the agent give it up. -/
def request {α : Type} (t : Transport σ) (f : SessionCall σ α) (failed : Fault → Failure) :
    Task Agent σ (Except Failure α) := do
  match ← connect t with
  | .error failure => return .error failure
  | .ok c =>
    match ← call c f with
    | .ok a => return .ok a
    | .error cause =>
      giveUpAfter t cause
      return .error (failed cause)

/-- Joins a topic. It is remembered even if the call fails. -/
def subscribe (t : Transport σ) (topic : String) : Task Agent σ (Except Failure Unit) := do
  Task.change fun a => { a with topics := a.topics.insert topic }
  request t (t.join topic) (.transport .join)

def unsubscribe (t : Transport σ) (topic : String) : Task Agent σ (Except Failure Unit) := do
  Task.change fun a => { a with topics := a.topics.erase topic }
  request t (t.leave topic) (.transport .leave)

def send (t : Transport σ) (m : Message) : Task Agent σ (Except Failure Unit) := do
  match (← Task.self).check m with
  | .error failure => return .error failure
  | .ok () =>
    match ← request t (t.multicast m.topic .normal m.payload .fifo) (.sending m.topic) with
    | .error failure => return .error failure
    | .ok sent =>
      if sent = m.payload.length then
        return .ok ()
      else
        return .error (.sending m.topic (.shortWrite sent m.payload.length))

def keepAliveDue (a : Agent) (now : Nat) : Bool :=
  match a.profile.keepAlive with
  | none => false
  | some interval => interval ≤ now - a.lastKeepAlive

def keepAlive (t : Transport σ) : Task Agent σ Unit := do
  let a ← Task.self
  if a.keepAliveDue (← Task.now) then
    if let some c := a.session then
      match ← call c (t.multicast keepAliveGroup .empty keepAlivePayload .fifo) with
      | .ok _ =>
        let now ← Task.now
        Task.change fun a => { a with lastKeepAlive := now }
      | .error cause =>
        giveUpAfter t cause
        note (.keepAliveFailed cause)

def receiveIfReady (t : Transport σ) : SessionCall σ (Option Delivery) := fun c net =>
  let polled := t.poll c net
  match polled.value with
  | (.error cause, c) => { polled with value := (.error cause, c) }
  | (.ok false, c) => { polled with value := (.ok none, c) }
  | (.ok true, c) =>
    let received := t.receive c polled.net
    { value := (received.value.1.map some, received.value.2)
      net := received.net
      events := polled.events ++ received.events }

/-- Takes a delivery if one waits, and then sends a keep-alive if one is due. -/
def poll (t : Transport σ) : Task Agent σ (Except Failure (Option Delivery)) := do
  match ← request t (receiveIfReady t) (.transport .receive) with
  | .error failure => return .error failure
  | .ok delivery? =>
    keepAlive t
    return .ok delivery?

/-- Sets the address of the daemon. The session ends if it is another one. -/
def setAddress (t : Transport σ) (address : String) : Task Agent σ Unit := do
  if (← Task.self).profile.address ≠ address then
    Task.change fun a => { a with profile := { a.profile with address } }
    disconnect t

def setClient (t : Transport σ) (client : String) : Task Agent σ Unit := do
  if (← Task.self).profile.client ≠ client then
    Task.change fun a => { a with profile := { a.profile with client } }
    disconnect t

def address (t : Transport σ) : Task Agent σ (Except Failure String) := do
  return (← connect t).map Connection.address

def version (t : Transport σ) : String :=
  "postbox-relay 0.1.0 (" ++ t.name ++ ")"

end Agent

end Courier
