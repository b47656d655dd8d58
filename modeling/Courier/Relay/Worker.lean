import Courier.Relay.Basic

/-!
# The worker of a relay

An iteration of the worker looks for a request to stop, applies one command, takes one delivery
and sends one message. After an iteration without work it sleeps. A complete message that finds
the inbound queue full holds the worker up: it sleeps and tries again until there is room, or
until it is told to stop.

`step` makes the worker do the next of these things; `settle` wakes it and lets it go on until it
sleeps again or is gone.
-/

namespace Courier

namespace Relay

variable {σ : Type}

def goTo (phase : Phase) : Task Relay σ Unit :=
  Task.change fun r => { r with phase }

/-- Takes note of a failure. The agent itself notes why there is no session. -/
def report (failure : Failure) : Task Relay σ Unit :=
  match failure with
  | .connecting .. => note (.skipped failure)
  | _ => note (.failed failure)

/-- Has the worker been told to stop? A request is taken away by the first look at it. -/
def shouldStop : Task Relay σ Bool := do
  let r ← Task.self
  if r.stopping then
    return true
  else
    Task.change fun r => { r with killRequested := false, stopping := r.killRequested }
    return r.killRequested

def stop (t : Transport σ) : Task Relay σ Unit := do
  Task.change fun r => { r with assemblies := .empty }
  byAgent (Agent.disconnect t)
  note (.stopped (← Task.self).counters.iterations)
  goTo .stopped

def applyCommand (t : Transport σ) : Task Relay σ Unit := do
  match (← Task.self).commands.pop? with
  | none => goTo (.polling false)
  | some (command, commands) =>
    Task.change fun r => { r with commands }
    let result ← byAgent (match command with
      | .subscribe topic => Agent.subscribe t topic
      | .unsubscribe topic => Agent.unsubscribe t topic)
    match result with
    | .ok () => note (.applied command)
    | .error failure => report failure
    goTo (.polling true)

def countProtocolError : Task Relay σ Unit :=
  Task.change fun r =>
    { r with counters := { r.counters with protocolErrors := r.counters.protocolErrors + 1 } }

/-- The message that a delivery of no kind stands for. A keep-alive is shown to callers as a
message from its sender; anything else is dropped, and counted unless it has no flags at all. -/
def classifyOther (d : Delivery) : Task Relay σ (Option Message) := do
  if d.flags = .empty then
    if keepAlivePayload.isPrefixOf d.payload then
      note (.keepAlive d.sender)
      return some { topic := keepAliveGroup, text := d.sender }
    else
      note (.unmarked d.sender)
      return none
  else
    note (.unknownKind d.flags d.sender)
    countProtocolError
    return none

def assemble (arrival : Arrival) : Task Relay σ (Option Message) := do
  let outcome := (← Task.self).assemblies.push arrival
  Task.change fun r => { r with assemblies := outcome.assemblies }
  outcome.events.forM fun e => Task.note (.assembly e)
  match outcome.result with
  | .ok message? => return message?
  | .error cause =>
    note (.dropped cause)
    countProtocolError
    return none

def digest (d : Delivery) : Task Relay σ (Option Message) :=
  match Piece.ofFlags? d.flags with
  | some piece => assemble { sender := d.sender, piece, payload := d.payload }
  | none => classifyOther d

def takeDelivery (t : Transport σ) (busy : Bool) : Task Relay σ Unit := do
  match ← byAgent (Agent.poll t) with
  | .error failure =>
    report failure
    goTo (.sending busy)
  | .ok none => goTo (.sending busy)
  | .ok (some d) =>
    match ← digest d with
    | some m => goTo (.delivering m)
    | none => goTo (.sending true)

def deliver (m : Message) : Task Relay σ Unit := do
  let r ← Task.self
  if r.abandoned then
    note .inboundClosed
    Task.change fun r => { r with stopping := true }
    goTo (.sending true)
  else if r.inbound.isFull then
    if ← shouldStop then
      goTo (.sending true)
    else
      goTo (.blocked m)
  else
    let now ← Task.now
    Task.change fun r =>
      { r with inbound := r.inbound.push m, received := r.received.add now m.size }
    goTo (.sending true)

def finish (busy : Bool) : Task Relay σ Unit := do
  Task.change fun r =>
    { r with counters :=
        { r.counters with
          iterations := r.counters.iterations + 1
          idleSleeps := r.counters.idleSleeps + if busy then 0 else 1 } }
  goTo (if busy then .checking else .idling)

def sendNext (t : Transport σ) (busy : Bool) : Task Relay σ Unit := do
  match (← Task.self).outbound.pop? with
  | none => finish busy
  | some (m, outbound) =>
    Task.change fun r => { r with outbound }
    match ← byAgent (Agent.send t m) with
    | .ok () =>
      let now ← Task.now
      Task.change fun r => { r with sent := r.sent.add now m.size }
    | .error failure =>
      Task.change fun r =>
        { r with counters := { r.counters with sendFailures := r.counters.sendFailures + 1 } }
      report failure
    finish true

/-- Lets the worker do the next thing. A worker that is asleep wakes; one that is gone does
nothing. -/
def step (t : Transport σ) : Task Relay σ Unit := do
  match (← Task.self).phase with
  | .starting =>
    note .started
    goTo .checking
  | .checking => if ← shouldStop then stop t else goTo .commanding
  | .commanding => applyCommand t
  | .polling busy => takeDelivery t busy
  | .delivering m => deliver m
  | .blocked m => goTo (.delivering m)
  | .sending busy => sendNext t busy
  | .idling => goTo .checking
  | .stopped => return ()

/-- Lets the worker go on until it rests, but for at most `fuel` steps. -/
def run (t : Transport σ) : (fuel : Nat) → Task Relay σ Unit
  | 0 => return ()
  | fuel + 1 => do
    unless (← Task.self).isAtRest do
      step t
      run t fuel

/-- How many steps the worker takes at most before it rests, if `waiting` deliveries wait and
nobody else acts. An iteration has five steps at most. It takes a command, or sends a message,
which may come back as a delivery, or takes a delivery, which may be a keep-alive of its own, and
then there is one place less in the inbound queue; or it is the last. -/
def patience (r : Relay) (waiting : Nat) : Nat :=
  5 * (r.commands.items.length + 2 * r.outbound.items.length + 2 * r.inbound.room + 2 * waiting + 8)

def settle (t : Transport σ) : Task Relay σ Unit := do
  step t
  let s ← get
  run t (s.self.patience (t.backlog s.site.net))

end Relay

end Courier
