import Courier.Demo.Basic
import Courier.Hub
import Courier.Network
import Courier.Settings

/-!
# The course of a demonstration

The consumer and the producers have a relay each, and all share a hub. Time passes in beats of a
millisecond. At each beat the workers whose sleep is over wake, and then the producers queue
messages as long as there is room. The consumer acts between beats: it takes a message whenever
there is one, and gives up when none has come for too long.
-/

namespace Courier.Demo

structure Actor where
  name : String
  relay : Relay
  wake : Nat := 0
  letters : List Letter := []
  failure? : Option Failure := none

structure Cast where
  consumer : Actor
  producers : List Actor := []

abbrev Scene (α : Type) := ExceptT Trouble (Task Cast Hub) α

variable {ρ σ α : Type}

namespace Actor

def byRelay (task : Task Relay σ α) : Task Actor σ α :=
  Task.part Actor.relay (fun relay a => { a with relay }) task

/-- Wakes the worker if its sleep is over. No sleep is shorter than a beat. -/
def wakeIfDue (t : Transport σ) : Task Actor σ Unit := do
  let now ← Task.now
  if (← Task.self).wake ≤ now then
    byRelay (Relay.settle t)
    Task.change fun a => { a with wake := now + max (a.relay.sleep?.getD 0) millisecond }

/-- Queues letters as long as there is room. A letter that is refused is the last. -/
def queue : List Letter → Task Actor σ Unit
  | [] => Task.change fun a => { a with letters := [] }
  | l :: rest => do
    match ← byRelay (Relay.sendLetter l) with
    | .accepted => queue rest
    | .full => Task.change fun a => { a with letters := l :: rest }
    | .refused cause => Task.change fun a => { a with letters := [], failure? := some cause }

def send (p : Plan) : Task Actor σ Unit := do
  let a ← Task.self
  unless a.letters.isEmpty do
    queue a.letters
    let a ← Task.self
    if a.letters.isEmpty && a.failure?.isNone then
      Task.note (.remark (Say.queued a.name p.messages))

def begin (t : Transport σ) (p : Plan) : Task Actor σ Unit := do
  wakeIfDue t
  match ← byRelay (Relay.address t) with
  | .error cause => Task.change fun a => { a with failure? := some cause }
  | .ok address =>
    let name := (← Task.self).name
    Task.note (.remark (Say.sendingAs name address))
    Task.change fun a => { a with letters := p.letters name }
    send p

def retire (t : Transport σ) : Task Actor σ Unit :=
  byRelay (Relay.shutdown t)

def after (a : Actor) (task : Task Actor σ Unit) : Task ρ σ Actor :=
  Task.part (fun _ => a) (fun _ r => r) (do task; Task.self)

end Actor

namespace Cast

def byConsumer (task : Task Actor Hub α) : Task Cast Hub α :=
  Task.part Cast.consumer (fun consumer c => { c with consumer }) task

def byProducers (task : Task Actor Hub Unit) : Task Cast Hub Unit := do
  let producers ← (← Task.self).producers.mapM fun a => a.after task
  Task.change fun c => { c with producers }

def beat (p : Plan) : Task Cast Hub Unit := do
  modify fun s => { s with site := s.site.advance millisecond }
  byConsumer (Actor.wakeIfDue Hub.transport)
  byProducers (do Actor.wakeIfDue Hub.transport; Actor.send p)

def beats (p : Plan) : Nat → Task Cast Hub Unit
  | 0 => return ()
  | n + 1 => do
    beat p
    beats p n

def isDone (c : Cast) : Bool :=
  c.producers.all fun a => a.letters.isEmpty

end Cast

def say (r : Remark) : Task ρ σ Unit :=
  Task.note (.remark r)

def Scene.of (task : Task Cast Hub α) : Scene α :=
  ExceptT.lift task

def Scene.asking (task : Task Relay Hub (Except Failure α)) : Scene α := do
  match ← Scene.of (Cast.byConsumer (Actor.byRelay task)) with
  | .ok a => return a
  | .error cause => throw (.failed cause)

def actor (s : Settings) (name client : String) : Actor :=
  { name, relay := Relay.new { profile := s.profile client } s.relay.pace }

/-- Waits until the topic has a member. Every ten beats there is a look, for at most `looks`
times. -/
def awaitMember (p : Plan) (deadline : Nat) : (looks : Nat) → Scene Unit
  | 0 => throw (.unsubscribed p.topic p.timeout)
  | looks + 1 => do
    let site := (← get).site
    if (site.net.members p.topic).isEmpty then
      if deadline ≤ site.clock then
        throw (.unsubscribed p.topic p.timeout)
      else
        Scene.of (Cast.beats p 10)
        awaitMember p deadline looks

def prepare (p : Plan) : Scene Unit := do
  Scene.of (Cast.byConsumer (Actor.wakeIfDue Hub.transport))
  Scene.of (say (Say.relay (Relay.version Hub.transport)))
  let _ ← Scene.of (Cast.byConsumer (Actor.byRelay (Relay.subscribe p.topic)))
  let now ← Scene.of Task.now
  awaitMember p (now + p.timeout) (p.timeout / (10 * millisecond) + 2)
  let address ← Scene.asking (Relay.address Hub.transport)
  Scene.of (say (Say.subscribed p.topic address))

def startProducer (s : Settings) (p : Plan) (number : Nat) : Task Cast Hub Unit := do
  let a ← (actor s (Plan.producerName number) s.client).after (Actor.begin Hub.transport p)
  Task.change fun c => { c with producers := c.producers ++ [a] }

/-- Takes messages until all have come or none has come for too long. The fuel bounds the messages
and the beats together. -/
def collect (p : Plan) : (fuel : Nat) → (deadline : Nat) → Tally → Scene Tally
  | 0, _, tally => return tally
  | fuel + 1, deadline, tally => do
    if p.expected ≤ tally.received then
      return tally
    else
      let letter? ← Scene.asking Relay.receiveLetter
      let now ← Scene.of Task.now
      match letter? with
      | some l => collect p fuel (now + p.timeout) (tally.add l)
      | none =>
        if deadline ≤ now then
          Scene.of (say (Say.gaveUp p.timeout))
          return tally
        else
          Scene.of (Cast.beat p)
          collect p fuel deadline tally

def finishSending (p : Plan) : (beats : Nat) → Task Cast Hub Unit
  | 0 => return ()
  | beats + 1 => do
    unless (← Task.self).isDone do
      Cast.beat p
      finishSending p beats

/-- Ends the demonstration: the producers finish, and the first failure of theirs counts. -/
def conclude (s : Settings) (p : Plan) (elapsed : Nat) (tally : Tally) : Scene Summary := do
  Scene.of (finishSending p ((p.messages + 1) * (s.relay.idleMs + 1)))
  let cast ← Scene.of Task.self
  match cast.producers.findSome? Actor.failure? with
  | some cause => throw (.failed cause)
  | none =>
    Scene.of (Cast.byProducers (Actor.retire Hub.transport))
    Scene.of (Cast.byConsumer (Actor.retire Hub.transport))
    return {
      expected := p.expected
      received := tally.received
      duplicates := tally.duplicates
      counts := tally.counts
      elapsed
      protocolErrors := cast.consumer.relay.counters.protocolErrors
      sendFailures := cast.consumer.relay.counters.sendFailures }

/-- The scenes of a demonstration. For each message the consumer may wait as many beats as its
patience has. -/
def scenes (s : Settings) (p : Plan) : Scene Summary := do
  prepare p
  let started ← Scene.of Task.now
  (List.range p.producers).forM fun number => Scene.of (startProducer s p number)
  let fuel := (p.expected + 2) * (p.timeout / millisecond + 3)
  let tally ← collect p fuel (started + p.timeout) {}
  let ended ← Scene.of Task.now
  conclude s p (ended - started) tally

def hub (s : Settings) : Hub :=
  { name := "postbox", limit := s.limit }

def play (s : Settings) (p : Plan) : Except Trouble Summary × Journal :=
  let consumer := actor s "consumer" (s.client ++ "-in")
  let (result, stage) := (scenes s p).run.run { self := { consumer }, site := { net := hub s } }
  (result, stage.site.journal)

end Courier.Demo
