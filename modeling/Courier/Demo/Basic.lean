import Courier.Duration.Phrase
import Courier.Json.Printer
import Courier.Journal
import Courier.Letter

/-!
# Demonstrations

In a demonstration a number of producers send numbered messages on a topic, and a consumer counts
what arrives. Every message should arrive exactly once.

Here is what a demonstration is asked to do, what it counts, and what it says.
-/

namespace Courier.Demo

structure Plan where
  producers : Nat := 4
  messages : Nat := 100
  topic : String := "Demo"
  /-- How long the consumer waits for its subscription, and then for each message. -/
  timeout : Nat := 5 * second
  deriving DecidableEq, Repr

namespace Plan

def expected (p : Plan) : Nat :=
  p.producers * p.messages

def producerName (number : Nat) : String :=
  "producer-" ++ number.repr

def letter (p : Plan) (producer : String) (seq : Nat) : Letter :=
  let l : Letter := { topic := p.topic, body := "message " ++ seq.repr ++ " from " ++ producer }
  (l.set "producer" producer).set "seq" seq.repr

def letters (p : Plan) (producer : String) : List Letter :=
  (List.range p.messages).map (p.letter producer)

end Plan

structure Tally where
  seen : Std.ExtTreeMap String (List String) := ∅
  /-- How many messages came again. -/
  duplicates : Nat := 0

namespace Tally

def received (t : Tally) : Nat :=
  t.seen.foldl (fun n _ seqs => n + seqs.length) 0

def counts (t : Tally) : List (String × Nat) :=
  t.seen.toList.map fun (producer, seqs) => (producer, seqs.length)

def add (t : Tally) (l : Letter) : Tally :=
  let producer := (l.get? "producer").getD "unknown"
  let seq := (l.get? "seq").getD ""
  let seqs := t.seen[producer]?.getD []
  if seqs.contains seq then { t with duplicates := t.duplicates + 1 }
  else { t with seen := t.seen.insert producer (seq :: seqs) }

end Tally

structure Summary where
  expected : Nat
  received : Nat
  duplicates : Nat
  counts : List (String × Nat)
  /-- From the start of the producers to the last message, in nanoseconds. -/
  elapsed : Nat
  protocolErrors : Nat
  sendFailures : Nat
  deriving DecidableEq, Repr

namespace Summary

def isFaithful (s : Summary) : Bool :=
  s.received = s.expected && s.duplicates = 0

def describe (s : Summary) : String :=
  "Received " ++ s.received.repr ++ "/" ++ s.expected.repr ++ " messages (" ++ s.duplicates.repr
    ++ " duplicates)"

/-- The messages received in a second, with three places. -/
def rate (s : Summary) : String :=
  Text.fraction 3 (s.received * 1000 * second / max s.elapsed 1)

def toJson (s : Summary) : String :=
  Json.block 0 [
    ("expected", s.expected.repr),
    ("received", s.received.repr),
    ("duplicates", s.duplicates.repr),
    ("per_producer", Json.block 2 (s.counts.map fun (producer, n) => (producer, n.repr))),
    ("elapsed_ms", (s.elapsed / millisecond).repr),
    ("messages_per_sec", s.rate),
    ("protocol_errors", s.protocolErrors.repr),
    ("send_failures", s.sendFailures.repr)]

end Summary

def version : String := "0.1.0"

/-! What is said in the course of a demonstration. -/

namespace Say

def consumer (text : String) (level : Level) : Remark :=
  { component? := some "consumer", level, text }

def producer (text : String) : Remark :=
  { component? := some "producer", level := .debug, text }

def starting : Remark :=
  { text := "Starting postbox v" ++ version }

def relay (version : String) : Remark :=
  consumer ("Relay " ++ version) .info

def subscribed (topic address : String) : Remark :=
  consumer ("Subscribed to " ++ topic ++ " as " ++ address) .info

def sendingAs (name address : String) : Remark :=
  producer (name ++ " sending as " ++ address)

def queued (name : String) (messages : Nat) : Remark :=
  producer (name ++ " queued " ++ messages.repr ++ " messages")

def gaveUp (timeout : Nat) : Remark :=
  consumer ("No message within " ++ Duration.phrase timeout ++ ", giving up") .warn

def received (s : Summary) : Remark :=
  { text := s.describe ++ " in " ++ (s.elapsed / millisecond).repr ++ "ms" }

def count (name : String) (messages : Nat) : Remark :=
  consumer (name ++ ": " ++ messages.repr ++ " messages") .info

def complete : Remark :=
  { text := "Postbox shutdown complete" }

end Say

inductive Trouble where
  | unsubscribed (topic : String) (timeout : Nat)
  | failed (cause : Failure)
  deriving DecidableEq, Repr

def Trouble.message : Trouble → String
  | .unsubscribed topic timeout =>
    "subscription to " ++ topic ++ " not applied within " ++ Duration.describe timeout
  | .failed cause => cause.message

end Courier.Demo
