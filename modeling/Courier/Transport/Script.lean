import Courier.Transport.Basic

/-!
# Scripted transports

A scripted transport answers every call with the next outcome written for it, and otherwise as a
daemon that takes everything and has nothing to deliver. Since a script can hold any outcomes, it
shows how a client behaves under any conduct of a daemon.
-/

namespace Courier

/-- An outcome that a script holds: a fault or a value, used once or for ever. -/
structure Cue (α : Type) where
  outcome : Except Fault α
  repeats : Bool := false

structure Script where
  connects : List (Cue Unit) := []
  joins : List (Cue Unit) := []
  leaves : List (Cue Unit) := []
  /-- The number of bytes taken, if not all. -/
  multicasts : List (Cue (Option Nat)) := []
  polls : List (Cue Bool) := []
  receives : List (Cue Delivery) := []

namespace Script

/-- The next outcome, or the given one if there is none, and what is still to come. -/
def next {α : Type} (cues : List (Cue α)) (otherwise : Except Fault α) :
    Except Fault α × List (Cue α) :=
  match cues with
  | [] => (otherwise, [])
  | c :: rest => (c.outcome, if c.repeats then c :: rest else rest)

def length (s : Script) : Nat :=
  s.connects.length + s.joins.length + s.leaves.length + s.multicasts.length + s.polls.length
    + s.receives.length

def address (client : String) : String :=
  "#" ++ client ++ "#script"

def transport : Transport Script where
  name := "scripted"
  connect _ client s :=
    let (outcome, connects) := next s.connects (.ok ())
    { value := outcome.map fun _ => { address := address client }, net := { s with connects } }
  join _ c s :=
    let (outcome, joins) := next s.joins (.ok ())
    { value := (outcome, c), net := { s with joins } }
  leave _ c s :=
    let (outcome, leaves) := next s.leaves (.ok ())
    { value := (outcome, c), net := { s with leaves } }
  multicast _ _ payload _ c s :=
    let (outcome, multicasts) := next s.multicasts (.ok none)
    { value := (outcome.map fun sent => sent.getD payload.length, c), net := { s with multicasts } }
  poll c s :=
    let (outcome, polls) := next s.polls (.ok false)
    { value := (outcome, c), net := { s with polls } }
  receive c s :=
    let (outcome, receives) := next s.receives (.error .nothingWaiting)
    { value := (outcome, c), net := { s with receives } }
  disconnect c s := { value := c, net := s }
  backlog := length

end Script

end Courier
