import Courier.Bytes
import Courier.Flags
import Courier.Transport.Fault

/-!
# Transports

A transport connects clients to a daemon, which multicasts payloads to groups. It is given by
what each call does to the state of the network, so statements about any transport are statements
about any such record, whatever its state is made of.
-/

namespace Courier

structure Delivery where
  sender : String
  group : String
  flags : Flags
  payload : Bytes
  deriving DecidableEq, Repr

inductive Service where
  | unreliable
  | reliable
  | fifo
  deriving DecidableEq, Repr

structure Connection where
  address : String
  /-- False once the client knows that the session is over. -/
  isOpen : Bool := true
  deriving DecidableEq, Repr

inductive DaemonEvent where
  | joined (address : String)
  | left (address : String)
  | dropping (daemon : String) (clients : Nat)
  deriving DecidableEq, Repr

def DaemonEvent.message : DaemonEvent → String
  | .joined address => "Loopback client " ++ address ++ " connected"
  | .left address => "Loopback client " ++ address ++ " disconnected"
  | .dropping daemon clients =>
    "Loopback hub " ++ daemon ++ " dropping " ++ clients.repr ++ " clients"

structure Served (σ α : Type) where
  value : α
  net : σ
  events : List DaemonEvent := []

abbrev SessionCall (σ α : Type) := Connection → σ → Served σ (Except Fault α × Connection)

structure Transport (σ : Type) where
  name : String
  connect (address client : String) : σ → Served σ (Except Fault Connection)
  join (group : String) : SessionCall σ Unit
  leave (group : String) : SessionCall σ Unit
  /-- Sends a payload to a group, and tells how many bytes were taken. -/
  multicast (group : String) (flags : Flags) (payload : Bytes) (service : Service := .fifo) :
    SessionCall σ Nat
  poll : SessionCall σ Bool
  receive : SessionCall σ Delivery
  disconnect : Connection → σ → Served σ Connection
  /-- A bound on the deliveries that wait while nothing is multicast. -/
  backlog : σ → Nat

namespace Transport

variable {σ τ : Type}

/-- The longest group name that is accepted, in bytes. -/
def maxGroupSize : Nat := 32

def maxPayload : Nat := 100 * 1024

def Served.widen {α : Type} (set : σ → τ) (s : Served σ α) : Served τ α :=
  { value := s.value, net := set s.net, events := s.events }

def widen (t : Transport σ) (get : τ → σ) (set : σ → τ → τ) : Transport τ where
  name := t.name
  connect address client n := Served.widen (set · n) (t.connect address client (get n))
  join group c n := Served.widen (set · n) (t.join group c (get n))
  leave group c n := Served.widen (set · n) (t.leave group c (get n))
  multicast group flags payload service c n :=
    Served.widen (set · n) (t.multicast group flags payload service c (get n))
  poll c n := Served.widen (set · n) (t.poll c (get n))
  receive c n := Served.widen (set · n) (t.receive c (get n))
  disconnect c n := Served.widen (set · n) (t.disconnect c (get n))
  backlog n := t.backlog (get n)

end Transport

end Courier
