import Courier.Transport.Basic

/-!
# Recorded transports

A recorded transport does what another one does and keeps a list of the calls made on it, each
with what came of it. What a client asks of its transport can be stated on that list.
-/

namespace Courier

inductive Exchange where
  | connect (address client : String) (outcome : Except Fault Connection)
  | join (group : String) (outcome : Except Fault Unit)
  | leave (group : String) (outcome : Except Fault Unit)
  | multicast {service : Service} (group : String) (flags : Flags) (payload : Bytes)
      (outcome : Except Fault Nat)
  | poll (outcome : Except Fault Bool)
  | receive (outcome : Except Fault Delivery)
  | disconnect

structure Recorded (σ : Type) where
  net : σ
  calls : Array Exchange := #[]

namespace Recorded

variable {σ α : Type}

def keep (r : Recorded σ) (s : Served σ (Except Fault α × Connection))
    (exchange : Except Fault α → Exchange) :
    Served (Recorded σ) (Except Fault α × Connection) :=
  { value := s.value
    net := { net := s.net, calls := r.calls.push (exchange s.value.1) }
    events := s.events }

def transport (t : Transport σ) : Transport (Recorded σ) where
  name := t.name
  connect address client r :=
    let s := t.connect address client r.net
    { value := s.value
      net := { net := s.net, calls := r.calls.push (.connect address client s.value) }
      events := s.events }
  join group c r := r.keep (t.join group c r.net) (.join group)
  leave group c r := r.keep (t.leave group c r.net) (.leave group)
  multicast group flags payload service c r :=
    r.keep (t.multicast group flags payload service c r.net)
      (@Exchange.multicast service group flags payload)
  poll c r := r.keep (t.poll c r.net) .poll
  receive c r := r.keep (t.receive c r.net) .receive
  disconnect c r :=
    let s := t.disconnect c r.net
    { value := s.value
      net := { net := s.net, calls := r.calls.push .disconnect }
      events := s.events }
  backlog r := t.backlog r.net

end Recorded

end Courier
