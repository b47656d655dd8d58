import Std.Data.ExtTreeMap
import Std.Data.ExtTreeSet
import Courier.ClientName
import Courier.Transport.Basic

/-!
# The hub

A daemon inside the program. Clients connect under different names, join groups and receive, each
in its own inbox and in the same order, every payload that is multicast to a group of theirs, their
own payloads included.

A connection is tied to the name of its client and not to the session that it opened. A connection
that has not noticed the end of its session acts on the next session of that name.
-/

namespace Courier

abbrev Groups := Std.ExtTreeSet String

structure Hub.Client where
  groups : Groups := ∅
  /-- What waits for the client, oldest first. -/
  inbox : List Delivery := []

structure Hub where
  name : String
  limit : Nat := Transport.maxPayload
  refusing : Bool := false
  /-- The clients by their private groups. -/
  clients : Std.ExtTreeMap String Hub.Client := ∅
  accepted : Nat := 0

namespace Hub

def address (h : Hub) (client : String) : String :=
  "#" ++ client ++ "#" ++ h.name

def refuse (h : Hub) (on : Bool) : Hub :=
  { h with refusing := on }

def addresses (h : Hub) : List String :=
  h.clients.keys

def members (h : Hub) (group : String) : List String :=
  (h.clients.filter fun _ c => c.groups.contains group).keys

def Client.take (d : Delivery) (c : Client) : Client :=
  if c.groups.contains d.group then { c with inbox := c.inbox ++ [d] } else c

def pass (h : Hub) (d : Delivery) : Hub :=
  { h with clients := h.clients.map fun _ c => c.take d, accepted := h.accepted + 1 }

def dropAll (h : Hub) : Served Hub Unit :=
  { value := ()
    net := { h with clients := ∅ }
    events := [.dropping h.name h.clients.size] }

def legalClient (client : String) : Bool :=
  client ≠ "" && client.utf8ByteSize ≤ ClientName.maxSize && !client.toList.contains '#'

def legalGroup (group : String) : Bool :=
  group ≠ "" && group.utf8ByteSize ≤ Transport.maxGroupSize

def connect (daemon client : String) (h : Hub) : Served Hub (Except Fault Connection) :=
  let address := h.address client
  if !legalClient client then
    { value := .error (.illegalName client), net := h }
  else if h.refusing then
    { value := .error (.unreachable daemon), net := h }
  else if h.clients.contains address then
    { value := .error (.nameTaken client), net := h }
  else
    { value := .ok { address }
      net := { h with clients := h.clients.insert address {} }
      events := [.joined address] }

/-- Does something for the client of a connection. A connection without a client is closed. -/
def withClient {α : Type} (c : Connection) (h : Hub) (f : Client → Except Fault α × Hub) :
    Served Hub (Except Fault α × Connection) :=
  if c.isOpen then
    match h.clients[c.address]? with
    | some client =>
      let (result, h) := f client
      { value := (result, c), net := h }
    | none => { value := (.error .closed, { c with isOpen := false }), net := h }
  else
    { value := (.error .closed, c), net := h }

def update (h : Hub) (c : Connection) (client : Client) : Hub :=
  { h with clients := h.clients.insert c.address client }

def join (group : String) : SessionCall Hub Unit := fun c h =>
  if legalGroup group then
    withClient c h fun client =>
      (.ok (), h.update c { client with groups := client.groups.insert group })
  else
    { value := (.error (.illegalName group), c), net := h }

def leave (group : String) : SessionCall Hub Unit := fun c h =>
  withClient c h fun client =>
    (.ok (), h.update c { client with groups := client.groups.erase group })

/-- Passes a payload on to a group. The hub keeps every payload and every order, whatever service
is asked for. -/
def multicast (group : String) (flags : Flags) (payload : Bytes) (_ : Service) :
    SessionCall Hub Nat :=
  fun c h =>
    if !legalGroup group then
      { value := (.error (.illegalName group), c), net := h }
    else if h.limit < payload.length then
      { value := (.error (.tooLong payload.length h.limit), c), net := h }
    else
      withClient c h fun _ =>
        (.ok payload.length, h.pass { sender := c.address, group, flags, payload })

def poll : SessionCall Hub Bool := fun c h =>
  withClient c h fun client => (.ok !client.inbox.isEmpty, h)

def receive : SessionCall Hub Delivery := fun c h =>
  withClient c h fun client =>
    match client.inbox with
    | [] => (.error .nothingWaiting, h)
    | d :: inbox => (.ok d, h.update c { client with inbox })

def disconnect (c : Connection) (h : Hub) : Served Hub Connection :=
  if c.isOpen then
    { value := { c with isOpen := false }
      net := { h with clients := h.clients.erase c.address }
      events := [.left c.address] }
  else
    { value := c, net := h }

def backlog (h : Hub) : Nat :=
  h.clients.foldl (fun n _ c => n + c.inbox.length) 0

def transport : Transport Hub where
  name := "loopback"
  connect := connect
  join := join
  leave := leave
  multicast := multicast
  poll := poll
  receive := receive
  disconnect := disconnect
  backlog := backlog

end Hub

end Courier
