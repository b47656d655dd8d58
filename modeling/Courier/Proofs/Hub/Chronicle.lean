import Courier.Hub
import Courier.Proofs.Cover

/-!
# What a hub has passed on

A hub forgets a payload once it is in the inboxes. A chronicle is a hub beside
the list of all payloads that it has passed on, each with the clients that
were members of its group at that moment. The list is only written: every
call on a chronicle answers what the hub answers.

What the hub owes to a client is counted by inboxes (`Hub.inbox`): a client
that is not connected has an empty one.
-/

namespace Courier

/-- A payload that was passed on, and the clients it was passed on to. -/
structure Passage where
  delivery : Delivery
  members : List String

/-- A hub and what it has passed on, oldest first. -/
structure Chronicle where
  hub : Hub
  passages : List Passage := []

namespace Chronicle

def ofHub (n : Chronicle) {α : Type} (s : Served Hub α) : Served Chronicle α :=
  { value := s.value, net := { n with hub := s.net }, events := s.events }

/-- The hub as a transport, with a list of what it passes on. -/
def transport : Transport Chronicle where
  name := Hub.transport.name
  connect address client n := n.ofHub (Hub.connect address client n.hub)
  join group c n := n.ofHub (Hub.join group c n.hub)
  leave group c n := n.ofHub (Hub.leave group c n.hub)
  multicast group flags payload service c n :=
    let s := Hub.multicast group flags payload service c n.hub
    let passage : Passage :=
      { delivery := { sender := c.address, group, flags, payload }
        members := n.hub.members group }
    { value := s.value
      net :=
        { hub := s.net
          passages := n.passages ++
            match s.value.1 with
            | .ok _ => [passage]
            | .error _ => [] }
      events := s.events }
  poll c n := n.ofHub (Hub.poll c n.hub)
  receive c n := n.ofHub (Hub.receive c n.hub)
  disconnect c n := n.ofHub (Hub.disconnect c n.hub)
  backlog n := n.hub.backlog

theorem covers : Transport.Covers Chronicle.hub transport Hub.transport where
  connect := fun _ _ _ => rfl
  join := fun _ _ _ => rfl
  leave := fun _ _ _ => rfl
  multicast := fun _ _ _ _ _ _ => rfl
  poll := fun _ _ => rfl
  receive := fun _ _ => rfl
  disconnect := fun _ _ => rfl

end Chronicle

namespace Hub

/-! ## Inboxes -/

/-- What waits for a client. -/
def inbox (h : Hub) (address : String) : List Delivery :=
  match h.clients[address]? with
  | some client => client.inbox
  | none => []

variable {h : Hub} {x : String}

theorem inbox_of_client {client : Client} (hx : h.clients[x]? = some client) :
    h.inbox x = client.inbox := by
  rw [inbox, hx]

theorem inbox_update (c : Connection) (client : Client) :
    (h.update c client).inbox x =
      if c.address = x then client.inbox else h.inbox x := by
  rw [inbox, update, Std.ExtTreeMap.getElem?_insert]
  by_cases hx : c.address = x
  · simp [hx]
  · simp [hx, inbox]

/-- A new client has an empty inbox, as it had before it came. -/
theorem inbox_insert {address : String} (hnew : address ∉ h.clients) :
    Hub.inbox { h with clients := h.clients.insert address {} } x =
      h.inbox x := by
  simp only [inbox, Std.ExtTreeMap.getElem?_insert]
  by_cases hx : address = x
  · rw [hx, Std.ExtTreeMap.mem_iff_isSome_getElem?,
      Option.not_isSome_iff_eq_none] at hnew
    simp [hx, hnew]
  · simp [hx]

theorem mem_members {group : String} :
    x ∈ h.members group ↔
      ∃ client, h.clients[x]? = some client ∧ group ∈ client.groups := by
  rw [members, Std.ExtTreeMap.mem_keys, Std.ExtTreeMap.mem_iff_isSome_getElem?,
    Std.ExtTreeMap.getElem?_filter']
  cases h.clients[x]? <;> simp

theorem inbox_pass (d : Delivery) :
    (h.pass d).inbox x =
      h.inbox x ++ if x ∈ h.members d.group then [d] else [] := by
  simp only [inbox, pass, mem_members, Std.ExtTreeMap.getElem?_map]
  cases hx : h.clients[x]? with
  | none => simp
  | some client =>
      by_cases hmember : d.group ∈ client.groups
      · simp [Client.take, hmember]
      · simp [Client.take, hmember]

theorem mem_clients_pass (d : Delivery) :
    x ∈ (h.pass d).clients ↔ x ∈ h.clients := by
  rw [pass, Std.ExtTreeMap.mem_map]

theorem mem_clients_of_members {group : String} (hx : x ∈ h.members group) :
    x ∈ h.clients := by
  obtain ⟨client, hclient, -⟩ := mem_members.mp hx
  rw [Std.ExtTreeMap.mem_iff_isSome_getElem?, hclient]
  rfl

theorem mem_clients_update (c : Connection) (client : Client)
    (hx : x ∈ h.clients) : x ∈ (h.update c client).clients := by
  rw [update, Std.ExtTreeMap.mem_insert]
  exact .inr hx

/-- A connection whose session the hub still has. -/
structure Has (h : Hub) (c : Connection) : Prop where
  isOpen : c.isOpen = true
  client : c.address ∈ h.clients

theorem Has.exists_client {c : Connection} (hc : h.Has c) :
    ∃ client, h.clients[c.address]? = some client := by
  have hclient := hc.client
  rw [Std.ExtTreeMap.mem_iff_isSome_getElem?] at hclient
  exact Option.isSome_iff_exists.mp hclient

theorem withClient_of_client {α : Type} {c : Connection} {client : Client}
    (hopen : c.isOpen = true) (hclient : h.clients[c.address]? = some client)
    (f : Client → Except Fault α × Hub) :
    withClient c h f =
      { value := ((f client).1, c), net := (f client).2 } := by
  rw [withClient, if_pos hopen, hclient]

end Hub

namespace Chronicle

/-! ## What calls do -/

/-- Nothing was passed on or taken out of an inbox, and no client has gone. -/
structure Kept (n n' : Chronicle) : Prop where
  limit : n'.hub.limit = n.hub.limit
  clients : ∀ x, x ∈ n.hub.clients → x ∈ n'.hub.clients
  passages : n'.passages = n.passages
  inbox : ∀ x, n'.hub.inbox x = n.hub.inbox x

/-- A client took deliveries out of its inbox, or had payloads passed on, and
no client has gone. -/
structure Shift (n n' : Chronicle) (own : String) (taken : List Delivery)
    (passed : List Passage) : Prop where
  limit : n'.hub.limit = n.hub.limit
  clients : ∀ x, x ∈ n.hub.clients → x ∈ n'.hub.clients
  passages : n'.passages = n.passages ++ passed
  senders : ∀ p ∈ passed, p.delivery.sender = own
  members : ∀ p ∈ passed, ∀ x ∈ p.members, x ∈ n'.hub.clients
  inbox : ∀ x, (if own = x then taken else []) ++ n'.hub.inbox x =
    n.hub.inbox x ++
      (passed.filter fun p => x ∈ p.members).map Passage.delivery

variable {n n' n'' : Chronicle}

theorem Kept.refl (n : Chronicle) : Kept n n :=
  ⟨rfl, fun _ => id, rfl, fun _ => rfl⟩

theorem Kept.trans (h : Kept n n') (h' : Kept n' n'') : Kept n n'' :=
  ⟨h'.limit.trans h.limit, fun x hx => h'.clients x (h.clients x hx),
    h'.passages.trans h.passages, fun x => (h'.inbox x).trans (h.inbox x)⟩

theorem Kept.has {c : Connection} (h : Kept n n') (hc : n.hub.Has c) :
    n'.hub.Has c :=
  ⟨hc.isOpen, h.clients _ hc.client⟩

variable {own : String} {taken : List Delivery} {passed : List Passage}

theorem Shift.of_kept (h : Kept n n') (own : String) : Shift n n' own [] [] where
  limit := h.limit
  clients := h.clients
  passages := by rw [h.passages, List.append_nil]
  senders := by simp
  members := by simp
  inbox := fun x => by
    rw [h.inbox, ite_self, List.nil_append]
    exact (List.append_nil _).symm

theorem Shift.after_kept (h : Kept n n') (h' : Shift n' n'' own taken passed) :
    Shift n n'' own taken passed where
  limit := h'.limit.trans h.limit
  clients := fun x hx => h'.clients x (h.clients x hx)
  passages := by rw [h'.passages, h.passages]
  senders := h'.senders
  members := h'.members
  inbox := fun x => by rw [h'.inbox, h.inbox]

theorem Shift.has {c : Connection} (h : Shift n n' own taken passed)
    (hc : n.hub.Has c) : n'.hub.Has c :=
  ⟨hc.isOpen, h.clients _ hc.client⟩

/-- To change the groups of a client is to keep everything that counts. -/
theorem kept_update {c : Connection} {client client' : Hub.Client}
    (hclient : n.hub.clients[c.address]? = some client)
    (hinbox : client'.inbox = client.inbox) :
    Kept n { n with hub := n.hub.update c client' } where
  limit := rfl
  clients := fun x => Hub.mem_clients_update c client'
  passages := rfl
  inbox := fun x => by
    rw [Hub.inbox_update, hinbox]
    split
    · next hx => rw [← hx, Hub.inbox_of_client hclient]
    · rfl

/-- A call that keeps everything, and does not make its caller give up the
session. -/
def Harmless {α : Type} (n : Chronicle) (c : Connection)
    (s : Served Chronicle (Except Fault α × Connection)) : Prop :=
  s.value.2 = c ∧ Kept n s.net ∧
    ∀ cause, s.value.1 = .error cause → cause.endsSession = false

theorem join_harmless {c : Connection} (hc : n.hub.Has c) (group : String) :
    Harmless n c (transport.join group c n) := by
  simp only [transport, ofHub, Hub.join]
  split
  · obtain ⟨client, hclient⟩ := hc.exists_client
    rw [Hub.withClient_of_client hc.isOpen hclient]
    refine ⟨rfl, kept_update hclient rfl, ?_⟩
    rintro _ ⟨⟩
  · refine ⟨rfl, .refl n, ?_⟩
    rintro _ ⟨⟩
    rfl

theorem leave_harmless {c : Connection} (hc : n.hub.Has c) (group : String) :
    Harmless n c (transport.leave group c n) := by
  simp only [transport, ofHub, Hub.leave]
  obtain ⟨client, hclient⟩ := hc.exists_client
  rw [Hub.withClient_of_client hc.isOpen hclient]
  refine ⟨rfl, kept_update hclient rfl, ?_⟩
  rintro _ ⟨⟩

/-- A connect is refused, or there is a client more. -/
theorem connect_cases (daemon client : String) (n : Chronicle) :
    (∃ fault, (transport.connect daemon client n).value = .error fault ∧
        (transport.connect daemon client n).net = n) ∨
      ∃ c, (transport.connect daemon client n).value = .ok c ∧
        c.address ∉ n.hub.clients ∧
        Kept n (transport.connect daemon client n).net ∧
        (transport.connect daemon client n).net.hub.Has c := by
  simp only [transport, ofHub, Hub.connect]
  split
  · exact .inl ⟨_, rfl, rfl⟩
  · split
    · exact .inl ⟨_, rfl, rfl⟩
    · split
      · exact .inl ⟨_, rfl, rfl⟩
      · next hnew =>
          refine .inr ⟨_, rfl, hnew, ⟨rfl, fun x hx => ?_, rfl, fun x => ?_⟩,
            rfl, ?_⟩
          · rw [Std.ExtTreeMap.mem_insert]
            exact .inr hx
          · exact Hub.inbox_insert hnew
          · rw [Std.ExtTreeMap.mem_insert]
            exact .inl Std.ReflCmp.compare_self

theorem poll_has {c : Connection} (hc : n.hub.Has c) :
    transport.poll c n =
      { value := (.ok !(n.hub.inbox c.address).isEmpty, c), net := n } := by
  obtain ⟨client, hclient⟩ := hc.exists_client
  simp only [transport, ofHub, Hub.poll]
  rw [Hub.withClient_of_client hc.isOpen hclient, Hub.inbox_of_client hclient]

theorem receive_has {c : Connection} (hc : n.hub.Has c) {d : Delivery}
    {rest : List Delivery} (hinbox : n.hub.inbox c.address = d :: rest) :
    (transport.receive c n).value = (.ok d, c) ∧
      Shift n (transport.receive c n).net c.address [d] [] := by
  obtain ⟨client, hclient⟩ := hc.exists_client
  rw [Hub.inbox_of_client hclient] at hinbox
  simp only [transport, ofHub, Hub.receive]
  rw [Hub.withClient_of_client hc.isOpen hclient]
  simp only [hinbox]
  refine ⟨trivial, rfl, fun x => Hub.mem_clients_update c _,
    (List.append_nil _).symm, by simp, by simp, fun x => ?_⟩
  rw [Hub.inbox_update]
  split
  · next hx =>
      rw [← hx, Hub.inbox_of_client hclient, hinbox]
      simp
  · simp

theorem multicast_has {c : Connection} (hc : n.hub.Has c) {group : String}
    {flags : Flags} {payload : Bytes} {service : Service}
    (hgroup : Hub.legalGroup group = true)
    (hsize : payload.length ≤ n.hub.limit) :
    (transport.multicast group flags payload service c n).value =
        (.ok payload.length, c) ∧
      Shift n (transport.multicast group flags payload service c n).net
        c.address []
        [{ delivery := ⟨c.address, group, flags, payload⟩
           members := n.hub.members group }] := by
  obtain ⟨client, hclient⟩ := hc.exists_client
  have hcall : Hub.multicast group flags payload service c n.hub =
      ⟨(.ok payload.length, c),
        n.hub.pass ⟨c.address, group, flags, payload⟩, []⟩ := by
    rw [Hub.multicast, hgroup, if_neg (by simp), if_neg (by omega),
      Hub.withClient_of_client hc.isOpen hclient]
  simp only [transport, hcall]
  refine ⟨trivial, rfl, fun x hx => ?_, rfl, ?_, ?_, fun x => ?_⟩
  · exact (Hub.mem_clients_pass _).mpr hx
  · simp
  · rintro p hp x hx
    obtain rfl := List.mem_singleton.mp hp
    exact (Hub.mem_clients_pass _).mpr (Hub.mem_clients_of_members hx)
  · rw [ite_self, List.nil_append, Hub.inbox_pass]
    split
    · next hx => simp [hx]
    · next hx => simp [hx]

end Chronicle

end Courier
