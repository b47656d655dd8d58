import Courier.Proofs.Hub.Inboxes

/-!
# Connections and the sessions that they opened

A hub hands out connections, and whoever holds one may use it at any time, also
long after its session has ended. Connections are numbered here in the order in
which they were opened, and each is kept as its last use has left it.

A hub finds the client of a connection by name. So a connection that nobody has
used since its session ended takes the next session of that name for its own
(`stale_connection_reaches_next_session`). That is the only way to reach the
session of another: as long as nobody connects under a name that a connection
still carries, the connection acts on the session that it opened, and on none
once that session has ended.
-/

namespace Courier

namespace Hub

/-! ## Uses of a connection -/

/-- What is done with a connection. One that is dropped is disconnected. -/
inductive Use where
  | join (group : String)
  | leave (group : String)
  | multicast (group : String) (flags : Flags) (payload : Bytes)
      (service : Service)
  | poll
  | receive
  | disconnect
  deriving DecidableEq

/-- The use as an act on the hub. -/
def Use.act (c : Connection) : Use → Act
  | .join group => .join c group
  | .leave group => .leave c group
  | .multicast group flags payload service =>
    .multicast c group flags payload service
  | .poll => .poll c
  | .receive => .receive c
  | .disconnect => .disconnect c

/-- No use names a group that cannot be one, or has a payload that is too
long. -/
def Use.isLegal (limit : Nat) : Use → Bool
  | .join group => legalGroup group
  | .multicast group _ payload _ =>
    legalGroup group && decide (payload.length ≤ limit)
  | _ => true

/-- The connection that the hub hands out. -/
def Answer.opened? : Answer → Option Connection
  | .connected (.ok c) => some c
  | _ => none

/-- The connection as a call leaves it. -/
def Answer.left? : Answer → Option Connection
  | .changed (_, c) => some c
  | .sent (_, c) => some c
  | .polled (_, c) => some c
  | .received (_, c) => some c
  | .left c => some c
  | _ => none

/-- The fault that a call ended in. -/
def Answer.fault? : Answer → Option Fault
  | .connected (.error fault) => some fault
  | .changed (.error fault, _) => some fault
  | .sent (.error fault, _) => some fault
  | .polled (.error fault, _) => some fault
  | .received (.error fault, _) => some fault
  | _ => none

/-- The client of a name is there if it was there before, in the same groups,
and nothing was taken out of its inbox. -/
def Untouched (x : String) (h h' : Hub) : Prop :=
  ∃ more, h'.clients[x]? = h.clients[x]?.map fun client =>
    { client with inbox := client.inbox ++ more }

/-- What the use of a connection does. -/
structure Used (c : Connection) (u : Use) (h : Hub) (answer : Answer)
    (h' : Hub) : Prop where
  left : ∃ c', answer.left? = some c' ∧ c'.address = c.address ∧
    (c'.isOpen = true → c.isOpen = true)
  clients : ∀ x ∈ h'.clients, x ∈ h.clients
  others : ∀ x, c.address ≠ x → Untouched x h h'
  /-- A connection without a session fails, and does nothing. -/
  missed : ¬ h.Has c → h' = h ∧
    (u ≠ .disconnect → answer.fault? ≠ none) ∧
    (u ≠ .disconnect → u.isLegal h.limit = true →
      answer.fault? = some .closed)

variable {h h' : Hub} {c : Connection} {x : String}

theorem Untouched.of_eq (hsame : h'.clients[x]? = h.clients[x]?) :
    Untouched x h h' :=
  ⟨[], by simp [hsame]⟩

theorem untouched_pass (d : Delivery) (h : Hub) (x : String) :
    Untouched x h (h.pass d) := by
  rw [Untouched, pass, Std.ExtTreeMap.getElem?_map]
  cases h.clients[x]? with
  | none => exact ⟨[], rfl⟩
  | some client =>
      simp only [Option.map_some, Client.take]
      split
      · exact ⟨[d], rfl⟩
      · exact ⟨[], by simp⟩

theorem untouched_update (client : Client) (hx : c.address ≠ x) :
    Untouched x h (h.update c client) := by
  refine .of_eq ?_
  rw [update, Std.ExtTreeMap.getElem?_insert, if_neg (by simpa using hx)]

theorem withClient_left {α : Type} (f : Client → Except Fault α × Hub) :
    (withClient c h f).value.2.address = c.address ∧
      ((withClient c h f).value.2.isOpen = true → c.isOpen = true) := by
  rw [withClient]
  split
  · split
    · exact ⟨rfl, id⟩
    · exact ⟨rfl, fun hopen => absurd hopen Bool.false_ne_true⟩
  · exact ⟨rfl, id⟩

theorem Regroups.untouched (hregroups : Regroups c h h')
    (hx : c.address ≠ x) : Untouched x h h' := by
  obtain rfl | ⟨client, groups, -, -, rfl⟩ := hregroups
  · exact .of_eq rfl
  · exact untouched_update _ hx

theorem disconnect_of_not_has (hc : ¬ h.Has c) : (disconnect c h).net = h := by
  rw [disconnect]
  split
  · next hopen =>
      have habsent : c.address ∉ h.clients := fun hclient => hc ⟨hopen, hclient⟩
      have hsame : h.clients.erase c.address = h.clients := by
        refine Std.ExtTreeMap.ext_getElem? fun x => ?_
        rw [Std.ExtTreeMap.getElem?_erase]
        split
        · next hx =>
            rw [Std.LawfulEqCmp.compare_eq_iff_eq] at hx
            exact (hx ▸ Std.ExtTreeMap.getElem?_eq_none habsent).symm
        · rfl
      rw [hsame]
  · rfl

/-- A connection without a session is told so by whatever looks for its
client. -/
theorem missed_of_withClient {α : Type} {f : Client → Except Fault α × Hub}
    {s : Served Hub (Except Fault α × Connection)} (hs : s = withClient c h f)
    (hc : ¬ h.Has c) :
    ∃ c', s.value = (.error .closed, c') ∧ s.net = h := by
  obtain ⟨hvalue, hnet⟩ := withClient_of_not_has hc f
  rw [hs]
  exact ⟨_, Prod.ext hvalue rfl, hnet⟩

theorem used_join (c : Connection) (group : String) (h : Hub) :
    Used c (.join group) h (.changed (join group c h).value)
      (join group c h).net where
  left := by
    refine ⟨_, rfl, ?_⟩
    rw [join]
    split
    · exact withClient_left _
    · exact ⟨rfl, id⟩
  clients := fun _ => (join_regroups group c h).clients
  others := fun _ => (join_regroups group c h).untouched
  missed := fun hc => by
    rw [join]
    split
    · obtain ⟨c', hvalue, hnet⟩ := missed_of_withClient rfl hc
      rw [hvalue, hnet]
      exact ⟨rfl, fun _ => Option.some_ne_none _, fun _ _ => rfl⟩
    · next hillegal =>
        exact ⟨rfl, fun _ => Option.some_ne_none _,
          fun _ hlegal => absurd hlegal hillegal⟩

theorem used_leave (c : Connection) (group : String) (h : Hub) :
    Used c (.leave group) h (.changed (leave group c h).value)
      (leave group c h).net where
  left := ⟨_, rfl, withClient_left _⟩
  clients := fun _ => (leave_regroups group c h).clients
  others := fun _ => (leave_regroups group c h).untouched
  missed := fun hc => by
    obtain ⟨c', hvalue, hnet⟩ :=
      missed_of_withClient (s := leave group c h) rfl hc
    rw [hvalue, hnet]
    exact ⟨rfl, fun _ => Option.some_ne_none _, fun _ _ => rfl⟩

theorem used_multicast (c : Connection) (group : String) (flags : Flags)
    (payload : Bytes) (service : Service) (h : Hub) :
    Used c (.multicast group flags payload service) h
      (.sent (multicast group flags payload service c h).value)
      (multicast group flags payload service c h).net := by
  by_cases hadmits : h.Admits c group payload
  · rw [multicast_accepted hadmits flags service]
    exact ⟨⟨c, rfl, rfl, id⟩, fun _ => (mem_clients_pass _).mp,
      fun _ _ => untouched_pass _ _ _, fun hc => absurd hadmits.has hc⟩
  · obtain ⟨⟨fault, c', hvalue⟩, hnet⟩ :=
      multicast_refused hadmits flags service
    refine ⟨⟨_, rfl, ?_⟩, fun x hx => hnet ▸ hx, fun x _ => ?_, fun hc => ?_⟩
    · rw [multicast]
      split
      · exact ⟨rfl, id⟩
      · split
        · exact ⟨rfl, id⟩
        · exact withClient_left _
    · rw [hnet]
      exact .of_eq rfl
    · rw [hvalue, hnet]
      refine ⟨rfl, fun _ => Option.some_ne_none _, fun _ hlegal => ?_⟩
      rw [Use.isLegal, Bool.and_eq_true, decide_eq_true_eq] at hlegal
      obtain ⟨hgroup, hsize⟩ := hlegal
      rw [multicast, hgroup, if_neg (by simp), if_neg (by omega)] at hvalue
      obtain ⟨c'', hclosed, -⟩ := missed_of_withClient rfl hc
      rw [hclosed] at hvalue
      cases hvalue
      rfl

theorem used_poll (c : Connection) (h : Hub) :
    Used c .poll h (.polled (poll c h).value) (poll c h).net where
  left := ⟨_, rfl, withClient_left _⟩
  clients := fun x hx => poll_net c h ▸ hx
  others := fun x _ => by
    rw [poll_net]
    exact .of_eq rfl
  missed := fun hc => by
    obtain ⟨c', hvalue, hnet⟩ := missed_of_withClient (s := poll c h) rfl hc
    rw [hvalue, hnet]
    exact ⟨rfl, fun _ => Option.some_ne_none _, fun _ _ => rfl⟩

theorem used_receive (c : Connection) (h : Hub) :
    Used c .receive h (.received (receive c h).value) (receive c h).net where
  left := ⟨_, rfl, withClient_left _⟩
  clients := fun x hx => by
    obtain ⟨client, d, rest, hc, -, -, hcall⟩ | ⟨_, _, -, hnet⟩ :=
      receive_hands c h
    · rw [hcall] at hx
      exact mem_clients_of_update hc hx
    · exact hnet ▸ hx
  others := fun x hx => by
    obtain ⟨client, d, rest, -, -, -, hcall⟩ | ⟨_, _, -, hnet⟩ :=
      receive_hands c h
    · rw [hcall]
      exact untouched_update _ hx
    · rw [hnet]
      exact .of_eq rfl
  missed := fun hc => by
    obtain ⟨c', hvalue, hnet⟩ :=
      missed_of_withClient (s := receive c h) rfl hc
    rw [hvalue, hnet]
    exact ⟨rfl, fun _ => Option.some_ne_none _, fun _ _ => rfl⟩

theorem used_disconnect (c : Connection) (h : Hub) :
    Used c .disconnect h (.left (disconnect c h).value)
      (disconnect c h).net where
  left := by
    refine ⟨_, rfl, ?_⟩
    rw [disconnect]
    split
    · exact ⟨rfl, fun hopen => absurd hopen Bool.false_ne_true⟩
    · exact ⟨rfl, id⟩
  clients := (disconnect_quiet c h).clients
  others := fun x hx => by
    refine .of_eq ?_
    rw [disconnect]
    split
    · simp only [Std.ExtTreeMap.getElem?_erase,
        Std.LawfulEqCmp.compare_eq_iff_eq, hx, if_false]
    · rfl
  missed := fun hc => ⟨disconnect_of_not_has hc, fun h => absurd rfl h,
    fun h => absurd rfl h⟩

theorem used (c : Connection) (u : Use) (h : Hub) :
    Used c u h ((act (u.act c)).run h).1 ((act (u.act c)).run h).2 := by
  cases u with
  | join group => exact used_join c group h
  | leave group => exact used_leave c group h
  | multicast group flags payload service =>
      exact used_multicast c group flags payload service h
  | poll => exact used_poll c h
  | receive => exact used_receive c h
  | disconnect => exact used_disconnect c h

/-- What a poll tells is about the inbox of the connection's own client. -/
theorem poll_reads {ready : Bool} {c' : Connection}
    (hready : (poll c h).value = (.ok ready, c')) :
    ready = !(h.inbox c.address).isEmpty := by
  by_cases hc : h.Has c
  · obtain ⟨client, hclient⟩ := hc.exists_client
    rw [poll, withClient_of_client hc.isOpen hclient] at hready
    rw [inbox_of_client hclient]
    cases hready
    rfl
  · obtain ⟨c'', hvalue, -⟩ := missed_of_withClient (s := poll c h) rfl hc
    rw [hvalue] at hready
    cases hready

/-- What is received comes out of the inbox of the connection's own client. -/
theorem receive_reads {d : Delivery} {c' : Connection}
    (hd : (receive c h).value = (.ok d, c')) :
    ∃ rest, h.inbox c.address = d :: rest := by
  obtain ⟨client, d', rest, -, hclient, hinbox, hcall⟩ | ⟨_, _, hvalue, -⟩ :=
    receive_hands c h
  · rw [hcall] at hd
    cases hd
    exact ⟨rest, (inbox_of_client hclient).trans hinbox⟩
  · rw [hvalue] at hd
    cases hd

end Hub

/-! ## Rosters -/

/-- A hub and all connections that it has handed out, in the order in which
they were opened. -/
structure Roster where
  hub : Hub
  connections : List Connection := []

namespace Roster

open Hub (Use Answer Used Untouched)

/-- What is done with connections, and what may happen at the hub. -/
inductive Turn where
  | connect (daemon client : String)
  | use (i : Nat) (u : Use)
  | inject (d : Delivery)
  | refuse (on : Bool)
  | dropAll
  deriving DecidableEq

/-- A turn that uses no connection. A connection that the hub hands out is the
next one. -/
def serve (a : Hub.Act) : StateM Roster Answer := fun r =>
  let (answer, hub) := (Hub.act a).run r.hub
  (answer, { hub, connections := r.connections ++ answer.opened?.toList })

def take : Turn → StateM Roster Answer
  | .connect daemon client => serve (.connect daemon client)
  | .inject d => serve (.inject d)
  | .refuse on => serve (.refuse on)
  | .dropAll => serve .dropAll
  | .use i u => fun r =>
    match r.connections[i]? with
    | none => (.done, r)
    | some c =>
      let (answer, hub) := (Hub.act (u.act c)).run r.hub
      (answer, { hub, connections :=
        r.connections.set i (answer.left?.getD c) })

/-- The names under which connections were opened. -/
def names (r : Roster) : List String :=
  r.connections.map Connection.address

/-- The connection of a number was opened under a name, and none was opened
under it later. A name that is taken is not given out again, so if the hub has a
session of that name, it is the one that this connection opened. -/
def Opened (r : Roster) (i : Nat) (x : String) : Prop :=
  r.names[i]? = some x ∧ x ∉ r.names.drop (i + 1)

abbrev Log := Run Roster Turn Answer

def log (name : String) (limit : Nat) (turns : List Turn) : Log :=
  Run.of take { hub := { name, limit } } turns

/-- The hub has dropped its clients since the connection was opened. -/
def Log.HasEnded (run : Log) (i : Nat) : Prop :=
  ∃ m ∈ run.past, m.turn = .dropAll ∧ i < m.before.connections.length

/-- Whenever a connection was opened, its name was not one that the connection
of number `i` still carried. -/
def Log.KeepsName (run : Log) (i : Nat) : Prop :=
  ∀ m ∈ run.past, ∀ c ∈ m.before.connections[i]?, c.isOpen = true →
    ∀ new ∈ m.answer.opened?, new.address ≠ c.address

/-! ## One turn -/

/-- No session has come. -/
structure Fades (r r' : Roster) : Prop where
  names : r'.names = r.names
  has : ∀ (i : Nat) c', r'.connections[i]? = some c' → r'.hub.Has c' →
    ∃ c, r.connections[i]? = some c ∧ c.address = c'.address ∧ r.hub.Has c

/-- What a turn does: a session is opened by a connection that is new, or none
is. -/
inductive Turned (r : Roster) : Turn → Answer → Roster → Prop where
  | opened {daemon client : String} {c : Connection}
    (new : c.address ∉ r.hub.clients) :
    Turned r (.connect daemon client) (.connected (.ok c))
      { hub := { r.hub with clients := r.hub.clients.insert c.address {} }
        connections := r.connections ++ [c] }
  | faded {turn : Turn} {answer : Answer} {r' : Roster}
    (unopened : answer.opened? = none) (fades : Fades r r') :
    Turned r turn answer r'

variable {r r' : Roster}

theorem names_concat (h : Hub) (c : Connection) :
    names { hub := h, connections := r.connections ++ [c] } =
      r.names ++ [c.address] :=
  List.map_append ..

theorem Fades.of_connections (hsame : r'.connections = r.connections)
    (hclients : ∀ x ∈ r'.hub.clients, x ∈ r.hub.clients) : Fades r r' where
  names := congrArg (List.map Connection.address) hsame
  has := fun _ c' hc' hhas =>
    ⟨c', hsame ▸ hc', rfl, hhas.isOpen, hclients _ hhas.client⟩

theorem Fades.of_used {i : Nat} {c : Connection} {u : Use} {answer : Answer}
    {h' : Hub} (hc : r.connections[i]? = some c)
    (hused : Used c u r.hub answer h') :
    Fades r { hub := h', connections :=
      r.connections.set i (answer.left?.getD c) } := by
  obtain ⟨c', hleft, haddress, hopen⟩ := hused.left
  rw [hleft, Option.getD_some]
  obtain ⟨hi, hget⟩ := List.getElem?_eq_some_iff.mp hc
  constructor
  · rw [Roster.names, List.map_set, haddress, ← hget, ← List.map_set,
      List.set_getElem_self]
    rfl
  · intro j c'' hc'' hhas
    rw [List.getElem?_set] at hc''
    split at hc''
    · next hij =>
        rw [Option.some.injEq] at hc''
        subst hc'' hij
        refine ⟨c, hc, haddress.symm, hopen hhas.isOpen, ?_⟩
        exact haddress ▸ hused.clients _ hhas.client
    · exact ⟨c'', hc'', rfl, hhas.isOpen, hused.clients _ hhas.client⟩

theorem turned (turn : Turn) (r : Roster) :
    Turned r turn ((take turn).run r).1 ((take turn).run r).2 := by
  cases turn with
  | connect daemon client =>
      show Turned r _ (.connected (Hub.connect daemon client r.hub).value)
        { hub := (Hub.connect daemon client r.hub).net
          connections := r.connections ++ (Answer.connected
            (Hub.connect daemon client r.hub).value).opened?.toList }
      obtain ⟨c, hvalue, hnew, hnet⟩ | ⟨fault, hvalue, hnet⟩ :=
        Hub.connect_opens daemon client r.hub
      · rw [hvalue, hnet]
        exact .opened hnew
      · rw [hvalue, hnet]
        refine .faded rfl (.of_connections ?_ fun _ => id)
        exact List.append_nil _
  | use i u =>
      simp only [take, StateT.run]
      cases hc : r.connections[i]? with
      | none => exact .faded rfl (.of_connections rfl fun _ => id)
      | some c =>
          have hused := Hub.used c u r.hub
          refine .faded ?_ (.of_used hc hused)
          cases u <;> rfl
  | inject d =>
      refine .faded rfl (.of_connections (List.append_nil _) ?_)
      exact fun x => (Hub.mem_clients_pass d).mp
  | refuse on =>
      refine .faded rfl (.of_connections (List.append_nil _) ?_)
      exact fun _ => id
  | dropAll =>
      refine .faded rfl (.of_connections (List.append_nil _) ?_)
      exact (Hub.dropAll_quiet r.hub).clients

theorem Fades.length_eq (h : Fades r r') :
    r'.connections.length = r.connections.length := by
  have hnames := congrArg List.length h.names
  rwa [Roster.names, Roster.names, List.length_map, List.length_map] at hnames

section Turned

variable {turn : Turn} {answer : Answer} {i : Nat} {x : String}

theorem Turned.length_le (h : Turned r turn answer r') :
    r.connections.length ≤ r'.connections.length := by
  cases h with
  | opened => simp
  | faded _ hfades => exact Nat.le_of_eq hfades.length_eq.symm

/-- A connection with a session is new, or had it before, or has come to the
session of a new one by its name. -/
theorem Turned.has_cases (h : Turned r turn answer r') {c' : Connection}
    (hc' : r'.connections[i]? = some c') (hhas : r'.hub.Has c') :
    (i = r.connections.length ∧ r'.Opened i c'.address) ∨
      ∃ c, r.connections[i]? = some c ∧ c.address = c'.address ∧
        (r.hub.Has c ∨ c.isOpen = true ∧
          ∃ new ∈ answer.opened?, new.address = c.address) := by
  cases h with
  | @opened daemon client new hnew =>
      rw [List.getElem?_append] at hc'
      split at hc'
      · right
        refine ⟨c', hc', rfl, ?_⟩
        have hclient := hhas.client
        rw [Std.ExtTreeMap.mem_insert, Std.LawfulEqCmp.compare_eq_iff_eq]
          at hclient
        obtain hsame | hclient := hclient
        · exact .inr ⟨hhas.isOpen, new, rfl, hsame⟩
        · exact .inl ⟨hhas.isOpen, hclient⟩
      · next hge =>
        left
        obtain ⟨hlt, rfl⟩ := List.getElem?_eq_some_iff.mp hc'
        have hi : i = r.connections.length := by
          simp only [List.length_singleton] at hlt
          omega
        rw [Opened, names_concat]
        refine ⟨hi, by simp [names, hi], ?_⟩
        rw [List.drop_eq_nil_of_le (by simp [names, hi])]
        exact List.not_mem_nil
  | faded _ hfades =>
      obtain ⟨c, hc, haddress, hhas'⟩ := hfades.has i c' hc' hhas
      exact .inr ⟨c, hc, haddress, .inl hhas'⟩

theorem Turned.opened_of_other (h : Turned r turn answer r')
    (hopened : r.Opened i x)
    (hother : ∀ new ∈ answer.opened?, new.address ≠ x) :
    r'.Opened i x := by
  cases h with
  | @opened daemon client new hnew =>
      obtain ⟨hname, hlater⟩ := hopened
      have hi := (List.getElem?_eq_some_iff.mp hname).1
      rw [Opened, names_concat]
      refine ⟨?_, ?_⟩
      · rw [List.getElem?_append_left hi, hname]
      · rw [List.drop_append_of_le_length hi, List.mem_append,
          List.mem_singleton]
        rintro (hx | rfl)
        · exact hlater hx
        · exact hother new rfl rfl
  | faded _ hfades =>
      rw [Opened, hfades.names]
      exact hopened

end Turned

/-! ## Logs -/

/-- As long as its name is kept, a connection has a session only if it opened
it, and the hub has not dropped its clients since. -/
structure Log.Guarded (run : Log) (i : Nat) : Prop where
  length_le : ∀ m ∈ run.past,
    m.before.connections.length ≤ run.state.connections.length
  owns : run.KeepsName i → ∀ c, run.state.connections[i]? = some c →
    run.state.hub.Has c → run.state.Opened i c.address ∧ ¬ run.HasEnded i

theorem Log.KeepsName.before {run : Log} {turn : Turn} {i : Nat}
    (h : Log.KeepsName (run.take take turn) i) : run.KeepsName i :=
  fun m hm => h m (List.mem_append_left _ hm)

theorem Log.KeepsName.last {run : Log} {turn : Turn} {i : Nat}
    (h : Log.KeepsName (run.take take turn) i) {c new : Connection}
    (hc : run.state.connections[i]? = some c) (hopen : c.isOpen = true)
    (hnew : new ∈ (run.moment take turn).answer.opened?) :
    new.address ≠ c.address :=
  h (run.moment take turn) (List.mem_append_right _ (List.mem_singleton_self _))
    c hc hopen new hnew

theorem Log.hasEnded_take {run : Log} {turn : Turn} {i : Nat}
    (hturn : turn ≠ .dropAll) :
    Log.HasEnded (run.take take turn) i ↔ run.HasEnded i := by
  simp only [HasEnded, Run.take, List.mem_append, List.mem_singleton]
  constructor
  · rintro ⟨m, hm | rfl, hdrop, hi⟩
    · exact ⟨m, hm, hdrop, hi⟩
    · exact absurd hdrop hturn
  · rintro ⟨m, hm, h⟩
    exact ⟨m, .inl hm, h⟩

theorem Log.Guarded.take {run : Log} {i : Nat} (h : run.Guarded i)
    (turn : Turn) : Log.Guarded (Run.take Roster.take run turn) i := by
  have hturned := turned turn run.state
  have hlength : run.state.connections.length ≤
    (Run.take Roster.take run turn).state.connections.length :=
      hturned.length_le
  constructor
  · intro m hm
    rcases List.mem_append.mp hm with hm | hm
    · exact Nat.le_trans (h.length_le m hm) hlength
    · obtain rfl := List.mem_singleton.mp hm
      exact hlength
  · intro hkeeps c' hc' hhas
    have hturn : turn ≠ .dropAll := by
      rintro rfl
      exact absurd hhas.client Std.ExtTreeMap.not_mem_empty
    rw [Log.hasEnded_take hturn]
    obtain ⟨rfl, hopened⟩ | ⟨c, hc, haddress, hhas'⟩ :=
      hturned.has_cases hc' hhas
    · refine ⟨hopened, ?_⟩
      -- Nothing was dropped since the connection is there, which is now.
      rintro ⟨m, hm, -, hlt⟩
      exact absurd (h.length_le m hm) (Nat.not_le_of_lt hlt)
    · obtain hhas' | ⟨hopen, new, hnew, hsame⟩ := hhas'
      · obtain ⟨hopened, hended⟩ := h.owns hkeeps.before c hc hhas'
        refine ⟨?_, hended⟩
        rw [← haddress]
        exact hturned.opened_of_other hopened fun new hnew =>
          hkeeps.last hc hhas'.isOpen hnew
      · exact absurd hsame (hkeeps.last hc hopen hnew)

theorem log_guarded (name : String) (limit : Nat) (turns : List Turn)
    (i : Nat) : (log name limit turns).Guarded i := by
  refine Run.invariant (P := fun run : Log => run.Guarded i) ?_
    fun run turn _ h => h.take turn
  exact ⟨by simp, fun _ c hc => by cases hc⟩

/-- What the use of a connection comes to after a log, if the connection acts
on its own session only. -/
structure Log.ActsOnOwn (run : Log) (i : Nat) (c : Connection) (u : Use)
    (answer : Answer) (after : Hub) : Prop where
  /-- A connection whose session has ended does nothing, and is told so. -/
  ended : run.HasEnded i → after = run.state.hub ∧
    (u ≠ .disconnect → u.isLegal run.state.hub.limit = true →
      answer.fault? = some .closed)
  /-- The clients of other sessions stay, in the groups that they were in, and
  lose nothing that waits for them. -/
  others : ∀ x, ¬ run.state.Opened i x → Untouched x run.state.hub after
  /-- A call that does not fail is a call on a session that is there, and that
  the connection opened. -/
  answered : u ≠ .disconnect → answer.fault? = none →
    run.state.Opened i c.address ∧ run.state.hub.Has c
  /-- What is read is in the inbox of that session. -/
  polled : ∀ ready c', answer = .polled (.ok ready, c') →
    ready = !(run.state.hub.inbox c.address).isEmpty
  received : ∀ d c', answer = .received (.ok d, c') →
    ∃ rest, run.state.hub.inbox c.address = d :: rest

/-- A connection acts on the session that it opened, and on no other, and once
the hub has dropped that session on none, whoever has connected since: unless
somebody connected under a name that the connection still carried. -/
theorem acts_on_own_session (name : String) (limit : Nat) (turns : List Turn)
    (i : Nat) :
    let run := log name limit turns
    ∀ c, run.state.connections[i]? = some c → run.KeepsName i → ∀ u,
      let m := run.moment take (.use i u)
      run.ActsOnOwn i c u m.answer m.after.hub := by
  intro run c hc hkeeps u m
  have hguarded : run.Guarded i := log_guarded name limit turns i
  have hm : m.answer = ((Hub.act (u.act c)).run run.state.hub).1 ∧
      m.after.hub = ((Hub.act (u.act c)).run run.state.hub).2 := by
    simp only [m, Run.moment, take, StateT.run, hc]
    exact ⟨rfl, rfl⟩
  rw [hm.1, hm.2]
  have hused := Hub.used c u run.state.hub
  refine ⟨fun hended => ?_, fun x hx => ?_, fun hcall hanswer => ?_, ?_, ?_⟩
  · have hhas : ¬ run.state.hub.Has c := fun hhas =>
      (hguarded.owns hkeeps c hc hhas).2 hended
    obtain ⟨hsame, -, hclosed⟩ := hused.missed hhas
    exact ⟨hsame, hclosed⟩
  · by_cases hhas : run.state.hub.Has c
    · refine hused.others x fun hsame => hx ?_
      exact hsame ▸ (hguarded.owns hkeeps c hc hhas).1
    · exact .of_eq (by rw [(hused.missed hhas).1])
  · have hhas : run.state.hub.Has c := by
      by_contra hhas
      exact (hused.missed hhas).2.1 hcall hanswer
    exact ⟨(hguarded.owns hkeeps c hc hhas).1, hhas⟩
  · intro ready c' hanswer
    cases u with
    | poll => exact Hub.poll_reads (Answer.polled.inj hanswer)
    | _ => cases hanswer
  · intro d c' hanswer
    cases u with
    | receive => exact Hub.receive_reads (Answer.received.inj hanswer)
    | _ => cases hanswer

/-- Two boxes under one name. The hub drops the first, which is told so before
the second comes. A payload waits for the second. -/
def succession : List Turn :=
  [.connect "" "box", .use 0 (.join "news"), .dropAll, .connect "" "post",
    .use 0 .poll, .connect "" "box", .use 2 (.join "news"),
    .inject ⟨"#post#hub", "news", .normal, [1]⟩]

theorem acts_on_own_session_succession :
    let run := log "hub" 100 succession
    run.HasEnded 0 ∧ run.KeepsName 0 ∧
      run.state.hub.inbox "#box#hub" = [⟨"#post#hub", "news", .normal, [1]⟩] ∧
      (run.moment take (.use 0 .receive)).answer.fault? = some .closed ∧
      (run.moment take (.use 0 .disconnect)).after.hub = run.state.hub := by
  intro run
  have hc : run.state.connections[0]? = some ⟨"#box#hub", false⟩ := by
    decide +kernel
  have hended : run.HasEnded 0 := by
    unfold Log.HasEnded
    decide +kernel
  have hkeeps : run.KeepsName 0 := by
    unfold Log.KeepsName
    decide +kernel
  have hacts := acts_on_own_session "hub" 100 succession 0 _ hc hkeeps
  exact ⟨hended, hkeeps, by decide +kernel,
    ((hacts .receive).ended hended).2 nofun rfl,
    ((hacts .disconnect).ended hended).1⟩

/-- A box under the name of one that the hub has dropped, and that was not
used since. -/
def impostor : List Turn :=
  [.connect "" "box", .dropAll, .connect "" "box", .use 1 (.join "news"),
    .inject ⟨"#post#hub", "news", .normal, [1]⟩]

/-- The first connection takes the session of the second for its own: it takes
deliveries, leaves groups, and takes the client along when it goes. -/
theorem stale_connection_reaches_next_session :
    let run := log "hub" 100 impostor
    run.HasEnded 0 ∧ run.state.Opened 1 "#box#hub" ∧
      (run.moment take (.use 0 .receive)).answer.fault? = none ∧
      (run.moment take (.use 0 .receive)).after.hub.inbox "#box#hub" ≠
        run.state.hub.inbox "#box#hub" ∧
      (run.moment take (.use 0 (.leave "news"))).after.hub.members "news" ≠
        run.state.hub.members "news" ∧
      (run.moment take (.use 0 .disconnect)).after.hub.addresses ≠
        run.state.hub.addresses := by
  intro run
  unfold Log.HasEnded Opened
  decide +kernel

end Roster

end Courier
