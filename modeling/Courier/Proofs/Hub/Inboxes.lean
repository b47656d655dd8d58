import Courier.Proofs.Hub.Chronicle
import Courier.Proofs.Run

/-!
# What sessions are delivered

A run of a hub is any list of the calls that clients make on their connections
and of what can be done to the hub itself. A connection that is dropped is
disconnected. No call asks where its connection comes from, so an act may
bring any connection along, one that no client ever held included.

What the hub accepts, it accepts in one order, which is the order of the run.
A session is owed, of all that was accepted since it was opened, what went to
a group that it was in at that moment. `Turned` says what one turn does to the
inboxes: a session that is there afterwards has been handed, or still has in
its inbox, what it had there before and then what the turn owes it. Summed up
over the turns since the session was opened, that is all there is to say about
a session at any time of its life, for the past of a run is itself a run.
-/

namespace Courier

namespace Hub

inductive Act where
  | connect (daemon client : String)
  | join (c : Connection) (group : String)
  | leave (c : Connection) (group : String)
  | multicast (c : Connection) (group : String) (flags : Flags)
      (payload : Bytes) (service : Service)
  | poll (c : Connection)
  | receive (c : Connection)
  | disconnect (c : Connection)
  | inject (d : Delivery)
  | refuse (on : Bool)
  | dropAll

inductive Answer where
  | connected (result : Except Fault Connection)
  | changed (result : Except Fault Unit × Connection)
  | sent (result : Except Fault Nat × Connection)
  | polled (result : Except Fault Bool × Connection)
  | received (result : Except Fault Delivery × Connection)
  | left (c : Connection)
  | done

/-- A call on the hub as a turn of its own. -/
def serve {α : Type} (answer : α → Answer) (call : Hub → Served Hub α) :
    StateM Hub Answer :=
  modifyGet fun h => (answer (call h).value, (call h).net)

def act : Act → StateM Hub Answer
  | .connect daemon client => serve .connected (Hub.connect daemon client)
  | .join c group => serve .changed (Hub.join group c)
  | .leave c group => serve .changed (Hub.leave group c)
  | .multicast c group flags payload service =>
    serve .sent (Hub.multicast group flags payload service c)
  | .poll c => serve .polled (Hub.poll c)
  | .receive c => serve .received (Hub.receive c)
  | .disconnect c => serve .left (Hub.disconnect c)
  | .inject d => modifyGet fun h => (.done, h.pass d)
  | .refuse on => modifyGet fun h => (.done, h.refuse on)
  | .dropAll => serve (fun _ => .done) Hub.dropAll

variable {h h' : Hub} {c : Connection} {x : String}
  {m : Moment Hub Act Answer}

/-- What the turn takes out of the inbox of a client. -/
def taken (x : String) (m : Moment Hub Act Answer) : List Delivery :=
  match m.turn, m.answer with
  | .receive c, .received (.ok d, _) => if c.address = x then [d] else []
  | _, _ => []

/-- What the hub accepts in the turn. -/
def passed (m : Moment Hub Act Answer) : List Delivery :=
  match m.turn, m.answer with
  | .multicast c group flags payload _, .sent (.ok _, _) =>
    [{ sender := c.address, group, flags, payload }]
  | .inject d, _ => [d]
  | _, _ => []

/-- What the turn owes to a client: what is accepted for a group of it. -/
def owed (x : String) (m : Moment Hub Act Answer) : List Delivery :=
  (passed m).filter fun d => x ∈ m.before.members d.group

/-- The turn opens a session for a client that had none. -/
structure Opens (x : String) (m : Moment Hub Act Answer) : Prop where
  connects : ∃ daemon client c, m.turn = .connect daemon client ∧
    m.answer = .connected (.ok c) ∧ c.address = x
  absent : x ∉ m.before.clients

theorem inbox_of_notMem (hx : x ∉ h.clients) : h.inbox x = [] := by
  rw [inbox, Std.ExtTreeMap.getElem?_eq_none hx]

/-! ## Calls -/

/-- Without its client a call fails, and all that comes of it is that the
connection is closed. -/
theorem withClient_gone {α : Type} (hc : ¬ h.Has c)
    (f : Client → Except Fault α × Hub) :
    withClient c h f =
      { value := (.error .closed, { c with isOpen := false }), net := h } := by
  rw [withClient]
  split
  · next hopen =>
    split
    · next client hclient =>
        refine absurd ⟨hopen, ?_⟩ hc
        rw [Std.ExtTreeMap.mem_iff_isSome_getElem?, hclient]
        rfl
    · rfl
  · next hclosed =>
      obtain ⟨address, isOpen⟩ := c
      obtain rfl := Bool.not_eq_true _ ▸ hclosed
      rfl

theorem withClient_of_not_has {α : Type} (hc : ¬ h.Has c)
    (f : Client → Except Fault α × Hub) :
    (withClient c h f).value.1 = .error .closed ∧
      (withClient c h f).net = h := by
  rw [withClient_gone hc]
  exact ⟨rfl, rfl⟩

/-- A connect opens a session, or fails and leaves the hub as it was. -/
theorem connect_opens (daemon client : String) (h : Hub) :
    (∃ c, (connect daemon client h).value = .ok c ∧ c.address ∉ h.clients ∧
        (connect daemon client h).net =
          { h with clients := h.clients.insert c.address {} }) ∨
      ∃ fault, (connect daemon client h).value = .error fault ∧
        (connect daemon client h).net = h := by
  rw [connect]
  split
  · exact .inr ⟨_, rfl, rfl⟩
  · split
    · exact .inr ⟨_, rfl, rfl⟩
    · split
      · exact .inr ⟨_, rfl, rfl⟩
      · next hnew => exact .inl ⟨_, rfl, hnew, rfl⟩

/-- What a hub asks of a multicast: a group that can be one, a payload that is
not too long, and a connection that has its client. -/
structure Admits (h : Hub) (c : Connection) (group : String) (payload : Bytes) :
    Prop where
  legal : legalGroup group = true
  size : payload.length ≤ h.limit
  has : h.Has c

theorem multicast_accepted {group : String} {payload : Bytes}
    (hadmits : h.Admits c group payload) (flags : Flags) (service : Service) :
    multicast group flags payload service c h =
      { value := (.ok payload.length, c)
        net := h.pass { sender := c.address, group, flags, payload } } := by
  obtain ⟨hlegal, hsize, hc⟩ := hadmits
  obtain ⟨client, hclient⟩ := hc.exists_client
  rw [multicast, hlegal, if_neg (by simp), if_neg (by omega),
    withClient_of_client hc.isOpen hclient]

/-- Any other multicast fails and leaves the hub as it was. -/
theorem multicast_refused {group : String} {payload : Bytes}
    (hadmits : ¬ h.Admits c group payload) (flags : Flags) (service : Service) :
    (∃ fault c',
        (multicast group flags payload service c h).value = (.error fault, c')) ∧
      (multicast group flags payload service c h).net = h := by
  rw [multicast]
  split
  · exact ⟨⟨_, _, rfl⟩, rfl⟩
  · next hlegal =>
    split
    · exact ⟨⟨_, _, rfl⟩, rfl⟩
    · next hsize =>
        have hc : ¬ h.Has c := fun hc =>
          hadmits ⟨by simpa using hlegal, by omega, hc⟩
        obtain ⟨hvalue, hnet⟩ := withClient_of_not_has hc fun _ =>
          (.ok payload.length,
            h.pass { sender := c.address, group, flags, payload })
        exact ⟨⟨_, _, Prod.ext hvalue rfl⟩, hnet⟩

theorem poll_net (c : Connection) (h : Hub) : (poll c h).net = h := by
  rw [poll]
  by_cases hc : h.Has c
  · obtain ⟨client, hclient⟩ := hc.exists_client
    rw [withClient_of_client hc.isOpen hclient]
  · exact (withClient_of_not_has hc _).2

/-- A receive hands out the oldest delivery, or fails and leaves the hub as it
was. -/
theorem receive_hands (c : Connection) (h : Hub) :
    (∃ client d rest, h.Has c ∧ h.clients[c.address]? = some client ∧
        client.inbox = d :: rest ∧ receive c h =
          { value := (.ok d, c)
            net := h.update c { client with inbox := rest } }) ∨
      ∃ fault c', (receive c h).value = (.error fault, c') ∧
        (receive c h).net = h := by
  by_cases hc : h.Has c
  · obtain ⟨client, hclient⟩ := hc.exists_client
    rw [receive, withClient_of_client hc.isOpen hclient]
    cases hinbox : client.inbox with
    | nil => exact .inr ⟨_, _, rfl, rfl⟩
    | cons d rest => exact .inl ⟨client, d, rest, hc, hclient, hinbox, rfl⟩
  · obtain ⟨hvalue, hnet⟩ := withClient_of_not_has hc _
    exact .inr ⟨_, _, Prod.ext hvalue rfl, hnet⟩

/-- No more is done than that the client of the connection has other groups. -/
def Regroups (c : Connection) (h h' : Hub) : Prop :=
  h' = h ∨ ∃ client groups, h.Has c ∧ h.clients[c.address]? = some client ∧
    h' = h.update c { client with groups }

theorem regroups_withClient (change : Groups → Groups) :
    Regroups c h (withClient c h fun client => (Except.ok (),
      h.update c { client with groups := change client.groups })).net := by
  by_cases hc : h.Has c
  · obtain ⟨client, hclient⟩ := hc.exists_client
    rw [withClient_of_client hc.isOpen hclient]
    exact .inr ⟨client, _, hc, hclient, rfl⟩
  · exact .inl (withClient_of_not_has hc _).2

theorem join_regroups (group : String) (c : Connection) (h : Hub) :
    Regroups c h (join group c h).net := by
  rw [join]
  split
  · exact regroups_withClient (·.insert group)
  · exact .inl rfl

theorem leave_regroups (group : String) (c : Connection) (h : Hub) :
    Regroups c h (leave group c h).net :=
  regroups_withClient (·.erase group)

theorem mem_clients_of_update {client : Client} (hc : h.Has c)
    (hx : x ∈ (h.update c client).clients) : x ∈ h.clients := by
  rw [update, Std.ExtTreeMap.mem_insert, Std.LawfulEqCmp.compare_eq_iff_eq]
    at hx
  obtain rfl | hx := hx
  · exact hc.client
  · exact hx

theorem Regroups.clients (hregroups : Regroups c h h') (hx : x ∈ h'.clients) :
    x ∈ h.clients := by
  obtain rfl | ⟨client, groups, hc, -, rfl⟩ := hregroups
  · exact hx
  · exact mem_clients_of_update hc hx

/-- Other groups leave every inbox as it is. -/
theorem Regroups.inbox (hregroups : Regroups c h h') (x : String) :
    h'.inbox x = h.inbox x := by
  obtain rfl | ⟨client, groups, -, hclient, rfl⟩ := hregroups
  · rfl
  · rw [inbox_update]
    split
    · next hx => rw [← hx, inbox_of_client hclient]
    · rfl

/-! ## One turn -/

/-- What a turn does to the count, the inboxes and the sessions. -/
structure Turned (m : Moment Hub Act Answer) : Prop where
  limit : m.after.limit = m.before.limit
  count : m.after.accepted = m.before.accepted + (passed m).length
  inbox : ∀ x ∈ m.after.clients,
    taken x m ++ m.after.inbox x = m.before.inbox x ++ owed x m
  opens : ∀ x ∈ m.after.clients, x ∉ m.before.clients → Opens x m

/-- Nothing was passed on or taken, and nobody has come. -/
structure Quiet (h h' : Hub) : Prop where
  limit : h'.limit = h.limit
  count : h'.accepted = h.accepted
  inbox : ∀ x ∈ h'.clients, h'.inbox x = h.inbox x
  clients : ∀ x ∈ h'.clients, x ∈ h.clients

theorem Quiet.of_eq (hsame : h' = h) : Quiet h h' := by
  rw [hsame]
  exact ⟨rfl, rfl, fun _ _ => rfl, fun _ => id⟩

theorem Regroups.quiet (hregroups : Regroups c h h') : Quiet h h' where
  limit := by obtain rfl | ⟨client, groups, -, -, rfl⟩ := hregroups <;> rfl
  count := by obtain rfl | ⟨client, groups, -, -, rfl⟩ := hregroups <;> rfl
  inbox := fun x _ => hregroups.inbox x
  clients := fun _ => hregroups.clients

theorem disconnect_quiet (c : Connection) (h : Hub) :
    Quiet h (disconnect c h).net := by
  rw [disconnect]
  split
  · have hold : ∀ x ∈ h.clients.erase c.address,
        c.address ≠ x ∧ x ∈ h.clients := by
      intro x hx
      rwa [Std.ExtTreeMap.mem_erase, Ne, Std.LawfulEqCmp.compare_eq_iff_eq]
        at hx
    refine ⟨rfl, rfl, fun x hx => ?_, fun x hx => (hold x hx).2⟩
    rw [inbox, Std.ExtTreeMap.getElem?_erase, inbox,
      if_neg (by simpa using (hold x hx).1)]
  · exact .of_eq rfl

theorem dropAll_quiet (h : Hub) : Quiet h h.dropAll.net := by
  have hgone : ∀ x, x ∉ h.dropAll.net.clients := fun x =>
    Std.ExtTreeMap.not_mem_empty
  exact ⟨rfl, rfl, fun x hx => absurd hx (hgone x),
    fun x hx => absurd hx (hgone x)⟩

theorem Turned.of_quiet (hquiet : Quiet m.before m.after)
    (htaken : ∀ x, taken x m = []) (hpassed : passed m = []) : Turned m where
  limit := hquiet.limit
  count := by rw [hquiet.count, hpassed, List.length_nil, Nat.add_zero]
  inbox := fun x hx => by
    rw [htaken, hquiet.inbox x hx, owed, hpassed, List.filter_nil,
      List.nil_append, List.append_nil]
  opens := fun x hx hnew => absurd (hquiet.clients x hx) hnew

theorem Turned.of_pass {d : Delivery} (hafter : m.after = m.before.pass d)
    (htaken : ∀ x, taken x m = []) (hpassed : passed m = [d]) : Turned m where
  limit := by rw [hafter, pass]
  count := by rw [hafter, hpassed, pass, List.length_singleton]
  inbox := fun x _ => by
    rw [htaken, hafter, inbox_pass, owed, hpassed, List.nil_append]
    by_cases hx : x ∈ m.before.members d.group
    · simp [hx]
    · simp [hx]
  opens := fun x hx hnew => by
    rw [hafter, mem_clients_pass] at hx
    exact absurd hx hnew

theorem turned_connect (run : Run Hub Act Answer) (daemon client : String) :
    Turned (run.moment act (.connect daemon client)) := by
  obtain ⟨c, hvalue, hnew, hnet⟩ | ⟨fault, hvalue, hnet⟩ :=
    connect_opens daemon client run.state
  · have hafter : (run.moment act (.connect daemon client)).after =
        { run.state with clients := run.state.clients.insert c.address {} } :=
      hnet
    refine ⟨?_, ?_, fun x _ => ?_, fun x hx habsent => ⟨?_, habsent⟩⟩
    · rw [hafter]
      rfl
    · rw [hafter]
      rfl
    · rw [hafter, inbox_insert hnew]
      exact (List.append_nil _).symm
    · rw [hafter, Std.ExtTreeMap.mem_insert,
        Std.LawfulEqCmp.compare_eq_iff_eq] at hx
      exact ⟨daemon, client, c, rfl, congrArg Answer.connected hvalue,
        hx.resolve_right habsent⟩
  · exact .of_quiet (.of_eq hnet) (fun _ => rfl) rfl

theorem turned_multicast (run : Run Hub Act Answer) (c : Connection)
    (group : String) (flags : Flags) (payload : Bytes) (service : Service) :
    Turned (run.moment act (.multicast c group flags payload service)) := by
  by_cases hadmits : run.state.Admits c group payload
  · have hcall := multicast_accepted hadmits flags service
    refine .of_pass (congrArg Served.net hcall) (fun _ => rfl) ?_
    have hanswer : (run.moment act (.multicast c group flags payload
        service)).answer = .sent (.ok payload.length, c) :=
      congrArg (Answer.sent ∘ Served.value) hcall
    rw [passed, hanswer]
    rfl
  · obtain ⟨⟨fault, c', hvalue⟩, hnet⟩ :=
      multicast_refused hadmits flags service
    refine .of_quiet (.of_eq hnet) (fun _ => rfl) ?_
    have hanswer : (run.moment act (.multicast c group flags payload
        service)).answer = .sent (.error fault, c') :=
      congrArg Answer.sent hvalue
    rw [passed, hanswer]
    rfl

theorem turned_receive (run : Run Hub Act Answer) (c : Connection) :
    Turned (run.moment act (.receive c)) := by
  obtain ⟨client, d, rest, hc, hclient, hinbox, hcall⟩ |
    ⟨fault, c', hvalue, hnet⟩ := receive_hands c run.state
  · have hafter : (run.moment act (.receive c)).after =
        run.state.update c { client with inbox := rest } :=
      congrArg Served.net hcall
    have hanswer : (run.moment act (.receive c)).answer =
        .received (.ok d, c) :=
      congrArg (Answer.received ∘ Served.value) hcall
    refine ⟨?_, ?_, fun x _ => ?_, fun x hx habsent => ?_⟩
    · rw [hafter]
      rfl
    · rw [hafter]
      rfl
    · have htaken : taken x (run.moment act (.receive c)) =
          if c.address = x then [d] else [] := by
        rw [taken, hanswer]
        rfl
      rw [htaken, hafter, inbox_update]
      show _ = run.state.inbox x ++ []
      split
      · next hx => simp [← hx, inbox_of_client hclient, hinbox]
      · simp
    · rw [hafter] at hx
      exact absurd (mem_clients_of_update hc hx) habsent
  · refine .of_quiet (.of_eq hnet) (fun x => ?_) rfl
    have hanswer : (run.moment act (.receive c)).answer =
        .received (.error fault, c') :=
      congrArg Answer.received hvalue
    rw [taken, hanswer]
    rfl

theorem turned (run : Run Hub Act Answer) (turn : Act) :
    Turned (run.moment act turn) := by
  cases turn with
  | connect daemon client => exact turned_connect run daemon client
  | join c group =>
      exact .of_quiet (join_regroups group c _).quiet (fun _ => rfl) rfl
  | leave c group =>
      exact .of_quiet (leave_regroups group c _).quiet (fun _ => rfl) rfl
  | multicast c group flags payload service =>
      exact turned_multicast run c group flags payload service
  | poll c => exact .of_quiet (.of_eq (poll_net c _)) (fun _ => rfl) rfl
  | receive c => exact turned_receive run c
  | disconnect c =>
      exact .of_quiet (disconnect_quiet c _) (fun _ => rfl) rfl
  | inject d => exact .of_pass rfl (fun _ => rfl) rfl
  | refuse on =>
      exact .of_quiet ⟨rfl, rfl, fun _ _ => rfl, fun _ => id⟩ (fun _ => rfl) rfl
  | dropAll => exact .of_quiet (dropAll_quiet _) (fun _ => rfl) rfl

/-! ## Sessions -/

/-- The past of a session that is there after a run: the turn that opened it,
and the turns since, at each of which it was there. What the turns since handed
to it and what is in its inbox are together what they owed to it. -/
def Delivered (run : Run Hub Act Answer) (x : String) : Prop :=
  ∃ earlier opening later, run.past = earlier ++ opening :: later ∧
    Opens x opening ∧ (∀ m ∈ later, x ∈ m.before.clients) ∧
    later.flatMap (taken x) ++ run.state.inbox x = later.flatMap (owed x)

theorem delivered_take (run : Run Hub Act Answer) (turn : Act)
    (hrun : ∀ x ∈ run.state.clients, Delivered run x)
    (hx : x ∈ (run.take act turn).state.clients) :
    Delivered (run.take act turn) x := by
  have hturned := turned run turn
  by_cases hold : x ∈ run.state.clients
  · obtain ⟨earlier, opening, later, hpast, hopens, hlater, hinbox⟩ :=
      hrun x hold
    refine ⟨earlier, opening, later ++ [run.moment act turn], ?_, hopens,
      ?_, ?_⟩
    · rw [Run.take, hpast, List.append_assoc, List.cons_append]
    · intro m hm
      rcases List.mem_append.mp hm with hm | hm
      · exact hlater m hm
      · obtain rfl := List.mem_singleton.mp hm
        exact hold
    · rw [List.flatMap_append, List.flatMap_append, ← hinbox,
        List.flatMap_singleton, List.flatMap_singleton, List.append_assoc,
        List.append_assoc]
      exact congrArg _ (hturned.inbox x hx)
  · have hopens := hturned.opens x hx hold
    refine ⟨run.past, run.moment act turn, [], rfl, hopens, by simp, ?_⟩
    -- A connect takes nothing and passes nothing on.
    obtain ⟨daemon, client, c, hturn, -, -⟩ := hopens.connects
    obtain rfl : turn = .connect daemon client := hturn
    have hbefore : run.state.inbox x = [] := inbox_of_notMem hold
    have hinbox := hturned.inbox x hx
    rw [Run.moment, hbefore] at hinbox
    exact hinbox

/-- A multicast that is not admitted does nothing. Nothing that waits is lost
by a poll or by leaving a group. -/
structure Guarded (m : Moment Hub Act Answer) : Prop where
  accepts : ∀ c group flags payload service,
    m.turn = .multicast c group flags payload service →
    m.before.Admits c group payload → m.answer = .sent (.ok payload.length, c)
  refuses : ∀ c group flags payload service,
    m.turn = .multicast c group flags payload service →
    ¬ m.before.Admits c group payload →
    (∃ fault c', m.answer = .sent (.error fault, c')) ∧ m.after = m.before
  leaves : ∀ c group, m.turn = .leave c group →
    ∀ x, m.after.inbox x = m.before.inbox x
  polls : ∀ c, m.turn = .poll c → m.after = m.before

theorem guarded (run : Run Hub Act Answer) (turn : Act) :
    Guarded (run.moment act turn) where
  accepts := by
    rintro c group flags payload service rfl hadmits
    have hcall := multicast_accepted hadmits flags service
    exact congrArg (Answer.sent ∘ Served.value) hcall
  refuses := by
    rintro c group flags payload service rfl hadmits
    obtain ⟨⟨fault, c', hvalue⟩, hnet⟩ :=
      multicast_refused hadmits flags service
    exact ⟨⟨fault, c', congrArg Answer.sent hvalue⟩, hnet⟩
  leaves := by
    rintro c group rfl x
    exact (leave_regroups group c run.state).inbox x
  polls := by
    rintro c rfl
    exact poll_net c run.state

theorem limit_past (h : Hub) (acts : List Act) :
    (Run.of act h acts).state.limit = h.limit ∧
      ∀ m ∈ (Run.of act h acts).past, m.before.limit = h.limit := by
  refine Run.invariant (P := fun run : Run Hub Act Answer =>
    run.state.limit = h.limit ∧ ∀ m ∈ run.past, m.before.limit = h.limit)
    ⟨rfl, by simp⟩ ?_
  rintro run turn - ⟨hlimit, hpast⟩
  refine ⟨(turned run turn).limit.trans hlimit, fun m hm => ?_⟩
  rcases List.mem_append.mp hm with hm | hm
  · exact hpast m hm
  · obtain rfl := List.mem_singleton.mp hm
    exact hlimit

/-- After any acts, every session that is there has been delivered, or still
has in its inbox, what was accepted for its groups since it was opened: all of
it, once, in the order in which it was accepted, and unchanged. The count is
the number of payloads that were accepted. -/
theorem deliveries_once_in_order (name : String) (limit : Nat)
    (acts : List Act) :
    let run := Run.of act { name, limit } acts
    (∀ x ∈ run.state.clients, Delivered run x) ∧
      run.state.accepted = (run.past.flatMap passed).length ∧
      ∀ m ∈ run.past, m.before.limit = limit ∧ Guarded m := by
  refine ⟨?_, ?_, fun m hm => ⟨?_, ?_⟩⟩
  · refine Run.invariant (P := fun run => ∀ x ∈ run.state.clients,
      Delivered run x) (fun x hx => ?_) fun run turn _ hrun x hx => ?_
    · exact absurd hx Std.ExtTreeMap.not_mem_empty
    · exact delivered_take run turn hrun hx
  · refine Run.invariant (P := fun run =>
      run.state.accepted = (run.past.flatMap passed).length) rfl ?_
    intro run turn _ hcount
    rw [Run.take, (turned run turn).count, List.flatMap_append,
      List.flatMap_singleton, List.length_append]
    exact congrArg (· + _) hcount
  · exact (limit_past _ acts).2 m hm
  · exact Run.forall_past guarded _ acts m hm

/-- Acts after which `b` has a second session: the payload that waited in the
first is gone with it, of the three since then one was taken, one waits, and
one went to a group that `b` had left; a fourth was too long. -/
def returned : List Act :=
  let a : Connection := { address := "#a#hub" }
  let b : Connection := { address := "#b#hub" }
  [.connect "" "b", .join b "g", .multicast b "g" .normal [0] .fifo, .dropAll,
    .connect "" "b", .connect "" "a", .join b "g",
    .inject ⟨"s", "g", .normal, [1]⟩, .multicast b "g" .normal [2] .fifo,
    .receive b, .leave b "g", .multicast a "g" .normal [3] .fifo,
    .multicast a "g" .normal [4, 4] .fifo, .poll b]

theorem deliveries_once_in_order_returned :
    let run := Run.of act { name := "hub", limit := 1 } returned
    Delivered run "#b#hub" ∧
      run.state.inbox "#b#hub" = [⟨"#b#hub", "g", .normal, [2]⟩] ∧
      run.state.accepted = 4 := by
  obtain ⟨hsessions, -⟩ := deliveries_once_in_order "hub" 1 returned
  exact ⟨hsessions "#b#hub" (by decide), by decide, by decide⟩

end Hub

end Courier
