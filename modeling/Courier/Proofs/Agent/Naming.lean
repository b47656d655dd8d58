import Courier.Proofs.Agent.Topics
import Courier.Proofs.ClientName

/-!
# Under which name an agent connects

An agent that needs a session tries one name after the other, and what comes of
it depends on the hub and on the name only (`Hub.choose`): the first attempt
shows whether the name is legal and whether the hub is refusing, and from then
on names can only be taken.

`connect_chooses` says all that a connect does. If it fails, the agent notes
that there is an outage, and that is all. If it succeeds, the hub has one client
more, for whom nothing waits and which is in the groups that the topics name.
-/

namespace Courier

namespace Hub

variable {h : Hub} {c : Connection} {client : Client}

theorem update_update (client' : Client) :
    (h.update c client).update c client' = h.update c client' := by
  simp only [update]
  congr 1
  refine Std.ExtTreeMap.ext_getElem? fun x => ?_
  simp only [Std.ExtTreeMap.getElem?_insert]
  split <;> rfl

theorem update_same (hclient : h.clients[c.address]? = some client) :
    h.update c client = h := by
  have hsame : h.clients.insert c.address client = h.clients := by
    refine Std.ExtTreeMap.ext_getElem? fun x => ?_
    rw [Std.ExtTreeMap.getElem?_insert]
    split
    · next hx =>
        rw [← hclient, Std.LawfulEqCmp.compare_eq_iff_eq.mp hx]
    · rfl
  rw [update, hsame]

theorem client_update :
    (h.update c client).clients[c.address]? = some client :=
  Std.ExtTreeMap.getElem?_insert_self

/-- A join on a session that the hub has does no more than to put its client
into the group, if that can be one. -/
theorem join_updates (hopen : c.isOpen = true)
    (hclient : h.clients[c.address]? = some client) (group : String) :
    (join group c h).value.2 = c ∧ (join group c h).net =
      h.update c { client with groups := joined group client.groups } := by
  rw [join, joined]
  split
  · rw [withClient_of_client hopen hclient]
    exact ⟨rfl, rfl⟩
  · exact ⟨rfl, (update_same hclient).symm⟩

/-! ## Choosing a name -/

/-- The session that an attempt would open. -/
def named (h : Hub) (base : String) (attempt : Nat) : Connection where
  address := h.address (ClientName.candidate base attempt)

/-- The first of so many attempts whose name no client has. -/
def free? (h : Hub) (base : String) (attempt remaining : Nat) : Option Nat :=
  (List.range' attempt remaining).find? fun k =>
    !h.clients.contains (h.named base k).address

/-- The session that a client gets, or why it gets none. -/
def choose (h : Hub) (daemon base : String) : Except Fault Connection :=
  if !legalClient (ClientName.candidate base 0) then
    .error (.illegalName (ClientName.candidate base 0))
  else if h.refusing then
    .error (.unreachable daemon)
  else
    match h.free? base 0 Agent.maxAttempts with
    | some k => .ok (h.named base k)
    | none => .error (.nameTaken base)

variable {base : String}

theorem free?_eq_some_iff {n k : Nat} :
    h.free? base 0 n = some k ↔ k < n ∧ (h.named base k).address ∉ h.clients ∧
      ∀ j < k, (h.named base j).address ∈ h.clients := by
  have hfree : (!h.clients.contains (h.named base k).address) = true ↔
      (h.named base k).address ∉ h.clients := by
    rw [Bool.not_eq_true', ← Bool.not_eq_true, Std.ExtTreeMap.contains_iff_mem]
  rw [free?, List.find?_range'_eq_some, List.mem_range'_1, hfree]
  simp [and_left_comm]

theorem free?_eq_none_iff {n : Nat} :
    h.free? base 0 n = none ↔
      ∀ k < n, (h.named base k).address ∈ h.clients := by
  rw [free?, List.find?_range'_eq_none]
  simp

theorem choose_of_legal {daemon : String}
    (hlegal : legalClient (ClientName.candidate base 0) = true)
    (hrefusing : h.refusing = false) :
    h.choose daemon base =
      match h.free? base 0 Agent.maxAttempts with
      | some k => .ok (h.named base k)
      | none => .error (.nameTaken base) := by
  rw [choose, if_neg (by simp [hlegal]), if_neg (by simp [hrefusing])]

theorem isOpen_of_choose {daemon : String} (hc : h.choose daemon base = .ok c) :
    c.isOpen = true := by
  rw [choose] at hc
  repeat' split at hc
  all_goals cases hc
  rfl

theorem notMem_of_choose {daemon : String} (hc : h.choose daemon base = .ok c) :
    c.address ∉ h.clients := by
  rw [choose] at hc
  repeat' split at hc
  all_goals try contradiction
  next hfree =>
    cases hc
    exact (free?_eq_some_iff.mp hfree).2.1

end Hub

namespace Agent

variable {s s' : Stage Agent Hub} {c : Connection}

/-- Connecting failed, and nothing but an outage came of it. -/
structure Unconnected (s s' : Stage Agent Hub) : Prop where
  self : s'.self = { s.self with outage := true }
  net : s'.site.net = s.site.net
  clock : s'.site.clock = s.site.clock

/-- A session was opened for a new client, for whom nothing waits and which is
in the groups that the topics name. -/
structure Connected (c : Connection) (s s' : Stage Agent Hub) : Prop where
  self : s'.self = { s.self with
    session := some c, outage := false, lastKeepAlive := s.site.clock }
  clock : s'.site.clock = s.site.clock
  net : ∃ groups, Matches s.self.topics groups ∧
    s'.site.net = s.site.net.update c { groups }

theorem Rejoins.updates {topics : List String} {c' : Connection}
    {site site' : Site Hub} {client : Hub.Client}
    (h : Rejoins Hub.transport topics c site c' site') (hopen : c.isOpen = true)
    (hclient : site.net.clients[c.address]? = some client) :
    c' = c ∧ ∃ groups,
      site'.net = site.net.update c { client with groups } ∧
        ∀ g, g ∈ groups ↔
          g ∈ topics ∧ Hub.legalGroup g = true ∨ g ∈ client.groups := by
  induction h generalizing client with
  | nil =>
      exact ⟨rfl, client.groups, (Hub.update_same hclient).symm, by simp⟩
  | @cons topic _ c _ site _ _ ih =>
      obtain ⟨hsame, hnet⟩ := Hub.join_updates hopen hclient topic
      have hsame' : (Hub.transport.join topic c site.net).value.2 = c := hsame
      have hnet' : (Hub.transport.join topic c site.net).net = _ := hnet
      rw [hsame', rejoinedOn_net, hnet'] at ih
      obtain ⟨rfl, groups, hgroups, hmem⟩ := ih hopen Hub.client_update
      refine ⟨rfl, groups, ?_, fun g => ?_⟩
      · rw [hgroups, Hub.update_update]
      · rw [hmem, Hub.mem_joined, List.mem_cons]
        grind

end Agent

namespace Hub

variable {h : Hub} {client : String}

theorem connect_illegal (hlegal : legalClient client = false)
    (daemon : String) :
    connect daemon client h =
      { value := .error (.illegalName client), net := h } := by
  rw [connect, if_pos (by simp [hlegal])]

theorem connect_refused (hlegal : legalClient client = true)
    (hrefusing : h.refusing = true) (daemon : String) :
    connect daemon client h =
      { value := .error (.unreachable daemon), net := h } := by
  rw [connect, if_neg (by simp [hlegal]), if_pos hrefusing]

theorem connect_taken (hlegal : legalClient client = true)
    (hrefusing : h.refusing = false)
    (htaken : h.clients.contains (h.address client) = true)
    (daemon : String) :
    connect daemon client h =
      { value := .error (.nameTaken client), net := h } := by
  rw [connect, if_neg (by simp [hlegal]), if_neg (by simp [hrefusing]),
    if_pos htaken]

theorem connect_free (hlegal : legalClient client = true)
    (hrefusing : h.refusing = false)
    (hfree : h.clients.contains (h.address client) = false)
    (daemon : String) :
    connect daemon client h =
      { value := .ok { address := h.address client }
        net := h.update { address := h.address client } {}
        events := [.joined (h.address client)] } := by
  rw [connect, if_neg (by simp [hlegal]), if_neg (by simp [hrefusing]),
    if_neg (by simp [hfree])]
  rfl

end Hub

namespace Agent

variable {s s' : Stage Agent Hub}

section Attempt

variable {a : Agent} {attempt : Nat} {site : Site Hub}

theorem free_of_attempt {c : Connection}
    (hlegal : Hub.legalClient
      (ClientName.candidate a.profile.client attempt) = true)
    (hrefusing : site.net.refusing = false)
    (hconnect : (attemptOn Hub.transport a attempt site).value = .ok c) :
    site.net.clients.contains
        (site.net.named a.profile.client attempt).address = false ∧
      site.net.named a.profile.client attempt = c ∧
      (attemptOn Hub.transport a attempt site).net = site.net.update c {} := by
  cases htaken : site.net.clients.contains
      (site.net.named a.profile.client attempt).address with
  | true =>
      have hcall : attemptOn Hub.transport a attempt site = _ :=
        Hub.connect_taken hlegal hrefusing htaken _
      rw [hcall] at hconnect
      cases hconnect
  | false =>
      have hcall : attemptOn Hub.transport a attempt site = _ :=
        Hub.connect_free hlegal hrefusing htaken _
      rw [hcall] at hconnect ⊢
      obtain rfl := Except.ok.inj hconnect
      exact ⟨rfl, rfl, rfl⟩

theorem taken_of_attempt {cause : Fault}
    (hlegal : Hub.legalClient
      (ClientName.candidate a.profile.client attempt) = true)
    (hrefusing : site.net.refusing = false)
    (hconnect : (attemptOn Hub.transport a attempt site).value =
      .error cause) :
    site.net.clients.contains
        (site.net.named a.profile.client attempt).address = true ∧
      (∃ name, cause = .nameTaken name) ∧
      (attemptOn Hub.transport a attempt site).net = site.net := by
  cases htaken : site.net.clients.contains
      (site.net.named a.profile.client attempt).address with
  | true =>
      have hcall : attemptOn Hub.transport a attempt site = _ :=
        Hub.connect_taken hlegal hrefusing htaken _
      rw [hcall] at hconnect ⊢
      exact ⟨rfl, ⟨_, (Except.error.inj hconnect).symm⟩, rfl⟩
  | false =>
      have hcall : attemptOn Hub.transport a attempt site = _ :=
        Hub.connect_free hlegal hrefusing htaken _
      rw [hcall] at hconnect
      cases hconnect

end Attempt

/-- What a search comes to once the name is legal and the hub does not refuse. -/
theorem Searches.finds {a : Agent} {attempt remaining : Nat} {site : Site Hub}
    {r : Except Failure Connection}
    (h : Searches Hub.transport a attempt remaining site r s')
    (hrefusing : site.net.refusing = false)
    (hlegal : ∀ k < attempt + remaining, Hub.legalClient
      (ClientName.candidate a.profile.client k) = true) :
    match site.net.free? a.profile.client attempt remaining with
    | some k => r = .ok (site.net.named a.profile.client k) ∧
      ∃ groups, Matches a.topics groups ∧ s'.site.net =
        site.net.update (site.net.named a.profile.client k) { groups }
    | none => r = .error (.connecting a.profile.address
        (.nameTaken a.profile.client)) ∧ s'.site.net = site.net := by
  induction h with
  | exhausted => exact ⟨rfl, rfl⟩
  | @accepted attempt _ site site' c c' hconnect hrejoins =>
      obtain ⟨hfree, rfl, hnet⟩ :=
        free_of_attempt (hlegal attempt (by omega)) hrefusing hconnect
      have hserved : (site.serve (attemptOn Hub.transport a attempt site)).net =
          site.net.update (site.net.named a.profile.client attempt) {} := hnet
      obtain ⟨rfl, groups, hgroups, hmem⟩ := hrejoins.updates rfl
        (by rw [hserved]; exact Hub.client_update)
      rw [hserved, Hub.update_update] at hgroups
      rw [Hub.free?, List.range'_succ, List.find?_cons_of_pos (by simp [hfree])]
      refine ⟨rfl, groups, fun g => ?_, hgroups⟩
      rw [hmem, Std.ExtTreeSet.mem_toList]
      simp
  | @taken attempt _ site name _ _ hconnect _ ih =>
      obtain ⟨htaken, -, hnet⟩ :=
        taken_of_attempt (hlegal attempt (by omega)) hrefusing hconnect
      have hnoting : ((site.serve (attemptOn Hub.transport a attempt
          site)).noting (.nameTaken name)).net = site.net := hnet
      rw [hnoting] at ih
      rw [Hub.free?, List.range'_succ,
        List.find?_cons_of_neg (by simp [htaken]), ← Hub.free?]
      exact ih hrefusing fun k hk => hlegal k (by omega)
  | @refused attempt _ site cause hconnect hother =>
      obtain ⟨-, ⟨name, rfl⟩, -⟩ :=
        taken_of_attempt (hlegal attempt (by omega)) hrefusing hconnect
      exact absurd rfl (hother name)

/-- An attempt that fails for another reason than its name is the last. -/
theorem Searches.fails {a : Agent} {attempt remaining : Nat} {site : Site Hub}
    {r : Except Failure Connection} {cause : Fault}
    (h : Searches Hub.transport a attempt (remaining + 1) site r s')
    (hconnect : Hub.connect a.profile.address
        (ClientName.candidate a.profile.client attempt) site.net =
      { value := .error cause, net := site.net })
    (hcause : ∀ name, cause ≠ .nameTaken name) :
    r = .error (.connecting a.profile.address cause) ∧
      s'.site.net = site.net := by
  have hcall : attemptOn Hub.transport a attempt site = _ := hconnect
  cases h with
  | accepted hvalue =>
      rw [hcall] at hvalue
      cases hvalue
  | taken hvalue =>
      rw [hcall] at hvalue
      exact absurd (Except.error.inj hvalue) (hcause _)
  | @refused _ _ _ cause' hvalue _ =>
      obtain rfl : cause = cause' := by
        rw [hcall] at hvalue
        exact Except.error.inj hvalue
      refine ⟨rfl, ?_⟩
      rw [hcall]
      rfl

/-- What a search comes to, beginning with the bare name. -/
theorem Searches.chooses {r : Except Failure Connection}
    (h : Searches Hub.transport s.self 0 maxAttempts s.site r s') :
    match s.site.net.choose s.self.profile.address s.self.profile.client with
    | .ok c => r = .ok c ∧ ∃ groups, Matches s.self.topics groups ∧
      s'.site.net = s.site.net.update c { groups }
    | .error cause =>
      r = .error (.connecting s.self.profile.address cause) ∧
        s'.site.net = s.site.net := by
  rw [Hub.choose]
  cases hlegal : Hub.legalClient
      (ClientName.candidate s.self.profile.client 0) with
  | false => exact h.fails (Hub.connect_illegal hlegal _) (by simp)
  | true =>
      cases hrefusing : s.site.net.refusing with
      | true => exact h.fails (Hub.connect_refused hlegal hrefusing _) (by simp)
      | false =>
          have hfinds := h.finds hrefusing fun k hk =>
            Hub.legalClient_candidate hlegal hk
          simp only [Bool.not_true, Bool.false_eq_true, if_false]
          cases hfree : s.site.net.free? s.self.profile.client 0 maxAttempts <;>
            rw [hfree] at hfinds <;> exact hfinds

/-- What a connect does without a session. -/
theorem Connects.chooses {r : Except Failure Connection}
    (h : Connects Hub.transport s r s') (hnone : s.self.session = none) :
    match s.site.net.choose s.self.profile.address s.self.profile.client with
    | .ok c => r = .ok c ∧ Connected c s s'
    | .error cause =>
      r = .error (.connecting s.self.profile.address cause) ∧
        Unconnected s s' := by
  cases h with
  | held hsession => cases hnone.symm.trans hsession
  | opened _ hsearch =>
      obtain ⟨hclock, hself⟩ := hsearch.leaves
      have hchooses := hsearch.chooses
      split at hchooses
      · obtain ⟨hr, hnet⟩ := hchooses
        cases hr
        refine ⟨rfl, ?_, hclock, hnet⟩
        rw [hself]
        rfl
      · cases hchooses.1
  | failed _ hsearch =>
      obtain ⟨hclock, hself⟩ := hsearch.leaves
      have hchooses := hsearch.chooses
      split at hchooses
      · cases hchooses.1
      · exact ⟨hchooses.1, hself, hchooses.2, hclock⟩

theorem connect_chooses (hnone : s.self.session = none) :
    Task.Ends (connect Hub.transport) s fun r s' =>
      match s.site.net.choose s.self.profile.address s.self.profile.client with
      | .ok c => r = .ok c ∧ Connected c s s'
      | .error cause =>
        r = .error (.connecting s.self.profile.address cause) ∧
          Unconnected s s' :=
  (connect_connects s).imp fun _ _ h => h.chooses hnone

/-! ## Operations that need a session -/

/-- What an agent can be asked to do for which it needs a session. -/
inductive Need where
  | subscribe (topic : String)
  | unsubscribe (topic : String)
  | send (m : Message)
  | poll
  | address

namespace Need

variable {σ : Type}

/-- The topics that the agent remembers when it comes to the session. -/
def topics (before : Std.ExtTreeSet String) : Need → Std.ExtTreeSet String
  | .subscribe topic => before.insert topic
  | .unsubscribe topic => before.erase topic
  | _ => before

/-- A message that does not pass the check needs no session. -/
def Due (a : Agent) : Need → Prop
  | .send m => a.check m = .ok ()
  | _ => True

abbrev Answer : Need → Type
  | .poll => Option Delivery
  | .address => String
  | _ => Unit

def run (t : Transport σ) :
    (need : Need) → Task Agent σ (Except Failure need.Answer)
  | .subscribe topic => Agent.subscribe t topic
  | .unsubscribe topic => Agent.unsubscribe t topic
  | .send m => Agent.send t m
  | .poll => Agent.poll t
  | .address => Agent.address t

/-- A call on the session, and what is done if it fails. -/
def ask {α : Type} (t : Transport σ) (c : Connection) (f : SessionCall σ α)
    (failed : Fault → Failure) : Task Agent σ (Except Failure α) := do
  match ← call c f with
  | .ok a => return .ok a
  | .error cause =>
    giveUpAfter t cause
    return .error (failed cause)

/-- What is done once there is the session. -/
def onSession (t : Transport σ) (c : Connection) :
    (need : Need) → Task Agent σ (Except Failure need.Answer)
  | .subscribe topic => ask t c (t.join topic) (.transport .join)
  | .unsubscribe topic => ask t c (t.leave topic) (.transport .leave)
  | .send m => do
    match ← ask t c (t.multicast m.topic .normal m.payload .fifo)
      (.sending m.topic) with
    | .error failure => return .error failure
    | .ok sent =>
      if sent = m.payload.length then
        return .ok ()
      else
        return .error (.sending m.topic (.shortWrite sent m.payload.length))
  | .poll => do
    match ← ask t c (receiveIfReady t) (.transport .receive) with
    | .error failure => return .error failure
    | .ok delivery? =>
      keepAlive t
      return .ok delivery?
  | .address => return .ok c.address

/-- The stage at which an operation comes to the session. -/
def atSession (need : Need) (s : Stage Agent σ) : Stage Agent σ :=
  { s with self := { s.self with topics := need.topics s.self.topics } }

/-- The operation, as far as to the session. -/
def connecting (t : Transport σ) (need : Need) :
    Task Agent σ (Except Failure need.Answer) := do
  match ← connect t with
  | .error failure => return .error failure
  | .ok c => need.onSession t c

/-- An operation connects, and then does what it does on the session. -/
theorem run_eq (t : Transport σ) {need : Need} {s : Stage Agent σ}
    (hdue : need.Due s.self) :
    (need.run t).run s = (need.connecting t).run (need.atSession s) := by
  cases need with
  | subscribe topic => rfl
  | unsubscribe topic => rfl
  | send m =>
      have hcheck : s.self.check m = .ok () := hdue
      have hself : (Task.self : Task Agent σ Agent).run s = pure (s.self, s) :=
        rfl
      show (Agent.send t m).run s = (connecting t (.send m)).run s
      rw [Agent.send, StateT.run_bind, hself, pure_bind]
      simp only [hcheck]
      rw [connecting, request, bind_assoc]
      refine congrArg (StateT.run · s) (bind_congr fun r => ?_)
      cases r <;> rfl
  | poll =>
      show (Agent.poll t).run s = (connecting t .poll).run s
      rw [Agent.poll, connecting, request, bind_assoc]
      refine congrArg (StateT.run · s) (bind_congr fun r => ?_)
      cases r <;> rfl
  | address =>
      show (Agent.address t).run s = (connecting t .address).run s
      rw [Agent.address, connecting]
      refine congrArg (StateT.run · s) (bind_congr fun r => ?_)
      cases r <;> rfl

/-- The operation does not get a session, and does nothing else either. -/
def FailsBy (need : Need) (cause : Fault) (s : Stage Agent Hub) : Prop :=
  Task.Ends (need.run Hub.transport) s fun r s' =>
    r = .error (.connecting s.self.profile.address cause) ∧
      s'.site.net = s.site.net ∧
      s'.self = { s.self with
        topics := need.topics s.self.topics, outage := true }

/-- The operation gets the session of a new client of an address, for whom
nothing waits and which is in the groups that can be named by the topics. Then
it does what it does on the session. -/
structure EntersAs (need : Need) (address : String) (s s₁ : Stage Agent Hub) :
    Prop where
  self : s₁.self = { s.self with
    topics := need.topics s.self.topics
    session := some { address }
    outage := false
    lastKeepAlive := s.site.clock }
  client : ∃ groups : Groups,
    s₁.site.net = { s.site.net with
      clients := s.site.net.clients.insert address { groups, inbox := [] } } ∧
    ∀ g, g ∈ groups ↔ g ∈ need.topics s.self.topics ∧
      1 ≤ g.utf8ByteSize ∧ g.utf8ByteSize ≤ 32
  others : ∀ x, x ≠ address →
    s₁.site.net.clients[x]? = s.site.net.clients[x]?
  action : (need.run Hub.transport).run s =
    (need.onSession Hub.transport { address }).run s₁

theorem failsBy_of_choose {need : Need} {s : Stage Agent Hub} {cause : Fault}
    (hnone : s.self.session = none) (hdue : need.Due s.self)
    (hchoose : s.site.net.choose s.self.profile.address s.self.profile.client =
      .error cause) : need.FailsBy cause s := by
  have hconnect := connect_chooses (s := need.atSession s) hnone
  simp only [atSession, hchoose] at hconnect
  have hends : Task.Ends (need.connecting Hub.transport) (need.atSession s)
      fun r s' => r = .error (.connecting s.self.profile.address cause) ∧
        Unconnected (need.atSession s) s' := by
    simp only [connecting, Task.ends_bind]
    refine hconnect.imp fun r s' h => ?_
    obtain ⟨rfl, hunconnected⟩ := h
    exact ⟨rfl, hunconnected⟩
  rw [FailsBy, Task.Ends, run_eq Hub.transport hdue]
  exact ⟨hends.1, hends.2.net, hends.2.self⟩

theorem entersAs_of_choose {need : Need} {s : Stage Agent Hub}
    {address : String} (hnone : s.self.session = none)
    (hdue : need.Due s.self)
    (hchoose : s.site.net.choose s.self.profile.address s.self.profile.client =
      .ok { address }) : ∃ s₁, need.EntersAs address s s₁ := by
  have hconnect := connect_chooses (s := need.atSession s) hnone
  simp only [atSession, hchoose] at hconnect
  unfold Task.Ends at hconnect
  generalize hrun : (connect Hub.transport).run _ = ended at hconnect
  obtain ⟨r, s₁⟩ := ended
  obtain ⟨rfl, hself, -, groups, hmatches, hnet⟩ := hconnect
  refine ⟨s₁, hself, ⟨groups, hnet, fun g => ?_⟩, fun x hx => ?_, ?_⟩
  · rw [hmatches g, Hub.legalGroup_iff]
  · rw [show s₁.site.net = _ from hnet, Hub.update,
      Std.ExtTreeMap.getElem?_insert]
    exact if_neg (by simpa using hx.symm)
  · rw [run_eq Hub.transport hdue, connecting, StateT.run_bind, atSession, hrun]
    rfl

end Need

/-- What comes of an operation that needs a session where there is none. An
illegal name is noticed first, and then a hub that is refusing. Otherwise the
session is that of the first name that is free, and there is none if all names
are taken. Where there is no session, the hub is as it was. -/
theorem need_finds_first_free_name (need : Need) (s : Stage Agent Hub)
    (hnone : s.self.session = none) (hdue : need.Due s.self) :
    let name := ClientName.candidate s.self.profile.client
    let taken := fun k => s.site.net.address (name k) ∈ s.site.net.clients
    let illegal := name 0 = "" ∨ '#' ∈ (name 0).toList
    (illegal → need.FailsBy (.illegalName (name 0)) s) ∧
    (¬ illegal → s.site.net.refusing = true →
      need.FailsBy (.unreachable s.self.profile.address) s) ∧
    (¬ illegal → s.site.net.refusing = false → (∃ k < 1000, ¬ taken k) →
      ∃ k < 1000, ¬ taken k ∧ (∀ j < k, taken j) ∧
        ∃ s₁, need.EntersAs (s.site.net.address (name k)) s s₁) ∧
    (¬ illegal → s.site.net.refusing = false → (∀ k < 1000, taken k) →
      need.FailsBy (.nameTaken s.self.profile.client) s) := by
  intro name taken illegal
  have hlegal : Hub.legalClient (name 0) = true ↔ ¬ illegal :=
    Hub.legalClient_candidate_zero.trans not_or.symm
  refine ⟨fun hillegal => ?_, fun hname hrefusing => ?_,
    fun hname hrefusing hfree => ?_, fun hname hrefusing htaken => ?_⟩
  · refine Need.failsBy_of_choose hnone hdue ?_
    rw [Hub.choose, if_pos]
    rw [Bool.not_eq_true', ← Bool.not_eq_true, hlegal]
    exact not_not.mpr hillegal
  · refine Need.failsBy_of_choose hnone hdue ?_
    have hname' := hlegal.mpr hname
    rw [Hub.choose, if_neg (by simpa using hname'), if_pos hrefusing]
  · cases hk : s.site.net.free? s.self.profile.client 0 maxAttempts with
    | none =>
        obtain ⟨k, hlt, hnot⟩ := hfree
        exact absurd (Hub.free?_eq_none_iff.mp hk k hlt) hnot
    | some k =>
        obtain ⟨hlt, hnot, hfirst⟩ := Hub.free?_eq_some_iff.mp hk
        refine ⟨k, hlt, hnot, hfirst, Need.entersAs_of_choose hnone hdue ?_⟩
        rw [Hub.choose_of_legal (hlegal.mpr hname) hrefusing, hk]
        rfl
  · refine Need.failsBy_of_choose hnone hdue ?_
    rw [Hub.choose_of_legal (hlegal.mpr hname) hrefusing,
      Hub.free?_eq_none_iff (n := maxAttempts) |>.mpr htaken]

/-- An agent on a hub that has a client of its name. -/
def namesake : Stage Agent Hub where
  self := { profile := { client := "me" } }
  site :=
    { net := { name := "hub"
               clients := .ofList [("#me#hub", Hub.Client.mk ∅ [])] } }

theorem need_finds_first_free_name_namesake :
    ∃ s₁, (Need.subscribe "news").EntersAs "#me-1#hub" namesake s₁ := by
  obtain ⟨-, -, hfinds, -⟩ :=
    need_finds_first_free_name (.subscribe "news") namesake rfl trivial
  generalize hname : ClientName.candidate namesake.self.profile.client = name
    at hfinds
  have hfirst : namesake.site.net.address (name 0) ∈
      namesake.site.net.clients := by
    rw [← hname]
    decide
  have hsecond : namesake.site.net.address (name 1) = "#me-1#hub" := by
    rw [← hname]
    decide
  have hfree : "#me-1#hub" ∉ namesake.site.net.clients := by decide
  have hlegal : ¬ (name 0 = "" ∨ '#' ∈ (name 0).toList) := by
    rw [← hname]
    decide
  rw [← hsecond] at hfree
  obtain ⟨k, -, hnot, hbefore, hentered⟩ :=
    hfinds hlegal rfl ⟨1, by decide, hfree⟩
  match k with
  | 0 => exact absurd hfirst hnot
  | 1 => exact hsecond ▸ hentered
  | k + 2 => exact absurd (hbefore 1 (by omega)) hfree

end Agent

end Courier
