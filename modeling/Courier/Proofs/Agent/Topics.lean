import Courier.Proofs.Agent.Course
import Courier.Proofs.Hub.Groups

/-!
# Topics of an agent and groups of its client

An agent remembers topics, and its client is in groups. An agent has kept
faith if its client, where the hub has it, is in the groups that are named by
the topics (`Agent.Faithful`). Not every topic can name a group.

Every operation is of one kind (`Agent.Tended`): no client but the agent's own
is touched, and the groups of its own come by one call either from the groups
it had on the same session, or from the topics that were joined anew on a
session that has just been opened. The latter is what makes up for all that
can fail before: a subscription that could not be made is made up for by the
next connect, because the topic is remembered first.
-/

namespace Courier

namespace Agent

variable {α : Type} {s s' s'' : Stage Agent Hub} {c : Connection}
  {change : Groups → Groups}

/-- The private group that the agent's connection carries. -/
def own? (a : Agent) : Option String :=
  a.session.bind Connection.carried?

theorem own?_of_session {a : Agent} (h : a.session = some c) :
    a.own? = c.carried? := by
  rw [own?, h, Option.bind_some]

theorem own?_of_no_session {a : Agent} (h : a.session = none) :
    a.own? = none := by
  rw [own?, h, Option.bind_none]

/-- The agent's connection, if it has one, is open. -/
def Ready (a : Agent) : Prop :=
  ∀ c, a.session = some c → c.isOpen = true

theorem Ready.of_no_session {a : Agent} (h : a.session = none) : a.Ready := by
  intro c hc
  rw [h] at hc
  cases hc

/-- The groups are those that the topics name. -/
def Matches (topics : Std.ExtTreeSet String) (groups : Groups) : Prop :=
  ∀ g, g ∈ groups ↔ g ∈ topics ∧ Hub.legalGroup g = true

/-- The agent's client is in the groups that its topics name, if the hub has
its client at all. -/
def Faithful (a : Agent) (h : Hub) : Prop :=
  ∀ x groups, a.own? = some x → h.groups? x = some groups →
    Matches a.topics groups

theorem Faithful.mem_members_iff {a : Agent} {h : Hub}
    (hfaithful : a.Faithful h) (hready : a.Ready) (hc : a.session = some c)
    (hclient : c.address ∈ h.addresses) (g : String) :
    c.address ∈ h.members g ↔
      g ∈ a.topics ∧ 1 ≤ g.utf8ByteSize ∧ g.utf8ByteSize ≤ 32 := by
  have hown : a.own? = some c.address := by
    rw [own?_of_session hc, Connection.carried?_of_open (hready c hc)]
  obtain ⟨groups, hgroups⟩ :=
    Hub.exists_groups?_iff.mpr (Std.ExtTreeMap.mem_keys.mp hclient)
  rw [Hub.mem_members_iff, hgroups, ← Hub.legalGroup_iff,
    ← hfaithful c.address groups hown hgroups]
  simp

/-- What the agent did between the stages left its topics and the clients of
others alone. Its own client is in groups that come by `change` from those
that it was in before, or else from those that the topics name. -/
structure Tended (change : Groups → Groups) (s s' : Stage Agent Hub) :
    Prop where
  topics : s'.self.topics = s.self.topics
  ready : s.self.Ready → s'.self.Ready
  spares : s.site.net.Spares s'.site.net s.self.own? s'.self.own?
  groups : ∀ x groups, s'.self.own? = some x →
    s'.site.net.groups? x = some groups →
      ∃ before, groups = change before ∧
        (s.self.own? = some x ∧ s.site.net.groups? x = some before ∨
          Matches s.self.topics before)

theorem Tended.refl (s : Stage Agent Hub) : Tended id s s where
  topics := rfl
  ready := id
  spares := .of_same (fun _ => rfl) _
  groups := fun _ groups hx hgroups => ⟨groups, rfl, .inl ⟨hx, hgroups⟩⟩

theorem Tended.trans (h₁ : Tended id s s') (h₂ : Tended change s' s'') :
    Tended change s s'' where
  topics := h₂.topics.trans h₁.topics
  ready := fun hs => h₂.ready (h₁.ready hs)
  spares := h₁.spares.trans h₂.spares
  groups := fun x groups hx hgroups => by
    obtain ⟨between, rfl, ⟨hx', hbetween⟩ | hmatches⟩ :=
      h₂.groups x groups hx hgroups
    · obtain ⟨before, rfl, hbefore⟩ := h₁.groups x between hx' hbetween
      exact ⟨_, rfl, hbefore⟩
    · exact ⟨between, rfl, .inr (h₁.topics ▸ hmatches)⟩

/-- Nothing else of an agent counts. -/
theorem Tended.of_end (h : Tended change s s')
    (htopics : s''.self.topics = s'.self.topics)
    (hsession : s''.self.session = s'.self.session)
    (hnet : s''.site.net = s'.site.net) : Tended change s s'' := by
  have hown : s''.self.own? = s'.self.own? := by rw [own?, own?, hsession]
  refine ⟨htopics.trans h.topics, fun hs c hc => ?_, ?_, ?_⟩
  · exact h.ready hs c (hsession ▸ hc)
  · rw [hown, hnet]
    exact h.spares
  · rw [hown, hnet]
    exact h.groups

/-- An agent that has no session in the end owes nothing to its own client. -/
theorem Tended.of_no_session (htopics : s'.self.topics = s.self.topics)
    (hnone : s'.self.session = none)
    (hspares : s.site.net.Spares s'.site.net s.self.own? none) :
    Tended change s s' where
  topics := htopics
  ready := fun _ => .of_no_session hnone
  spares := by
    rw [own?_of_no_session hnone]
    exact hspares
  groups := fun x groups hx => by
    rw [own?_of_no_session hnone] at hx
    cases hx

/-! ## Connecting -/

/-- Between the hubs a client came into the groups that topics name, beside
those that it was in. -/
structure Joins (c : Connection) (topics : List String) (h h' : Hub) :
    Prop where
  others : ∀ x, c.address ≠ x → h'.groups? x = h.groups? x
  own : ∃ groups groups', h.groups? c.address = some groups ∧
    h'.groups? c.address = some groups' ∧
    ∀ g, g ∈ groups' ↔ g ∈ topics ∧ Hub.legalGroup g = true ∨ g ∈ groups

theorem Joins.refl {h : Hub} {groups : Groups}
    (hgroups : h.groups? c.address = some groups) : Joins c [] h h where
  others := fun _ _ => rfl
  own := ⟨groups, groups, hgroups, hgroups, by simp⟩

theorem Joins.cons {h h' : Hub} {topic : String} {rest : List String}
    {s : Served Hub (Except Fault Unit × Connection)} (hopen : c.isOpen = true)
    (hreached : Hub.Reached (Hub.joined topic) c h s)
    (hrest : Joins c rest s.net h') : Joins c (topic :: rest) h h' where
  others := fun x hx => by
    have hother : c.carried? ≠ some x := by
      rw [Connection.carried?_of_open hopen]
      simpa using hx
    rw [hrest.others x hx, hreached.groups, if_neg hother]
  own := by
    obtain ⟨between, groups', hbetween, hgroups', hmem⟩ := hrest.own
    rw [hreached.groups, if_pos (Connection.carried?_of_open hopen),
      Option.map_eq_some_iff] at hbetween
    obtain ⟨groups, hgroups, rfl⟩ := hbetween
    refine ⟨groups, groups', hgroups, hgroups', fun g => ?_⟩
    rw [hmem, Hub.mem_joined, List.mem_cons]
    grind

theorem Rejoins.joins {topics : List String} {c' : Connection}
    {site site' : Site Hub} {groups : Groups}
    (h : Rejoins Hub.transport topics c site c' site') (hopen : c.isOpen = true)
    (hgroups : site.net.groups? c.address = some groups) :
    c' = c ∧ Joins c topics site.net site'.net := by
  induction h generalizing groups with
  | nil => exact ⟨rfl, .refl hgroups⟩
  | @cons topic _ c _ site _ _ ih =>
      obtain hreached | hmissed := Hub.join_handles topic c site.net
      · have hsame : (Hub.transport.join topic c site.net).value.2 = c :=
          hreached.connection
        have hjoined : (Hub.transport.join topic c site.net).net.groups?
            c.address = some (Hub.joined topic groups) := by
          refine (hreached.groups _).trans ?_
          rw [if_pos (Connection.carried?_of_open hopen), hgroups,
            Option.map_some]
        rw [hsame, rejoinedOn_net] at ih
        obtain ⟨rfl, hjoins⟩ := ih hopen hjoined
        exact ⟨rfl, .cons hopen hreached hjoins⟩
      · rw [hmissed.gone hopen] at hgroups
        cases hgroups

/-- Between the hubs a session was opened. Its client is new, and in the groups
that the topics name. -/
structure Opens (topics : Std.ExtTreeSet String) (h h' : Hub)
    (c : Connection) : Prop where
  isOpen : c.isOpen = true
  new : h.groups? c.address = none
  others : ∀ x, c.address ≠ x → h'.groups? x = h.groups? x
  groups : ∀ groups, h'.groups? c.address = some groups →
    Matches topics groups

theorem Opens.tended (h : Opens s.self.topics s.site.net s'.site.net c)
    (hnone : s.self.session = none) (htopics : s'.self.topics = s.self.topics)
    (hsession : s'.self.session = some c) : Tended id s s' := by
  have hown := own?_of_session hsession
  refine ⟨htopics, fun _ c' hc' => ?_, ?_, fun x groups hx hgroups => ?_⟩
  · rw [hsession, Option.some.injEq] at hc'
    exact hc' ▸ h.isOpen
  · rw [hown, own?_of_no_session hnone]
    exact Hub.spares_opening h.isOpen h.others
  · rw [hown, Connection.carried?_of_open h.isOpen, Option.some.injEq] at hx
    rw [← hx] at hgroups
    exact ⟨groups, rfl, .inr (h.groups groups hgroups)⟩

theorem Rejoins.opens {topics : Std.ExtTreeSet String} {c' : Connection}
    {site site' : Site Hub} {h : Hub}
    (hrejoins : Rejoins Hub.transport topics.toList c site c' site')
    (hopen : c.isOpen = true) (hnew : h.groups? c.address = none)
    (hgroups : ∀ x, site.net.groups? x =
      if c.address = x then some ∅ else h.groups? x) :
    c' = c ∧ Opens topics h site'.net c := by
  have hempty : site.net.groups? c.address = some ∅ := by
    rw [hgroups, if_pos rfl]
  obtain ⟨rfl, hothers, groups, groups', hbefore, hafter, hmem⟩ :=
    hrejoins.joins hopen hempty
  refine ⟨rfl, hopen, hnew, fun x hx => ?_, fun groups'' hgroups'' g => ?_⟩
  · rw [hothers x hx, hgroups, if_neg hx]
  · rw [hempty, Option.some.injEq] at hbefore
    rw [hafter, Option.some.injEq] at hgroups''
    rw [← hgroups'', hmem, Std.ExtTreeSet.mem_toList, ← hbefore]
    simp

theorem Searches.opens {a : Agent} {attempt remaining : Nat} {site : Site Hub}
    {r : Except Failure Connection}
    (h : Searches Hub.transport a attempt remaining site r s') :
    ((∃ failure, r = .error failure) ∧ s'.site.net = site.net) ∨
      ∃ c, r = .ok c ∧ Opens a.topics site.net s'.site.net c := by
  have hcases : ∀ attempt (site : Site Hub), _ ∨ _ := fun attempt site =>
    Hub.groups?_connect a.profile.address
      (ClientName.candidate a.profile.client attempt) site.net
  induction h with
  | exhausted => exact .inl ⟨⟨_, rfl⟩, rfl⟩
  | @accepted attempt _ site _ c _ hconnect hrejoins =>
      obtain ⟨fault, hvalue, -⟩ | ⟨c₁, hvalue, hopen, hnew, hgroups⟩ :=
        hcases attempt site
      · cases hvalue.symm.trans hconnect
      · obtain rfl : c₁ = c :=
          Except.ok.inj (hvalue.symm.trans hconnect)
        obtain ⟨rfl, hopens⟩ := hrejoins.opens hopen hnew hgroups
        exact .inr ⟨_, rfl, hopens⟩
  | @taken attempt _ site _ _ _ hconnect _ ih =>
      obtain ⟨fault, -, hnet⟩ | ⟨c, hvalue, -⟩ := hcases attempt site
      · rw [← hnet]
        exact ih
      · cases hvalue.symm.trans hconnect
  | @refused attempt _ site _ hconnect _ =>
      obtain ⟨fault, -, hnet⟩ | ⟨c, hvalue, -⟩ := hcases attempt site
      · exact .inl ⟨⟨_, rfl⟩, hnet⟩
      · cases hvalue.symm.trans hconnect

theorem Connects.tended {r : Except Failure Connection}
    (h : Connects Hub.transport s r s') : Tended id s s' := by
  cases h with
  | held => exact .refl s
  | opened hnone hsearch =>
      obtain ⟨⟨_, hr⟩, -⟩ | ⟨c', hr, hopens⟩ := hsearch.opens
      · cases hr
      cases hr
      refine Opens.tended hopens hnone ?_ rfl
      rw [hsearch.leaves.2]
  | failed hnone hsearch =>
      obtain ⟨-, hnet⟩ | ⟨c, hr, -⟩ := hsearch.opens
      · refine (Tended.refl s).of_end ?_ ?_ hnet <;> rw [hsearch.leaves.2]
      · cases hr

/-! ## Giving up a session -/

theorem Disconnects.leaves (h : Disconnects Hub.transport s s') :
    s'.self.topics = s.self.topics ∧ s'.self.session = none ∧
      s.site.net.Spares s'.site.net s.self.own? none := by
  cases h with
  | idle hsession =>
      refine ⟨rfl, hsession, ?_⟩
      rw [own?_of_no_session hsession]
      exact .of_same (fun _ => rfl) none
  | @ended c hsession =>
      refine ⟨rfl, rfl, ?_⟩
      rw [own?_of_session hsession]
      exact Hub.spares_disconnect c s.site.net

theorem disconnect_leaves (s : Stage Agent Hub) :
    Task.Ends (disconnect Hub.transport) s fun _ s' =>
      s'.self.topics = s.self.topics ∧ s'.self.session = none ∧
        s.site.net.Spares s'.site.net s.self.own? none :=
  (disconnect_disconnects s).imp fun _ _ h => h.leaves

theorem disconnect_tended (s : Stage Agent Hub) :
    Task.Ends (disconnect Hub.transport) s fun _ s' => Tended id s s' :=
  (disconnect_leaves s).imp fun _ _ ⟨htopics, hnone, hspares⟩ =>
    .of_no_session htopics hnone hspares

theorem GivesUp.leaves {cause : Fault}
    (h : GivesUp Hub.transport cause s s') (hends : cause.endsSession = true) :
    s'.self.topics = s.self.topics ∧ s'.self.session = none ∧
      s.site.net.Spares s'.site.net s.self.own? none := by
  cases h with
  | harmless hkeeps =>
      rw [hends] at hkeeps
      cases hkeeps
  | fatal _ hdisconnects => exact hdisconnects.leaves

section Calls

variable {f : SessionCall Hub α} (hf : Hub.Handles f change)
  (hc : s.self.session = some c)

include hc

theorem Tended.of_reached
    (hreached : Hub.Reached change c s.site.net (f c s.site.net))
    (hspares : s.site.net.Spares (f c s.site.net).net c.carried?
      (f c s.site.net).value.2.carried?) :
    Tended change s (calledOn c f s) := by
  have hown := own?_of_session hc
  have hsession : (calledOn c f s).self.session = some c :=
    congrArg some hreached.connection
  have hown' := own?_of_session hsession
  rw [hreached.connection] at hspares
  refine ⟨rfl, fun hready c' hc' => ?_, ?_, fun x groups hx hgroups => ?_⟩
  · exact hready c' (hc.trans (hsession.symm.trans hc'))
  · rw [hown, hown']
    exact hspares
  · rw [hown'] at hx
    simp only [calledOn, Site.serve, hreached.groups, if_pos hx,
      Option.map_eq_some_iff] at hgroups
    obtain ⟨before, hbefore, rfl⟩ := hgroups
    exact ⟨before, rfl, .inl ⟨hown.trans hx, hbefore⟩⟩

include hf

theorem Tended.of_answer {x : α}
    (hanswer : (f c s.site.net).value.1 = .ok x) :
    Tended change s (calledOn c f s) := by
  obtain hreached | hmissed := hf c s.site.net
  · exact .of_reached hc hreached (hf.spares c s.site.net)
  · rw [hmissed.value] at hanswer
    cases hanswer

/-- A call failed, and the agent did about it what there was to do. The client
that a call does not find was nobody's to touch, so giving up the session spares
all clients. -/
theorem Tended.of_fault {cause : Fault}
    (hfault : (f c s.site.net).value.1 = .error cause)
    (hgivesUp : GivesUp Hub.transport cause (calledOn c f s) s') :
    Tended change s s' := by
  have hspares := hf.spares c s.site.net
  obtain hreached | hmissed := hf c s.site.net
  · obtain rfl := hgivesUp.eq_of_harmless (hreached.harmless cause hfault)
    exact .of_reached hc hreached hspares
  · have hclosed : cause = .closed := by
      rw [hmissed.value] at hfault
      exact (Except.error.inj hfault).symm
    obtain ⟨htopics, hnone, hspares'⟩ := hgivesUp.leaves (hclosed ▸ rfl)
    refine .of_no_session htopics hnone ?_
    rw [own?_of_session hc]
    exact Hub.Spares.trans hspares hspares'

end Calls

/-- An operation that makes one call on a session. -/
theorem request_tended {f : SessionCall Hub α} (hf : Hub.Handles f change)
    (failed : Fault → Failure) (s : Stage Agent Hub) :
    Task.Ends (request Hub.transport f failed) s fun _ s' =>
      Tended change s s' := by
  refine (request_requests f failed s).imp fun r s' h => ?_
  cases h with
  | unconnected hconnects =>
      have hnone := hconnects.session
      have htended := hconnects.tended
      refine .of_no_session htended.topics hnone ?_
      rw [← own?_of_no_session hnone]
      exact htended.spares
  | answered hconnects hanswer =>
      exact hconnects.tended.trans (.of_answer hf hconnects.session hanswer)
  | refused hconnects hfault hgivesUp =>
      exact hconnects.tended.trans
        (.of_fault hf hconnects.session hfault hgivesUp)

/-! ## Operations -/

theorem keepAlive_tended (s : Stage Agent Hub) :
    Task.Ends (keepAlive Hub.transport) s fun _ s' => Tended id s s' := by
  have hhandles : Hub.Handles (keepAliveCall Hub.transport) id :=
    Hub.multicast_handles keepAliveGroup .empty keepAlivePayload .fifo
  refine (keepAlive_keepsAlive s).imp fun _ s' h => ?_
  cases h with
  | early | alone => exact .refl s
  | sent _ hsession hsent =>
      exact (Tended.of_answer hhandles hsession hsent).of_end rfl rfl rfl
  | failed _ hsession hfault hgivesUp =>
      exact (Tended.of_fault hhandles hsession hfault hgivesUp).of_end rfl rfl
        rfl

theorem receiveIfReady_handles :
    Hub.Handles (receiveIfReady Hub.transport) id := by
  intro c h
  simp only [receiveIfReady, Hub.transport]
  obtain hreached | hmissed := Hub.poll_handles c h
  · obtain ⟨outcome, hvalue⟩ : ∃ outcome, (Hub.poll c h).value = (outcome, c) :=
      ⟨_, Prod.ext rfl hreached.connection⟩
    rw [hvalue]
    match outcome with
    | .error cause =>
        refine .inl (.of_same rfl (fun _ hcause => ?_) hreached.same)
        cases hcause
        exact hreached.harmless cause (by rw [hvalue])
    | .ok false =>
        exact .inl (.of_same rfl (fun _ => nofun) hreached.same)
    | .ok true =>
        obtain hreached' | hmissed := Hub.receive_handles c (Hub.poll c h).net
        · refine .inl (.of_same hreached'.connection (fun cause hcause => ?_)
            fun x => (hreached'.same x).trans (hreached.same x))
          refine hreached'.harmless cause ?_
          cases hr : (Hub.receive c (Hub.poll c h).net).value.1 with
          | error cause' =>
              simp only [hr] at hcause
              cases hcause
              rfl
          | ok d =>
              simp only [hr] at hcause
              cases hcause
        · refine .inr ⟨?_, fun x => ?_, fun hopen => ?_⟩
          · simp only [hmissed.value]
            rfl
          · exact (hmissed.groups x).trans (hreached.same x)
          · exact (hreached.same _).symm.trans (hmissed.gone hopen)
  · rw [hmissed.value]
    exact .inr ⟨rfl, hmissed.groups, hmissed.gone⟩

theorem poll_tended (s : Stage Agent Hub) :
    Task.Ends (poll Hub.transport) s fun _ s' => Tended id s s' := by
  simp only [poll, Task.ends_bind]
  refine (request_tended receiveIfReady_handles _ s).imp fun r s₁ htended => ?_
  cases r with
  | error failure => exact htended
  | ok delivery? =>
      simp only [Task.ends_bind, Task.ends_pure]
      exact (keepAlive_tended s₁).imp fun _ _ h => htended.trans h

theorem send_tended (m : Message) (s : Stage Agent Hub) :
    Task.Ends (send Hub.transport m) s fun _ s' => Tended id s s' := by
  simp only [send, Task.ends_bind, Task.ends_self]
  split
  · exact .refl s
  · simp only [Task.ends_bind]
    refine (request_tended (Hub.multicast_handles _ _ _ .fifo) _ s).imp
      fun r s' htended => ?_
    cases r with
    | error failure => exact htended
    | ok sent =>
        simp only []
        split <;> exact htended

theorem address_tended (s : Stage Agent Hub) :
    Task.Ends (address Hub.transport) s fun _ s' => Tended id s s' := by
  simp only [address, Task.ends_bind, Task.ends_pure]
  exact (connect_connects s).imp fun _ _ h => h.tended

/-- What the agent does after a change of its profile counts alone. -/
theorem Tended.of_start {s₁ : Stage Agent Hub} (h : Tended change s₁ s')
    (htopics : s₁.self.topics = s.self.topics)
    (hsession : s₁.self.session = s.self.session)
    (hnet : s₁.site.net = s.site.net) : Tended change s s' := by
  have hown : s₁.self.own? = s.self.own? := by rw [own?, own?, hsession]
  refine ⟨h.topics.trans htopics, fun hs => h.ready fun c hc => ?_, ?_, ?_⟩
  · exact hs c (hsession ▸ hc)
  · rw [← hown, ← hnet]
    exact h.spares
  · rw [← hown, ← hnet, ← htopics]
    exact h.groups

theorem setAddress_tended (address : String) (s : Stage Agent Hub) :
    Task.Ends (setAddress Hub.transport address) s fun _ s' =>
      Tended id s s' := by
  simp only [setAddress, Task.ends_bind, Task.ends_self]
  split
  · simp only [Task.ends_bind, Task.ends_change]
    exact (disconnect_tended _).imp fun _ s' h => h.of_start rfl rfl rfl
  · exact .refl s

theorem setClient_tended (client : String) (s : Stage Agent Hub) :
    Task.Ends (setClient Hub.transport client) s fun _ s' =>
      Tended id s s' := by
  simp only [setClient, Task.ends_bind, Task.ends_self]
  split
  · simp only [Task.ends_bind, Task.ends_change]
    exact (disconnect_tended _).imp fun _ s' h => h.of_start rfl rfl rfl
  · exact .refl s

/-! ## Keeping faith -/

/-- What an agent's owner finds after an operation. -/
structure Kept (s s' : Stage Agent Hub) : Prop where
  ready : s.self.Ready → s'.self.Ready
  spares : s.site.net.Spares s'.site.net s.self.own? s'.self.own?
  /-- On the session that it had the agent stays faithful, and on another it
  becomes so. -/
  faithful : (s'.self.own? = s.self.own? → s.self.Faithful s.site.net) →
    s'.self.Faithful s'.site.net

/-- A topic that is remembered before a call, and a change of groups that does
to every set of groups what has been done to the topics. -/
theorem Tended.kept_of_topics {s₁ : Stage Agent Hub}
    (h : Tended change s₁ s') (hsession : s₁.self.session = s.self.session)
    (hnet : s₁.site.net = s.site.net)
    (hchange : ∀ groups, Matches s.self.topics groups ∨
        Matches s₁.self.topics groups → Matches s₁.self.topics (change groups)) :
    Kept s s' := by
  have hown : s₁.self.own? = s.self.own? := by rw [own?, own?, hsession]
  refine ⟨fun hs => h.ready fun c hc => hs c (hsession ▸ hc), ?_,
    fun hfaithful x groups hx hgroups => ?_⟩
  · rw [← hown, ← hnet]
    exact h.spares
  · obtain ⟨before, rfl, hbefore⟩ := h.groups x groups hx hgroups
    rw [h.topics]
    refine hchange before (hbefore.imp_left fun ⟨hx', hbefore⟩ => ?_)
    rw [hown] at hx'
    rw [hnet] at hbefore
    exact hfaithful (hx.trans hx'.symm) x before hx' hbefore

theorem Tended.kept (h : Tended id s s') : Kept s s' :=
  h.kept_of_topics rfl rfl fun _ hmatches => or_self_iff.mp hmatches

theorem subscribe_kept (topic : String) (s : Stage Agent Hub) :
    Task.Ends (subscribe Hub.transport topic) s fun _ s' =>
      s'.self.topics = s.self.topics.insert topic ∧ Kept s s' := by
  simp only [subscribe, Task.ends_bind, Task.ends_change]
  refine (request_tended (Hub.join_handles topic) _ _).imp fun _ s' h => ?_
  refine ⟨h.topics, h.kept_of_topics rfl rfl fun groups hmatches g => ?_⟩
  rw [Hub.mem_joined, Std.ExtTreeSet.mem_insert,
    Std.LawfulEqCmp.compare_eq_iff_eq, or_and_right, eq_comm]
  obtain hmatches | hmatches := hmatches
  · rw [hmatches]
  · rw [hmatches, Std.ExtTreeSet.mem_insert,
      Std.LawfulEqCmp.compare_eq_iff_eq, or_and_right, or_self_left]

theorem unsubscribe_kept (topic : String) (s : Stage Agent Hub) :
    Task.Ends (unsubscribe Hub.transport topic) s fun _ s' =>
      s'.self.topics = s.self.topics.erase topic ∧ Kept s s' := by
  simp only [unsubscribe, Task.ends_bind, Task.ends_change]
  refine (request_tended (Hub.leave_handles topic) _ _).imp fun _ s' h => ?_
  refine ⟨h.topics, h.kept_of_topics rfl rfl fun groups hmatches g => ?_⟩
  rw [Std.ExtTreeSet.mem_erase, Std.ExtTreeSet.mem_erase, and_assoc]
  obtain hmatches | hmatches := hmatches
  · rw [hmatches]
  · rw [hmatches, Std.ExtTreeSet.mem_erase, and_assoc, and_self_left]

end Agent

end Courier
