import Courier.Proofs.Agent.Naming
import Courier.Proofs.Hub.Inboxes

/-!
# Polling on a hub

What a poll comes to depends on the session. If the hub has its client, the poll
hands out the oldest delivery that waits for the client, and may pass on a
keep-alive; a keep-alive that the hub does not accept does no harm
(`poll_of_client`). If the session has ended, the poll fails and the agent is
left without a session (`poll_of_stale`). Without a session the agent
connects, and goes on as if it had had the new session before (`poll_of_choose`).
-/

namespace Courier

namespace Hub

/-- Where there is the client, a multicast that is refused leaves the session
usable. -/
theorem multicast_harmless {h : Hub} {c : Connection} {group : String}
    {payload : Bytes} (hhas : h.Has c) (hnot : ¬ h.Admits c group payload)
    (flags : Flags) (service : Service) :
    ∃ fault, fault.endsSession = false ∧
      multicast group flags payload service c h =
        { value := (.error fault, c), net := h } := by
  rw [multicast]
  split
  · exact ⟨_, rfl, rfl⟩
  · next hlegal =>
    split
    · exact ⟨_, rfl, rfl⟩
    · next hsize =>
        exact absurd ⟨by simpa using hlegal, by omega, hhas⟩ hnot

end Hub

namespace Agent

variable {s : Stage Agent Hub} {c : Connection} {h h' : Hub}
  {client : Hub.Client}

theorem receiveIfReady_of_client (hopen : c.isOpen = true)
    (hclient : h.clients[c.address]? = some client) :
    receiveIfReady Hub.transport c h =
      { value := (.ok client.inbox.head?, c)
        net := h.update c { client with inbox := client.inbox.tail } } := by
  have hpoll : Hub.transport.poll c h =
      { value := (.ok !client.inbox.isEmpty, c), net := h } := by
    show Hub.poll c h = _
    rw [Hub.poll, Hub.withClient_of_client hopen hclient]
  have hreceive : Hub.transport.receive c h = _ :=
    Hub.withClient_of_client hopen hclient _
  simp only [receiveIfReady, hpoll]
  cases hinbox : client.inbox with
  | nil =>
      have hsame : { client with inbox := [] } = client := by rw [← hinbox]
      simp only [List.isEmpty_nil, Bool.not_true, List.tail_nil, hsame,
        Hub.update_same hclient]
      rfl
  | cons d rest =>
      simp only [List.isEmpty_cons, Bool.not_false, hreceive, hinbox]
      rfl

/-- A keep-alive, as it is delivered. -/
def keepAliveFrom (address : String) : Delivery where
  sender := address
  group := keepAliveGroup
  flags := .empty
  payload := keepAlivePayload

/-- The agent has the session of `c`, and nothing else of it has changed but the
time of its last keep-alive. On top of what has become of the hub, at most a
keep-alive was passed on. -/
structure Refreshed (c : Connection) (h : Hub) (s s' : Stage Agent Hub) :
    Prop where
  profile : s'.self.profile = s.self.profile
  session : s'.self.session = some c
  topics : s'.self.topics = s.self.topics
  outage : s'.self.outage = s.self.outage
  net : s'.site.net = h ∨ s'.site.net = h.pass (keepAliveFrom c.address)

theorem keepAlive_of_has (hsession : s.self.session = some c)
    (hhas : s.site.net.Has c) :
    Task.Ends (keepAlive Hub.transport) s fun _ s' =>
      Refreshed c s.site.net s s' := by
  refine (keepAlive_keepsAlive s).imp fun _ s' h => ?_
  cases h with
  | early | alone => exact ⟨rfl, hsession, rfl, rfl, .inl rfl⟩
  | sent _ hsession' hsent =>
      cases hsession.symm.trans hsession'
      by_cases hadmits : s.site.net.Admits c keepAliveGroup keepAlivePayload
      · have hcall : keepAliveCall Hub.transport c s.site.net = _ :=
          Hub.multicast_accepted hadmits .empty .fifo
        simp only [calledOn, hcall]
        exact ⟨rfl, rfl, rfl, rfl, .inr rfl⟩
      · obtain ⟨fault, -, hrefused⟩ :=
          Hub.multicast_harmless hhas hadmits .empty .fifo
        cases hsent.symm.trans (congrArg (·.value.1) hrefused)
  | failed _ hsession' hfault hgivesUp =>
      cases hsession.symm.trans hsession'
      by_cases hadmits : s.site.net.Admits c keepAliveGroup keepAlivePayload
      · have haccepted := Hub.multicast_accepted hadmits .empty .fifo
        cases hfault.symm.trans (congrArg (·.value.1) haccepted)
      · obtain ⟨fault, hharmless, hrefused⟩ :=
          Hub.multicast_harmless hhas hadmits .empty .fifo
        have hcall : keepAliveCall Hub.transport c s.site.net = _ := hrefused
        cases hfault.symm.trans (congrArg (·.value.1) hcall)
        obtain rfl := hgivesUp.eq_of_harmless hharmless
        simp only [calledOn, hcall]
        exact ⟨rfl, rfl, rfl, rfl, .inl rfl⟩

theorem has_update (hopen : c.isOpen = true) :
    (h.update c client).Has c :=
  ⟨hopen, Std.ExtTreeMap.mem_insert_self⟩

/-- Where the hub has the client, a poll hands out what waits first. -/
theorem poll_of_client (hopen : c.isOpen = true)
    (hsession : s.self.session = some c)
    (hclient : s.site.net.clients[c.address]? = some client) :
    Task.Ends (poll Hub.transport) s fun r s' =>
      r = .ok client.inbox.head? ∧ Refreshed c
        (s.site.net.update c { client with inbox := client.inbox.tail }) s s' := by
  have hcall : receiveIfReady Hub.transport c s.site.net = _ :=
    receiveIfReady_of_client hopen hclient
  simp only [poll, Task.ends_bind]
  refine (request_requests _ _ s).imp fun r s₁ h => ?_
  obtain ⟨x, hanswer, rfl, rfl⟩ | ⟨cause, hfault, -⟩ := h.of_session hsession
  · cases hanswer.symm.trans (congrArg (·.value.1) hcall)
    simp only [calledOn, hcall, Task.ends_bind, Task.ends_pure]
    refine Task.Ends.imp (keepAlive_of_has (c := c) rfl (has_update hopen))
      fun _ s' h => ?_
    obtain ⟨hprofile, hsession', htopics, houtage, hnet⟩ := h
    exact ⟨trivial, hprofile, hsession', htopics, houtage, hnet⟩
  · cases hfault.symm.trans (congrArg (·.value.1) hcall)

/-- On a session that has ended a poll fails, and there is no session then. -/
theorem poll_of_stale (hsession : s.self.session = some c)
    (hgone : ¬ s.site.net.Has c) :
    Task.Ends (poll Hub.transport) s fun r s' =>
      r = .error (.transport .receive .closed) ∧
        s'.self = { s.self with session := none, outage := true } ∧
        s'.site.net = s.site.net := by
  have hcall : receiveIfReady Hub.transport c s.site.net =
      { value := (.error .closed, { c with isOpen := false })
        net := s.site.net } := by
    have hpoll : Hub.transport.poll c s.site.net =
        { value := (.error .closed, { c with isOpen := false })
          net := s.site.net } := by
      show Hub.poll c s.site.net = _
      rw [Hub.poll, Hub.withClient_gone hgone]
    rw [receiveIfReady, hpoll]
  simp only [poll, Task.ends_bind]
  refine (request_requests _ _ s).imp fun r s₁ h => ?_
  obtain ⟨x, hanswer, -⟩ | ⟨cause, hfault, rfl, hgivesUp⟩ :=
    h.of_session hsession
  · cases hanswer.symm.trans (congrArg (·.value.1) hcall)
  · cases hfault.symm.trans (congrArg (·.value.1) hcall)
    refine ⟨rfl, hgivesUp.self_eq.trans ?_, ?_⟩
    · simp [calledOn, Fault.endsSession]
    · show s₁.site.net = s.site.net
      rw [hgivesUp.net_of_ends rfl rfl, calledOn, hcall]
      rfl

/-- Where a name can be chosen, a connect ends where another one ends at once. -/
theorem connect_again (hnone : s.self.session = none)
    (hchoose : s.site.net.choose s.self.profile.address s.self.profile.client =
      .ok c) :
    ∃ s₁, Connected c s s₁ ∧ (connect Hub.transport).run s = (.ok c, s₁) ∧
      (connect Hub.transport).run s₁ = (.ok c, s₁) := by
  have hconnect := connect_chooses hnone
  rw [hchoose] at hconnect
  obtain ⟨hr, hconnected⟩ := hconnect
  refine ⟨_, hconnected, Prod.ext hr rfl, ?_⟩
  have hsession : ((connect Hub.transport).run s).2.self.session = some c := by
    rw [hconnected.self]
  generalize ((connect Hub.transport).run s).2 = s₁ at hsession
  have hconnects : Connects Hub.transport s₁ _ _ := connect_connects s₁
  obtain ⟨hr, hs⟩ := hconnects.eq_of_session hsession
  exact Prod.ext hr hs

theorem poll_of_choose (hnone : s.self.session = none)
    (hchoose : s.site.net.choose s.self.profile.address s.self.profile.client =
      .ok c) :
    ∃ s₁, Connected c s s₁ ∧
      (poll Hub.transport).run s = (poll Hub.transport).run s₁ := by
  obtain ⟨s₁, hconnected, hrun, hagain⟩ := connect_again hnone hchoose
  refine ⟨s₁, hconnected, ?_⟩
  simp only [poll, request, StateT.run_bind, hrun, hagain]

end Agent

end Courier
