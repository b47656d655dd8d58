import Courier.Proofs.Agent.Polling
import Courier.Proofs.Network.Topics

/-!
# Two polls heal

An agent whose session has ended unnoticed loses a poll: the first poll finds
that out, and gives the session up. But this is all that can be lost, as long
as there is a name for the agent. A poll of an agent that has its session, or
has none, succeeds and leaves the agent with a session that the hub has.

The topics need no poll to be healed. Whoever keeps faith before a poll keeps it
afterwards (`Agent.Kept`), and an agent whose client nobody else carries has
kept it all the time.
-/

namespace Courier

namespace Agent

variable {s s' : Stage Agent Hub} {c : Connection}

/-- The agent has a session, and the hub has it as well. -/
def Live (s : Stage Agent Hub) : Prop :=
  ∃ c, s.self.session = some c ∧ s.site.net.Has c

/-- There is a name under which the agent could connect. -/
def CanConnect (s : Stage Agent Hub) : Prop :=
  ∃ c, s.site.net.choose s.self.profile.address s.self.profile.client = .ok c

theorem canConnect_of_free (hrefusing : s.site.net.refusing = false)
    (hempty : ClientName.candidate s.self.profile.client 0 ≠ "")
    (hhash : '#' ∉ (ClientName.candidate s.self.profile.client 0).toList)
    (hfree : ∃ k < 1000, s.site.net.address
      (ClientName.candidate s.self.profile.client k) ∉ s.site.net.clients) :
    CanConnect s := by
  obtain ⟨k, hk, hnot⟩ := hfree
  rw [CanConnect, Hub.choose_of_legal
    (Hub.legalClient_candidate_zero.mpr ⟨hempty, hhash⟩) hrefusing]
  cases hfound : s.site.net.free? s.self.profile.client 0 maxAttempts with
  | some k => exact ⟨_, rfl⟩
  | none => exact absurd (Hub.free?_eq_none_iff.mp hfound k hk) hnot

theorem poll_of_live (h : Live s) :
    Task.Ends (poll Hub.transport) s fun r s' =>
      (∃ d?, r = .ok d?) ∧ Live s' := by
  obtain ⟨c, hsession, hhas⟩ := h
  obtain ⟨client, hclient⟩ := hhas.exists_client
  refine (poll_of_client hhas.isOpen hsession hclient).imp fun r s' h => ?_
  obtain ⟨rfl, hrefreshed⟩ := h
  refine ⟨⟨_, rfl⟩, c, hrefreshed.session, ?_⟩
  obtain hnet | hnet := hrefreshed.net
  · rw [hnet]
    exact has_update hhas.isOpen
  · rw [hnet]
    refine ⟨hhas.isOpen, (Hub.mem_clients_pass _).mpr ?_⟩
    exact (has_update hhas.isOpen).client

theorem poll_of_canConnect (hnone : s.self.session = none)
    (h : CanConnect s) :
    Task.Ends (poll Hub.transport) s fun r s' =>
      (∃ d?, r = .ok d?) ∧ Live s' := by
  obtain ⟨c, hchoose⟩ := h
  obtain ⟨s₁, hconnected, hrun⟩ := poll_of_choose hnone hchoose
  have hlive : Live s₁ := by
    obtain ⟨groups, -, hnet⟩ := hconnected.net
    refine ⟨c, by rw [hconnected.self], ?_⟩
    rw [hnet]
    exact has_update (Hub.isOpen_of_choose hchoose)
  exact (poll_of_live hlive).of_run_eq hrun

/-- A poll leaves the agent with a session, or it was lost on one that had
ended. -/
theorem poll_heals (h : CanConnect s) :
    Task.Ends (poll Hub.transport) s fun _ s' =>
      Live s' ∨ s'.self.session = none ∧ CanConnect s' := by
  cases hsession : s.self.session with
  | none => exact (poll_of_canConnect hsession h).imp fun _ _ h => .inl h.2
  | some c =>
      by_cases hhas : s.site.net.Has c
      · exact (poll_of_live ⟨c, hsession, hhas⟩).imp fun _ _ h => .inl h.2
      · refine (poll_of_stale hsession hhas).imp fun _ s' hstale => ?_
        obtain ⟨-, hself, hnet⟩ := hstale
        refine .inr ⟨by rw [hself], ?_⟩
        rw [CanConnect, hself, hnet]
        exact h

/-- Two polls in a row, with any time between them. -/
theorem poll_twice (hready : s.self.Ready) (h : CanConnect s)
    (hfaithful : s.self.Faithful s.site.net) (ns : Nat) :
    Task.Ends (poll Hub.transport) s fun _ s₁ =>
      Task.Ends (poll Hub.transport) { s₁ with site := s₁.site.advance ns }
        fun r s₂ => (∃ d?, r = .ok d?) ∧ Live s₂ ∧
          s₂.self.topics = s.self.topics ∧ s₂.self.Ready ∧
          s₂.self.Faithful s₂.site.net := by
  refine ((poll_heals h).and (poll_tended s)).imp fun _ s₁ h₁ => ?_
  obtain ⟨hhealed, htended₁⟩ := h₁
  have hsecond : Task.Ends (poll Hub.transport)
      { s₁ with site := s₁.site.advance ns }
      fun r s₂ => (∃ d?, r = .ok d?) ∧ Live s₂ := by
    obtain hlive | ⟨hnone, hcan⟩ := hhealed
    · exact poll_of_live hlive
    · exact poll_of_canConnect hnone hcan
  refine (hsecond.and (poll_tended _)).imp fun r s₂ h₂ => ?_
  obtain ⟨⟨hok, hlive⟩, htended₂⟩ := h₂
  refine ⟨hok, hlive, htended₂.topics.trans htended₁.topics,
    htended₂.ready (htended₁.ready hready), htended₂.kept.faithful fun _ => ?_⟩
  exact htended₁.kept.faithful fun _ => hfaithful

end Agent

namespace Network

/-- Two polls in a row heal whatever has happened to an agent: the second one
succeeds, and the agent's client is on the hub, in exactly the groups that the
agent's topics can name. -/
theorem two_polls_heal (name : String) (limit : Nat) (turns : List Turn) :
    let n := (course name limit turns).state
    ∀ i a, n.party? i = some a → n.site.net.refusing = false →
      ClientName.candidate a.profile.client 0 ≠ "" →
      '#' ∉ (ClientName.candidate a.profile.client 0).toList →
      (∃ k < 1000, n.site.net.address
        (ClientName.candidate a.profile.client k) ∉ n.site.net.clients) →
      (∀ c, a.session = some c →
        ∀ holder, holder ≠ .agent i → n.carried? holder ≠ some c.address) →
      ∀ ns, ∃ r n₁ d? n₂ a₂ c,
        n.act i (Agent.poll Hub.transport) = some (r, n₁) ∧
        (n₁.advance ns).act i (Agent.poll Hub.transport) =
          some (.ok d?, n₂) ∧
        n₂.party? i = some a₂ ∧ a₂.session = some c ∧
        a₂.topics = a.topics ∧ c.address ∈ n₂.site.net.addresses ∧
        ∀ g, c.address ∈ n₂.site.net.members g ↔
          g ∈ a.topics ∧ 1 ≤ g.utf8ByteSize ∧ g.utf8ByteSize ≤ 32 := by
  intro n i a ha hrefusing hempty hhash hfree halone ns
  have hinStep : n.InStep := course_inStep name limit turns
  have hready : a.Ready := hinStep.ready i a ha
  have hfaithful : a.Faithful n.site.net := by
    refine hinStep.faithful i a ha fun x hx => ?_
    obtain ⟨c, hc, hcarried⟩ := Option.bind_eq_some_iff.mp hx
    obtain ⟨-, rfl⟩ := Connection.carried?_eq_some_iff.mp hcarried
    exact halone c hc
  obtain ⟨hact₁, htwice⟩ := (act_of_party? ha (Agent.poll Hub.transport)).and
    (Agent.poll_twice (s := { self := a, site := n.site }) hready
      (Agent.canConnect_of_free hrefusing hempty hhash hfree) hfaithful ns)
  generalize (StateT.run (Agent.poll Hub.transport) _).2 = s₁ at hact₁ htwice
  have hparty₁ : ((n.after i s₁).advance ns).party? i = some s₁.self :=
    (party?_after ha s₁ i).trans (if_pos rfl)
  obtain ⟨hact₂, ⟨d?, hok⟩, ⟨c, hc, hhas⟩, htopics, hready₂, hfaithful₂⟩ :=
    (act_of_party? hparty₁ (Agent.poll Hub.transport)).and htwice
  rw [hok] at hact₂
  have hclient := Std.ExtTreeMap.mem_keys.mpr hhas.client
  refine ⟨_, _, d?, _, _, c, hact₁, hact₂,
    (party?_after hparty₁ _ i).trans (if_pos rfl), hc, htopics, hclient,
    fun g => ?_⟩
  rw [← htopics]
  exact hfaithful₂.mem_members_iff hready₂ hc hclient g

/-- The hub drops the session of an agent without its noticing. The agent has
another topic that can be no group, and its keep-alives are longer than the hub
accepts. -/
def droppedTurns : List Turn :=
  [.enter { client := "box", keepAlive := some 0 },
    .errand 0 (.subscribe "news"), .errand 0 (.subscribe ""), .dropAll,
    .line "spare" (.connect "4803@localhost" "spare")]

theorem two_polls_heal_dropped :
    ∃ n, n = (course "hub" 4 droppedTurns).state ∧ ∃ a, n.party? 0 = some a ∧
      a.session = some ⟨"#box#hub", true⟩ ∧ "#box#hub" ∉ n.site.net.clients ∧
      ∃ r n₁ d? n₂ a₂ c,
        n.act 0 (Agent.poll Hub.transport) = some (r, n₁) ∧
        (n₁.advance 7).act 0 (Agent.poll Hub.transport) = some (.ok d?, n₂) ∧
        n₂.party? 0 = some a₂ ∧ a₂.session = some c ∧
        a₂.topics = a.topics ∧ c.address ∈ n₂.site.net.addresses ∧
        ∀ g, c.address ∈ n₂.site.net.members g ↔
          g ∈ a.topics ∧ 1 ≤ g.utf8ByteSize ∧ g.utf8ByteSize ≤ 32 := by
  obtain ⟨n, hn⟩ : ∃ n, n = (course "hub" 4 droppedTurns).state := ⟨_, rfl⟩
  obtain ⟨a, ha⟩ : ∃ a, n.party? 0 = some a :=
    Option.isSome_iff_exists.mp (by rw [hn]; decide +kernel)
  have hsession : (n.party? 0).bind Agent.session =
      some ⟨"#box#hub", true⟩ := by rw [hn]; decide +kernel
  have hclient : (n.party? 0).map (·.profile.client) = some "box" := by
    rw [hn]
    decide +kernel
  rw [ha, Option.bind_some] at hsession
  rw [ha, Option.map_some, Option.some.injEq] at hclient
  have hgone : "#box#hub" ∉ n.site.net.clients := by
    rw [hn]
    decide +kernel
  have hrefusing : n.site.net.refusing = false := by
    rw [hn]
    decide +kernel
  have hfree : n.site.net.address (ClientName.candidate "box" 0) ∉
      n.site.net.clients := by
    rw [hn]
    decide +kernel
  have halone : n.Alone 0 "#box#hub" := by
    rw [hn]
    exact alone_of (by decide +kernel) (by decide +kernel)
  have h := two_polls_heal "hub" 4 droppedTurns
  rw [← hn] at h
  refine ⟨n, hn, a, ha, hsession, hgone,
    h 0 a ha hrefusing ?_ ?_ ⟨0, by decide, ?_⟩ ?_ 7⟩
  · rw [hclient]
    decide
  · rw [hclient]
    decide
  · rw [hclient]
    exact hfree
  · rw [hsession]
    rintro _ ⟨⟩
    exact halone

end Network

end Courier
