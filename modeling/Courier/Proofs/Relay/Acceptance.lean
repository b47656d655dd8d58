import Courier.Proofs.Agent.OnHub
import Courier.Proofs.Hub.Groups
import Courier.Proofs.Relay.Outbound

/-!
# What a relay accepts for sending

A message is checked when a caller hands it over and once more when the worker
sends it, a hub has limits of its own, and a receiver looks for the tab that
ends the topic. `Message.check_eq_ok_iff_transmissible` says that the first
check asks for all that the others need.

The limit of the first check is kept by the relay and that of the second by
its agent, whose address and client name callers can change at any time. They
stay the same, so a message is refused exactly if the agent would refuse it,
then or later, and an accepted one is never refused by the agent.
-/

namespace Courier

def Failure.IsOfMessage : Failure → Prop
  | .badTopic _ | .tooLarge .. => True
  | .connecting .. | .sending .. | .transport .. | .undecodable _ | .stopped =>
    False

namespace Message

variable {m : Message} {limit : Nat}

/-- Whoever sends the message with this limit, it arrives as it is: nothing is
wrong with its topic or its size, it is read off its payload again, and a hub
that takes payloads of this size refuses it only on a closed connection. -/
structure Transmissible (limit : Nat) (m : Message) : Prop where
  untabbed : '\t' ∉ m.topic.toList
  nonempty : 1 ≤ m.topic.utf8ByteSize
  short : m.topic.utf8ByteSize ≤ 32
  fits : m.payload.length ≤ limit
  legible : ofPayload m.payload = .ok m
  taken : ∀ (hub : Hub) (c : Connection) (flags : Flags) (service : Service)
    (cause : Fault), limit ≤ hub.limit →
    (Hub.multicast m.topic flags m.payload service c hub).value.1 =
      .error cause → cause = .closed

/-- A hub that can name the group and hold the payload only fails for want of
a session. -/
theorem closed_of_multicast {hub : Hub} {c : Connection} {flags : Flags}
    {service : Service} {group : String} {payload : Bytes} {cause : Fault}
    (hgroup : Hub.legalGroup group = true) (hsize : payload.length ≤ hub.limit)
    (h : (Hub.multicast group flags payload service c hub).value.1 =
      .error cause) : cause = .closed := by
  rw [Hub.multicast, hgroup, Bool.not_true, if_neg Bool.false_ne_true,
    if_neg (Nat.not_lt.mpr hsize), Hub.withClient] at h
  split at h
  · split at h
    · cases h
    · exact (Except.error.inj h).symm
  · exact (Except.error.inj h).symm

theorem check_eq_ok_iff_transmissible :
    m.check limit = .ok () ↔ m.Transmissible limit := by
  rw [Agent.check_eq_ok_iff, checkTopic_eq_ok_iff]
  constructor
  · rintro ⟨⟨htopic, htab⟩, hshort, hsize⟩
    have hnonempty : 1 ≤ m.topic.utf8ByteSize := by
      rw [Ne, ← String.utf8ByteSize_eq_zero_iff] at htopic
      omega
    have hfits : m.payload.length ≤ limit := by rwa [length_payload]
    refine ⟨htab, hnonempty, hshort, hfits, ?_, ?_⟩
    · exact ofPayload_payload (checkTopic_eq_ok_iff.mpr ⟨htopic, htab⟩)
    · intro hub c flags service cause hlimit
      exact closed_of_multicast (Hub.legalGroup_iff.mpr ⟨hnonempty, hshort⟩)
        (Nat.le_trans hfits hlimit)
  · rintro ⟨htab, hnonempty, hshort, hfits, -, -⟩
    rw [length_payload] at hfits
    refine ⟨⟨?_, htab⟩, hshort, hfits⟩
    rintro hempty
    rw [← String.utf8ByteSize_eq_zero_iff] at hempty
    omega

theorem isOfMessage_of_check {failure : Failure}
    (h : m.check limit = .error failure) : failure.IsOfMessage := by
  rw [Agent.checkMessage_eq] at h
  repeat' split at h
  all_goals cases h
  all_goals trivial

end Message

theorem Agent.send_of_check {σ : Type} {t : Transport σ} {m : Message}
    {s : Stage Agent (Recorded σ)} (hcheck : s.self.check m = .ok ()) :
    Task.Ends (send (Recorded.transport t) m) s fun r _ =>
      ∀ failure, r = .error failure → ¬ failure.IsOfMessage := by
  simp only [send, Task.ends_bind, Task.ends_self, hcheck]
  refine (request_record (P := fun outcome own => own =
    [@Exchange.multicast .fifo m.topic .normal m.payload outcome])
    (multicast_record m) _ s).imp fun r s' h => ?_
  obtain ⟨-, -, address, cause, rfl⟩ | ⟨outcome, own, -, -, rfl⟩ := h
  · rintro _ ⟨⟩
    exact not_false
  · cases outcome with
    | error cause =>
        rintro _ ⟨⟩
        exact not_false
    | ok sent =>
        show Task.Ends (if sent = m.payload.length then _ else _) _ _
        split
        · rintro _ ⟨⟩
        · rintro _ ⟨⟩
          exact not_false

namespace Relay

variable {σ : Type} {t : Transport σ} {message : Message} {failure : Failure}

/-! ## One turn -/

theorem send_of_check_error {s : Stage Relay σ}
    (hcheck : message.check s.self.limit = .error failure) :
    Task.Ends (send message) s fun answer s' =>
      answer = .refused failure ∧ s' = s := by
  simp only [send, Task.ends_bind, Task.ends_self, hcheck]
  exact ⟨rfl, rfl⟩

theorem send_of_check {s : Stage Relay σ}
    (hcheck : message.check s.self.limit = .ok ()) :
    Task.Ends (send message) s fun answer s' =>
      ∀ failure, answer = .refused failure → failure = .stopped ∧ s' = s := by
  simp only [send, Task.ends_bind, Task.ends_self, hcheck]
  split
  · rintro _ ⟨⟩
    exact ⟨rfl, rfl⟩
  · split
    · rintro _ ⟨⟩
    · rintro _ ⟨⟩

theorem send_refused_iff (message : Message) (failure : Failure)
    (s : Stage Relay σ) :
    Task.Ends (send message) s fun answer s' =>
      (answer = .refused failure ∧ failure.IsOfMessage ↔
          message.check s.self.limit = .error failure) ∧
        (answer = .refused failure → s' = s) := by
  cases hcheck : message.check s.self.limit with
  | error cause =>
      have hcause := Message.isOfMessage_of_check hcheck
      refine (send_of_check_error hcheck).imp fun answer s' h => ?_
      obtain ⟨rfl, hs⟩ := h
      rw [Submission.refused.injEq, Except.error.injEq]
      refine ⟨⟨And.left, ?_⟩, fun _ => hs⟩
      rintro rfl
      exact ⟨rfl, hcause⟩
  | ok u =>
      refine (send_of_check hcheck).imp fun answer s' h => ?_
      refine ⟨⟨fun ⟨hanswer, hown⟩ => ?_, ?_⟩, fun hanswer => (h _ hanswer).2⟩
      · obtain ⟨rfl, -⟩ := h failure hanswer
        exact hown.elim
      · rintro ⟨⟩

/-! ## All turns -/

/-- What was accepted passes the check of the agent that there was first, and
so of every later one. -/
theorem check_of_accepted (t : Transport σ) (agent : Agent) (pace : Pace)
    (site : Site σ) (turns : List (Turn σ)) :
    ∀ m ∈ (history t agent pace site turns).accepted,
      m.check agent.profile.limit = .ok () := by
  induction turns using List.reverseRecOn with
  | nil =>
      rintro _ ⟨⟩
  | append_singleton turns turn ih =>
      have hlimit := history_limit t agent pace site turns
      rw [history, Run.of_concat]
      cases turn with
      | elsewhere f =>
          rw [Run.take, History.accepted_push]
          show ∀ m ∈ History.accepted _ ++ [], _
          rw [List.append_nil]
          exact ih
      | act a =>
          obtain ⟨moment, result, calls, hrun, hbefore, hturn, hacted⟩ :=
            History.take_act (history t agent pace site turns) t a
          rw [history] at hrun
          rw [hrun, History.accepted_push, List.forall_mem_append]
          refine ⟨ih, fun m hm => ?_⟩
          rw [acceptedAt, hturn] at hm
          have hchecked := hacted.outgoing.checked m hm
          rwa [hbefore, hlimit] at hchecked

/-- What holds of the messages that a relay has accepted, at every point of a
history. -/
structure Transmits (t : Transport σ) (limit : Nat) (h : History σ) :
    Prop where
  transmissible : ∀ m ∈ h.accepted, m.Transmissible limit
  /-- Sending finds nothing wrong with a message itself. -/
  unrefused : ∀ m ∈ h.accepted, ∀ failure : Failure, failure.IsOfMessage →
    ((Agent.send (Recorded.transport t) m).run (atAgent h.state)).1 ≠
      .error failure
  tried : ∀ a, ∀ m ∈ (errand h.state.self a).tried, m ∈ h.accepted
  /-- What is multicast in an attempt to send is read as the message again. -/
  posted : ∀ a ∈ h.attempts, a.message ∈ h.accepted ∧
    ∀ p ∈ Exchange.multicasts a.calls, p.group = a.message.topic ∧
      Message.ofPayload p.payload = .ok a.message

theorem multicasts_of_attempt {a : Attempt} (h : a.IsSent ∨ a.IsFailed) :
    ∀ p ∈ Exchange.multicasts a.calls,
      p.group = a.message.topic ∧ p.payload = a.message.payload := by
  intro p hp
  obtain ⟨-, hsent⟩ | ⟨-, ⟨hnone, -⟩ | ⟨outcome, -, hone⟩⟩ := h
  · rw [hsent] at hp
    obtain rfl := List.mem_singleton.mp hp
    exact ⟨rfl, rfl⟩
  · rw [hnone] at hp
    cases hp
  · rw [hone] at hp
    obtain rfl := List.mem_singleton.mp hp
    exact ⟨rfl, rfl⟩

theorem transmits_history (t : Transport σ) (agent : Agent) (pace : Pace)
    (site : Site σ) (turns : List (Turn σ)) :
    Transmits t agent.profile.limit (history t agent pace site turns) := by
  have hconserves := conserves_history t agent pace site turns
  have hlimit := history_limit t agent pace site turns
  have hcheck := check_of_accepted t agent pace site turns
  generalize history t agent pace site turns = h at *
  have hagent : h.state.self.agent.profile.limit = agent.profile.limit :=
    hconserves.limit.symm.trans hlimit
  have htransmissible : ∀ m ∈ h.accepted,
      m.Transmissible agent.profile.limit := fun m hm =>
    Message.check_eq_ok_iff_transmissible.mp (hcheck m hm)
  refine ⟨htransmissible, fun m hm failure hfailure hr => ?_,
    fun a m hm => ?_, fun a ha => ?_⟩
  · have hok : (atAgent h.state).self.check m = .ok () := by
      rw [Agent.check]
      exact hagent ▸ hcheck m hm
    exact Agent.send_of_check hok failure hr hfailure
  · rw [hconserves.order]
    exact List.mem_append_right _ (mem_outbound_of_tried hm)
  · have hmem : a.message ∈ h.accepted := by
      rw [hconserves.order]
      exact List.mem_append_left _ (List.mem_map_of_mem ha)
    refine ⟨hmem, fun p hp => ?_⟩
    obtain ⟨hgroup, hpayload⟩ := multicasts_of_attempt (hconserves.each a ha) p hp
    rw [hpayload]
    exact ⟨hgroup, (htransmissible _ hmem).legible⟩

/-- A caller's message is refused for a failure of its own exactly if the
relay's agent would refuse it with the same failure, then or at any later
point; being refused leaves the relay, its network and its record as they
were. What is accepted goes out and arrives as it is, as far as that depends on
the message. -/
theorem accepts_what_agent_sends (t : Transport σ) (agent : Agent) (pace : Pace)
    (site : Site σ) (turns more : List (Turn σ)) (message : Message) :
    let h := history t agent pace site turns
    let sending := h.moment (Turn.take t) (.act (.send message))
    let later :=
      history t agent pace site (turns ++ .act (.send message) :: more)
    (∀ failure : Failure,
      (sending.answer = .submitted (.refused failure) ∧ failure.IsOfMessage ↔
        h.state.self.agent.check message = .error failure) ∧
      (h.state.self.agent.check message = .error failure ↔
        later.state.self.agent.check message = .error failure)) ∧
    (∀ failure : Failure,
      sending.answer = .submitted (.refused failure) →
        sending.after = sending.before) ∧
    Transmits t agent.profile.limit later := by
  intro h sending later
  have hlimit : h.state.self.limit = agent.profile.limit := history_limit ..
  have hagent : h.state.self.agent.profile.limit = h.state.self.limit :=
    (conserves_history t agent pace site turns).limit.symm
  have hlater : later.state.self.agent.profile.limit =
      h.state.self.agent.profile.limit := by
    have hconserves : Conserves pace later := conserves_history ..
    rw [hagent, ← hconserves.limit, hlimit]
    exact history_limit ..
  have hsend := fun failure => send_refused_iff message failure h.state
  refine ⟨fun failure => ⟨?_, ?_⟩, fun failure hanswer => ?_,
    transmits_history ..⟩
  · have hanswer : sending.answer = .submitted (.refused failure) ↔
        ((send message).run h.state).1 = .refused failure :=
      Eq.to_iff (Answer.submitted.injEq ..)
    rw [Agent.check, hagent, ← (hsend failure).1, hanswer]
  · rw [Agent.check, Agent.check, hlater]
  · exact (hsend failure).2 (Answer.submitted.inj hanswer)

end Relay

end Courier
