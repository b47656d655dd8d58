import Courier.Proofs.Agent.OnHub
import Courier.Proofs.Relay.Inbound
import Courier.Proofs.Relay.Outbound

/-!
# What a relay does on a hub

A relay is fit for a hub if nobody has told it to stop, its agent's session is
one that the hub has, and its messages are no longer than the hub takes. A
turn of a fit relay leaves it fit, unless a connect fails in it. What the turn
takes out of the inbox is what the worker read, and what it has passed on is
what the worker took out of the outbound queue.
-/

namespace Courier

namespace Relay

variable {s s' : Stage Relay Chronicle}

/-- Acts that do not end the agent's session. -/
def Act.isSteady : Act → Bool
  | .setAddress _ | .setClient _ => false
  | a => a.isCalm

theorem Act.isCalm_of_isSteady {a : Act} (ha : a.isSteady = true) :
    a.isCalm = true := by
  cases a <;> first | exact ha | rfl

/-! ## Errands -/

/-- Errands that do not end the agent's session. -/
def Errand.isSteady : Errand → Bool
  | .setAddress _ | .setClient _ | .disconnect => false
  | _ => true

theorem workErrand_isSteady {r : Relay} (hcalm : Calm r) :
    (workErrand r).isSteady = true := by
  rw [workErrand]
  split
  · rw [hcalm.stopping, hcalm.killRequested]
    rfl
  · split <;> rfl
  · rfl
  · split <;> rfl
  · rfl

theorem errand_isSteady {r : Relay} {a : Act} (ha : a.isSteady = true)
    (hcalm : Calm r) : (errand r a).isSteady = true := by
  cases a with
  | work => exact workErrand_isSteady hcalm
  | setAddress | setClient => cases ha
  | _ => rfl

theorem Errand.run_onHub {e : Errand} {s : Stage Agent Chronicle}
    (hs : Agent.Settled s) (he : e.isSteady = true)
    (hchecked : ∀ m ∈ e.tried, s.self.check m = .ok ())
    (hlimit : s.self.profile.limit ≤ s.site.net.hub.limit) :
    Task.Ends (e.run Chronicle.transport) s fun result s' =>
      s'.self.outage = true ∨ result.lost = 0 ∧ ∃ passed,
        Agent.OnHub s s' result.deliveries passed ∧
          passed.map Passage.delivery =
            result.tried.map fun m => m.sentFrom s'.self.own := by
  cases e with
  | setAddress | setClient | disconnect => cases he
  | none => exact .inr ⟨rfl, [], .refl hs, rfl⟩
  | askAddress =>
      simp only [run, Task.ends_map]
      refine (Agent.address_onHub hs).imp fun _ s' h => ?_
      exact h.imp_right fun h => ⟨rfl, [], h, rfl⟩
  | subscribe topic =>
      simp only [run, Task.ends_map]
      refine (Agent.subscribe_onHub hs topic).imp fun _ s' h => ?_
      exact h.imp_right fun h => ⟨rfl, [], h, rfl⟩
  | unsubscribe topic =>
      simp only [run, Task.ends_map]
      refine (Agent.unsubscribe_onHub hs topic).imp fun _ s' h => ?_
      exact h.imp_right fun h => ⟨rfl, [], h, rfl⟩
  | poll =>
      simp only [run, Task.ends_map]
      refine (Agent.poll_onHub hs).imp fun _ s' h => ?_
      obtain houtage | ⟨d?, rfl, hon⟩ := h
      · exact .inl houtage
      · exact .inr ⟨rfl, [], hon, rfl⟩
  | send m =>
      simp only [run, Task.ends_map]
      refine (Agent.send_onHub hs (hchecked m ?_) hlimit).imp fun _ s' h => ?_
      · exact List.mem_singleton_self m
      · obtain houtage | ⟨rfl, p, hp, hon⟩ := h
        · exact .inl houtage
        · exact .inr ⟨rfl, [p], hon, congrArg (fun d => [d]) hp⟩

/-! ## Turns -/

/-- A relay that can go on with its work on a hub. -/
structure Fit (n : Chronicle) (r : Relay) : Prop where
  calm : Calm r
  keepAlive : r.agent.profile.keepAlive = none
  limit : r.limit = r.agent.profile.limit
  room : r.limit ≤ n.hub.limit
  checked : ∀ m ∈ r.outbound.items, m.check r.limit = .ok ()
  has : ∀ c, r.agent.session = some c → n.hub.Has c

theorem Fit.check_eq_ok {n : Chronicle} {r : Relay} (h : Fit n r) {m : Message}
    (hm : m ∈ r.outbound.items) : r.agent.check m = .ok () := by
  rw [Agent.check, ← h.limit]
  exact h.checked m hm

/-- What others take and have passed on leaves a relay fit. -/
theorem Fit.of_shift {n n' : Chronicle} {r : Relay} {own : String}
    {taken : List Delivery} {passed : List Passage} (h : Fit n r)
    (hshift : n.Shift n' own taken passed) : Fit n' r where
  calm := h.calm
  keepAlive := h.keepAlive
  limit := h.limit
  room := by
    rw [hshift.limit]
    exact h.room
  checked := h.checked
  has := fun c hc => hshift.has (h.has c hc)

/-- What a turn moves between the queues of a relay and the hub. -/
structure Moved (s s' : Stage Relay Chronicle)
    (accepted received : List Message) (result : Errand.Result)
    (passed : List Passage) : Prop where
  outgoing : Outgoing s.self s'.self accepted result
  incoming : Incoming s.self s'.self received result
  onHub : Agent.OnHub (atAgent s) (atAgent s') result.deliveries passed
  sent : passed.map Passage.delivery =
    result.tried.map fun m => m.sentFrom s'.self.agent.own
  lost : result.lost = 0

theorem perform_onHub {a : Act} (hfit : Fit s.site.net s.self)
    (ha : a.isSteady = true) :
    Task.Ends (perform Chronicle.transport a) s fun answer s' =>
      s'.self.agent.outage = true ∨ ∃ result passed,
        Moved s s' (a.accepted answer) (a.received answer) result passed := by
  have hsettled : Agent.Settled (atAgent s) := ⟨hfit.has, hfit.keepAlive⟩
  have hturned := perform_turned Chronicle.transport a s
  have herrand := Errand.run_onHub hsettled (errand_isSteady ha hfit.calm)
    (fun m hm => hfit.check_eq_ok (mem_outbound_of_tried hm))
    (hfit.limit ▸ hfit.room)
  unfold Task.Ends at hturned herrand
  obtain ⟨r', hturned, hleaves⟩ := hturned
  obtain houtage | ⟨hlost, passed, hon, hsent⟩ := herrand
  · left
    rw [hleaves.agent]
    exact houtage
  · right
    refine ⟨_, passed, ?_, ?_, ?_, ?_, hlost⟩
    · rw [hleaves.self]
      exact hturned.outgoing.withAgent _
    · rw [hleaves.self]
      exact (hturned.incoming (Act.isCalm_of_isSteady ha) hfit.calm).withAgent _
    · exact hon.of_end hleaves.agent hleaves.net
    · rw [hleaves.agent]
      exact hsent

end Relay

end Courier
