import Courier.Proofs.Network.History
import Courier.Proofs.Relay.Ledger

/-!
# Delivery between relays

Relays that share a hub, and that nobody else disturbs, deliver every message
once and in order. What a relay has accepted is what was passed on for it and
what is still queued; what was passed on to it is what its callers have
received and what is still on its way.
-/

namespace Courier

/-- What callers of a relay can count on. -/
structure Relay.Delivers (n : Chronicle) (r : Relay)
    (accepted received : List Message) : Prop where
  /-- What it has accepted was passed on for it, or is still queued. -/
  sent : (n.sentBy r.agent.session).map (·.delivery.message) ++
    r.outbound.items.map .ok = accepted.map .ok
  /-- What was passed on to it was received by callers, or is queued for them, in
  the worker's hands or in the inbox. -/
  received : (received ++ r.inbound.items ++ r.phase.inHand).map .ok ++
      (n.waiting r.agent.session).map Delivery.message =
    (n.sentTo r.agent.session).map (·.delivery.message)
  failures : r.counters.sendFailures = 0

theorem Relay.Ledger.delivers {n : Chronicle} {r : Relay}
    {accepted received : List Message} (h : Relay.Ledger n r accepted received) :
    Relay.Delivers n r accepted received := by
  obtain ⟨hsent, ⟨taken, hsentTo, htaken⟩, hfailures⟩ := h
  refine ⟨hsent, ?_, hfailures⟩
  rw [← htaken, ← List.map_append, ← hsentTo, List.map_map]
  rfl

namespace Network

def session? {σ : Type} (n : Network Relay σ) (i : Nat) : Option Connection :=
  (n.party? i).bind (·.agent.session)

/-- No two relays have the session of one client. -/
def Apart {σ : Type} (n : Network Relay σ) : Prop :=
  ∀ i j c c', n.session? i = some c → n.session? j = some c' →
    c.address = c'.address → i = j

/-- What relays hold at every point of a history without failed connects. -/
structure Sound (n : Network Relay Chronicle)
    (accepted received : Nat → List Message) : Prop where
  fit : ∀ i r, n.party? i = some r → Relay.Fit n.site.net r
  ledger : ∀ i r, n.party? i = some r →
    Relay.Ledger n.site.net r (accepted i) (received i)
  apart : n.Apart
  known : n.site.net.Known
  whole : n.site.net.Whole

variable {n : Network Relay Chronicle} {i : Nat} {r : Relay}
  {s' : Stage Relay Chronicle} {accepted received : Nat → List Message}
  {accepted' received' : List Message} {result : Relay.Errand.Result}
  {passed : List Passage}

theorem session?_eq (h : n.party? i = some r) :
    n.session? i = r.agent.session := by
  rw [session?, h]
  rfl

theorem Sound.has (h : Sound n accepted received) {c : Connection}
    (hc : n.session? i = some c) : n.site.net.hub.Has c := by
  rw [session?, Option.bind_eq_some_iff] at hc
  obtain ⟨r, hr, hsession⟩ := hc
  exact (h.fit i r hr).has c hsession

theorem session?_after (h : n.party? i = some r) (j : Nat) :
    (n.after i s').session? j =
      if i = j then s'.self.agent.session else n.session? j := by
  rw [session?, party?_after h]
  split <;> rfl

section Moved

variable (h : Sound n accepted received) (hr : n.party? i = some r)
  (hmoved : Relay.Moved { self := r, site := n.site } s' accepted' received'
    result passed)

include hr hmoved

/-- A session after a turn was there before, or its client is new. -/
theorem session_cases {c : Connection} (hc : s'.self.agent.session = some c) :
    n.session? i = some c ∨ c.address ∉ n.site.net.hub.clients := by
  rw [session?_eq hr]
  cases hsession : r.agent.session with
  | none => exact .inr (hmoved.onHub.new c hsession hc)
  | some c' =>
      left
      rw [← hmoved.onHub.kept c' hsession]
      exact hc

include h

/-- The sessions of other relays are not the one that took its turn. -/
theorem Sound.other_address {j : Nat} (hne : i ≠ j) {c c' : Connection}
    (hc : s'.self.agent.session = some c) (hc' : n.session? j = some c') :
    c.address ≠ c'.address := by
  intro heq
  obtain hbefore | hnew := session_cases hr hmoved hc
  · exact hne (h.apart i j c c' hbefore hc' heq)
  · rw [heq] at hnew
    exact hnew (h.has hc').client

theorem Sound.apart_after : (n.after i s').Apart := by
  intro j k c c' hc hc' heq
  rw [session?_after hr] at hc hc'
  by_cases hj : i = j
  · by_cases hk : i = k
    · rw [← hj, ← hk]
    · rw [if_pos hj] at hc
      rw [if_neg hk] at hc'
      exact absurd heq (h.other_address hr hmoved hk hc hc')
  · rw [if_neg hj] at hc
    by_cases hk : i = k
    · rw [if_pos hk] at hc'
      exact absurd heq.symm (h.other_address hr hmoved hj hc' hc)
    · rw [if_neg hk] at hc'
      exact h.apart j k c c' hc hc' heq

theorem Sound.after :
    Sound (n.after i s')
      (fun j => accepted j ++ if i = j then accepted' else [])
      (fun j => received j ++ if i = j then received' else []) := by
  have hfit := h.fit i r hr
  have hshift : n.site.net.Shift s'.site.net s'.self.agent.own
      result.deliveries passed := hmoved.onHub.shift
  refine ⟨fun j r' hr' => ?_, fun j r' hr' => ?_, h.apart_after hr hmoved, ?_,
    hmoved.whole hfit h.whole⟩
  · rw [party?_after hr] at hr'
    by_cases hj : i = j
    · rw [if_pos hj, Option.some.injEq] at hr'
      rw [← hr']
      exact hmoved.fit hfit
    · rw [if_neg hj] at hr'
      exact (h.fit j r' hr').of_shift hshift
  · rw [party?_after hr] at hr'
    by_cases hj : i = j
    · rw [if_pos hj, Option.some.injEq] at hr'
      rw [if_pos hj, if_pos hj, ← hr', ← hj]
      exact (h.ledger i r hr).moved hmoved hfit h.known h.whole
    · rw [if_neg hj] at hr'
      rw [if_neg hj, if_neg hj, List.append_nil, List.append_nil]
      refine (h.ledger j r' hr').of_other hshift fun c hc hown => ?_
      cases hsession : s'.self.agent.session with
      | none => exact hmoved.onHub.idle hsession
      | some c' =>
          rw [Agent.own_eq hsession] at hown
          rw [← session?_eq hr'] at hc
          exact absurd hown.symm (h.other_address hr hmoved hj hsession hc)
  · refine hshift.known (fun hne => ?_) h.known
    cases hsession : s'.self.agent.session with
    | none => exact absurd (hmoved.onHub.idle hsession).2 hne
    | some c =>
        rw [Agent.own_eq hsession]
        exact (hmoved.onHub.has c hsession).client

end Moved

/-! ## All histories -/

def inOutage {σ : Type} (n : Network Relay σ) : Bool :=
  n.parties.any fun party => party.any fun r => r.agent.outage

theorem outage_eq_false (h : n.inOutage = false) (hr : n.party? i = some r) :
    r.agent.outage = false := by
  rw [inOutage, List.any_eq_false] at h
  rw [party?, Option.join_eq_some_iff] at hr
  simpa using h (some r) (List.mem_of_getElem? hr)

theorem Sound.take {h : History Chronicle} {move : Move}
    (hsound : Sound h.state h.accepted h.received)
    (hsteady : move.act.isSteady = true)
    (hconnected : (h.moment (Move.take Chronicle.transport) move).after.inOutage =
      false) :
    Sound (h.moment (Move.take Chronicle.transport) move).after
      (History.accepted (h.take (Move.take Chronicle.transport) move))
      (History.received (h.take (Move.take Chronicle.transport) move)) := by
  rw [funext fun i => h.accepted_take i Chronicle.transport move,
    funext fun i => h.received_take i Chronicle.transport move]
  cases hr : h.state.party? move.party with
  | none =>
      rw [History.moment_of_no_party hr]
      simp only [acceptedAt, receivedAt, Relay.Act.accepted_done,
        Relay.Act.received_done, ite_self, List.append_nil]
      exact hsound
  | some r =>
      have hmoment := History.moment_of_party? (t := Chronicle.transport) hr
      have hperform := Relay.perform_onHub
        (s := { self := r, site := h.state.site }) (hsound.fit _ r hr) hsteady
      unfold Task.Ends at hmoment hperform
      rw [hmoment] at hconnected ⊢
      obtain houtage | ⟨result, passed, hmoved⟩ := hperform
      · have hparty := party?_after hr
          ((Relay.perform Chronicle.transport move.act).run
            { self := r, site := h.state.site }).2 move.party
        rw [if_pos rfl] at hparty
        rw [outage_eq_false hconnected hparty] at houtage
        cases houtage
      · exact hsound.after hr hmoved

/-- A relay before its first turn, whose session is new if it has one. -/
structure Fresh (hub : Hub) (r : Relay) : Prop where
  new : ∃ agent pace, r = Relay.new agent pace
  keepAlive : r.agent.profile.keepAlive = none
  limit : r.agent.profile.limit ≤ hub.limit
  session : ∀ c, r.agent.session = some c →
    hub.Has c ∧ hub.inbox c.address = []

/-- A network of relays before the first turn of any of them. -/
structure Launched (n : Network Relay Hub) : Prop where
  fresh : ∀ i r, n.party? i = some r → Fresh n.site.net r
  apart : n.Apart

/-- The network with a list of what its hub passes on from now on. -/
def chronicled (n : Network Relay Hub) : Network Relay Chronicle :=
  { n with site := { n.site with net := { hub := n.site.net } } }

theorem Launched.sound {n : Network Relay Hub} (h : Launched n) :
    Sound n.chronicled (fun _ => []) (fun _ => []) where
  fit := fun i r hr => by
    obtain ⟨⟨agent, pace, rfl⟩, hkeepAlive, hlimit, hsession⟩ := h.fresh i r hr
    refine ⟨⟨rfl, rfl, rfl, by simp [Relay.new]⟩, hkeepAlive, rfl, hlimit, ?_,
      fun c hc => (hsession c hc).1⟩
    rintro m ⟨⟩
  ledger := fun i r hr => by
    obtain ⟨⟨agent, pace, rfl⟩, -, -, hsession⟩ := h.fresh i r hr
    have hnone : ∀ session, n.chronicled.site.net.sentBy session = [] ∧
        n.chronicled.site.net.sentTo session = [] := by
      intro session
      cases session <;> exact ⟨rfl, rfl⟩
    refine ⟨?_, ⟨[], ?_, rfl⟩, rfl⟩
    · rw [(hnone _).1]
      rfl
    · rw [(hnone _).2, List.map_nil, List.nil_append]
      cases hc : (Relay.new agent pace).agent.session with
      | none => rfl
      | some c => exact (hsession c hc).2.symm
  apart := h.apart
  known := fun p hp => by cases hp
  whole := fun p hp => by cases hp

theorem sound_history {n : Network Relay Chronicle}
    (hn : Sound n (fun _ => []) fun _ => []) {moves : List Move}
    (hsteady : ∀ move ∈ moves, move.act.isSteady = true) :
    let h := history Chronicle.transport n moves
    (∀ m ∈ h.past, m.after.inOutage = false) →
      Sound h.state h.accepted h.received := by
  refine Run.invariant (P := fun h : History Chronicle =>
    (∀ m ∈ h.past, m.after.inOutage = false) →
      Sound h.state h.accepted h.received) (fun _ => hn) ?_
  intro h move hmem hsound hconnected
  refine (hsound fun m hm => ?_).take (hsteady move hmem) ?_
  · exact hconnected m (List.mem_append_left _ hm)
  · exact hconnected _ (List.mem_append_right _ List.mem_cons_self)

/-- Relays stay where they are. -/
theorem isSome_party?_history {σ : Type} (t : Transport σ)
    (n : Network Relay σ) (moves : List Move) (i : Nat) :
    ((history t n moves).state.party? i).isSome = (n.party? i).isSome := by
  refine Run.invariant (P := fun h : History σ =>
    (h.state.party? i).isSome = (n.party? i).isSome) rfl ?_
  intro h move _ ih
  rw [← ih]
  show ((h.moment (Move.take t) move).after.party? i).isSome = _
  cases hr : h.state.party? move.party with
  | none => rw [History.moment_of_no_party hr]
  | some r =>
      have hmoment := History.moment_of_party? (t := t) hr
      unfold Task.Ends at hmoment
      rw [hmoment]
      simp only [party?_after hr]
      split
      · next hi =>
          rw [← hi, hr]
          rfl
      · rfl

/-- What the hub has passed on in a history. -/
def chronicle (n : Network Relay Hub) (moves : List Move) : Chronicle :=
  (history Chronicle.transport n.chronicled moves).state.site.net

/-- What holds of messages between the relays of a network at every point of a
history in which all connects succeed. -/
structure Delivered (n : Network Relay Hub) (chronicle : Chronicle)
    (h : History Hub) : Prop where
  hub : chronicle.hub = h.state.site.net
  whole : chronicle.Whole
  present : ∀ i, (h.state.party? i).isSome = (n.party? i).isSome
  relays : ∀ i r, h.state.party? i = some r →
    Relay.Delivers chronicle r (h.accepted i) (h.received i)

/-- Between relays that share a hub, if every connect succeeds and no session
ends, every message is delivered once and in order: a message that was
accepted is queued or was passed on, and a message that was passed on to a
relay was received, or is queued, in the worker's hands or in the inbox. -/
theorem delivered_in_order {n : Network Relay Hub} {moves : List Move}
    (hlaunched : Launched n)
    (hsteady : ∀ move ∈ moves, move.act.isSteady = true)
    (hconnected : ∀ m ∈ (history Hub.transport n moves).past,
      m.after.inOutage = false) :
    Delivered n (n.chronicle moves) (history Hub.transport n moves) := by
  have hview : history Hub.transport n moves =
      (history Chronicle.transport n.chronicled moves).map
        (view Chronicle.hub) :=
    history_view Chronicle.covers n.chronicled moves
  have hsound := sound_history hlaunched.sound hsteady fun m hm => by
    refine hconnected (m.map (view Chronicle.hub)) ?_
    rw [hview]
    exact List.mem_map_of_mem hm
  refine ⟨?_, hsound.whole, isSome_party?_history _ n moves, fun i r hr => ?_⟩
  · rw [hview]
    rfl
  · rw [hview, History.accepted_map, History.received_map]
    rw [hview] at hr
    exact (hsound.ledger i r hr).delivers

/-- New relays, whose agents have no sessions yet. -/
def launch (hub : Hub) (relays : List (Profile × Pace)) :
    Network Relay Hub where
  parties := relays.map fun (profile, pace) => some (Relay.new { profile } pace)
  site := { net := hub }

theorem launched_launch {hub : Hub} {relays : List (Profile × Pace)}
    (h : ∀ relay ∈ relays,
      relay.1.keepAlive = none ∧ relay.1.limit ≤ hub.limit) :
    Launched (launch hub relays) := by
  have hnew : ∀ i r, (launch hub relays).party? i = some r →
      ∃ relay ∈ relays, r = Relay.new { profile := relay.1 } relay.2 := by
    intro i r hr
    rw [party?, Option.join_eq_some_iff] at hr
    obtain ⟨relay, hmem, hrelay⟩ := List.mem_map.mp (List.mem_of_getElem? hr)
    exact ⟨relay, hmem, (Option.some.inj hrelay).symm⟩
  constructor
  · intro i r hr
    obtain ⟨relay, hmem, rfl⟩ := hnew i r hr
    refine ⟨⟨_, _, rfl⟩, (h relay hmem).1, (h relay hmem).2, ?_⟩
    rintro c ⟨⟩
  · intro i j c c' hc
    rw [session?, Option.bind_eq_some_iff] at hc
    obtain ⟨r, hr, hsession⟩ := hc
    obtain ⟨relay, -, rfl⟩ := hnew i r hr
    cases hsession

/-- One relay sends four messages, and the other has room for one. -/
def backlogMoves (messages : List Message) : List Move :=
  { party := 1, act := .subscribe "news" } ::
    List.replicate 6 { party := 1, act := .work } ++
    messages.map (fun m => { party := 0, act := .send m }) ++
    List.replicate 18 { party := 0, act := .work } ++
    List.replicate 12 { party := 1, act := .work } ++
    { party := 1, act := .receive } ::
      List.replicate 8 { party := 1, act := .work }

/-- Of four messages the first was received, the second is queued, the third is
in the worker's hands and the fourth in the inbox. -/
theorem delivered_in_order_backlog :
    let message := fun text => Message.mk "news" text
    let n := launch { name := "hub" }
      [({ client := "a", keepAlive := none }, {}),
        ({ client := "b", keepAlive := none }, { inbound := 1 })]
    let moves := backlogMoves (["1", "2", "3", "4"].map message)
    let h := history Hub.transport n moves
    h.received 1 = [message "1"] ∧
      (h.state.party? 1).map (·.inbound.items) = some [message "2"] ∧
      (h.state.party? 1).map (·.phase.inHand) = some [message "3"] ∧
      (h.state.site.net.inbox "#b#hub").map Delivery.message =
        [.ok (message "4")] ∧
      Delivered n (n.chronicle moves) h := by
  refine ⟨by decide +kernel, by decide +kernel, by decide +kernel,
    by decide +kernel, delivered_in_order (launched_launch ?_) ?_ ?_⟩
  · decide
  · decide
  · decide +kernel

end Network

end Courier
