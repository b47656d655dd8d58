import Courier.Proofs.Network.Commands
import Courier.Proofs.Relay.WayOut

/-!
# Relays that have stopped

The worker of a relay ends the session before it goes, and only the worker
needs one. But callers reach the agent past the worker. They can still rename
it, which ends a session at most, and they can still ask for its address, for
which it connects. Nobody polls such a session, and nobody ends it
(`stopped_relay_reconnects`).

A client of the hub is its opener's: the relay in whose turn it came to be
there. Whoever opens a client carries it, and whoever stops carrying a client
takes it along. So a relay without a session has no client at the hub, and if
nobody has been told its address since, a relay that has stopped has neither
(`stopped_relay_holds_no_session`).
-/

namespace Courier

namespace Agent

variable {σ : Type}

/-- An agent that tells its address is in a session, and one that cannot tell
it is in none. -/
theorem address_session (t : Transport σ) (s : Stage Agent σ) :
    Task.Ends (address t) s fun r s' => s'.self.session.isSome = r.isOk := by
  simp only [address, Task.ends_bind, Task.ends_pure]
  refine (connect_connects s).imp fun r s' h => ?_
  rw [h.session]
  cases r <;> rfl

end Agent

namespace Relay

variable {σ : Type} {r : Relay} {a : Act}

/-! ## After the last turn of a worker -/

/-- Is this the address of a session? -/
def Answer.tellsAddress : Answer → Bool
  | .address (.ok _) => true
  | _ => false

/-- The callers' errands that reach the agent. -/
def Act.reachesAgent : Act → Bool
  | .setAddress _ | .setClient _ | .askAddress => true
  | _ => false

theorem errand_of_stopped (hstopped : r.isStopped = true)
    (ha : a.reachesAgent = false) : errand r a = .none := by
  have hphase : r.phase = .stopped := of_decide_eq_true hstopped
  cases a with
  | work => rw [errand, workErrand, hphase]
  | setAddress | setClient | askAddress => cases ha
  | _ => rfl

/-- Once the worker has gone and the session has ended, a session is opened only
for a caller who is told its address. -/
theorem perform_sessionless (t : Transport σ) (a : Act) {s : Stage Relay σ}
    (hstopped : s.self.isStopped = true)
    (hnone : s.self.agent.session = none) :
    Task.Ends (perform t a) s fun answer s' =>
      answer.tellsAddress = false → s'.self.agent.session = none := by
  cases ha : a.reachesAgent with
  | false =>
      have hturned := perform_turned t a s
      rw [errand_of_stopped hstopped ha] at hturned
      unfold Task.Ends at hturned ⊢
      obtain ⟨r', -, hleaves⟩ := hturned
      exact fun _ => hleaves.agent ▸ hnone
  | true =>
      cases a with
      | askAddress =>
          simp only [perform, address, Task.ends_map, ends_byAgent]
          refine (Agent.address_session t _).imp fun result s' h => ?_
          intro hunasked
          cases result with
          | ok address => cases hunasked
          | error failure =>
              refine Option.not_isSome_iff_eq_none.mp ?_
              rw [h]
              exact Bool.false_ne_true
      | setAddress address =>
          simp only [perform, setAddress, Agent.setAddress, Task.ends_map,
            ends_byAgent, Task.ends_bind, Task.ends_self]
          split
          · simp only [Task.ends_bind, Task.ends_change]
            exact (Agent.disconnect_session t _).imp fun _ _ h _ => h
          · exact fun _ => hnone
      | setClient client =>
          simp only [perform, setClient, Agent.setClient, Task.ends_map,
            ends_byAgent, Task.ends_bind, Task.ends_self]
          split
          · simp only [Task.ends_bind, Task.ends_change]
            exact (Agent.disconnect_session t _).imp fun _ _ h _ => h
          · exact fun _ => hnone
      | _ => cases ha

end Relay

namespace Network

/-! ## Who opened a client -/

def opensAt (x : String)
    (m : Moment (Network Relay Hub) Occasion Relay.Answer) : Bool :=
  !m.before.site.net.clients.contains x && m.after.site.net.clients.contains x

/-- The occasion on which a client was last opened. -/
def Proceedings.opener? (run : Proceedings) (x : String) : Option Occasion :=
  (run.past.filter (opensAt x)).getLast?.map Moment.turn

/-- The client is at the hub, and it was opened in a turn of the relay. -/
def Proceedings.IsClientOf (run : Proceedings) (x : String) (i : Nat) : Prop :=
  x ∈ run.state.site.net.addresses ∧
    ∃ a, run.opener? x = some (.act i a)

theorem Proceedings.opener?_take (run : Proceedings) (o : Occasion)
    (x : String) :
    opener? (run.take Occasion.take o) x =
      if opensAt x (run.moment Occasion.take o) then some o
      else run.opener? x := by
  rw [opener?, Run.take, List.filter_append, List.filter_cons,
    List.filter_nil]
  split
  · rw [List.getLast?_append]
    rfl
  · rw [List.append_nil]
    rfl

section Carried

variable {n : Network Relay Hub} {i : Nat}

/-- What a relay does, its agent does, and no other holder of a connection. -/
theorem moved_act (a : Relay.Act) :
    Moved (.agent i) n.agents ((Occasion.act i a).take.run n).2.agents := by
  simp only [Occasion.take, StateT.run]
  cases hr : n.party? i with
  | none =>
      rw [act_of_no_party hr]
      exact ⟨fun _ _ => rfl, fun _ _ => rfl, .of_same (fun _ => rfl) _⟩
  | some r =>
      have hact := act_of_party? hr (Relay.perform Hub.transport a)
      have hturned := Relay.perform_turned Hub.transport a
        { self := r, site := n.site }
      have hkept := Agent.run_kept (Relay.errand r a)
        { self := r.agent, site := n.site }
      unfold Task.Ends at hact hturned hkept
      obtain ⟨r', -, hleaves⟩ := hturned
      rw [hact, Option.getD_some]
      generalize StateT.run (Relay.perform Hub.transport a) _ = ended
        at hleaves ⊢
      obtain ⟨answer, s'⟩ := ended
      have hparty : ∀ j, (n.after i s').agents.party? j =
          if i = j then some s'.self.agent else n.agents.party? j := fun j => by
        rw [party?_agents, party?_after hr, party?_agents]
        split <;> rfl
      refine .of_agent hparty rfl ?_
      rw [party?_agents, hr, Option.map_some, Option.bind_some,
        Option.bind_some, hleaves.agent]
      show n.site.net.Spares s'.site.net _ _
      rw [hleaves.net]
      exact hkept.2.spares

/-- Nothing else happens to a relay, but that it may come. -/
theorem party?_take {o : Occasion} (ho : ∀ a, o ≠ .act i a) :
    (o.take.run n).2.party? i = n.party? i ∨
      n.party? i = none ∧ ∃ profile pace,
        (o.take.run n).2.party? i = some (Relay.new { profile } pace) := by
  cases o with
  | enter profile pace =>
      have hadd := party?_add n (Relay.new { profile } pace) i
      by_cases hi : n.parties.length = i
      · rw [if_pos hi] at hadd
        exact .inr ⟨party?_of_length_le (Nat.le_of_eq hi), _, _, hadd⟩
      · rw [if_neg hi] at hadd
        exact .inl hadd
  | act j a =>
      have hj : j ≠ i := fun hj => ho a (hj ▸ rfl)
      simp only [Occasion.take, StateT.run]
      cases hr : n.party? j with
      | none =>
          rw [act_of_no_party hr]
          exact .inl rfl
      | some r =>
          have hact := act_of_party? hr (Relay.perform Hub.transport a)
          unfold Task.Ends at hact
          rw [hact, Option.getD_some, party?_after hr, if_neg hj]
          exact .inl rfl
  | line | refuse | dropAll | inject => exact .inl rfl

theorem carried?_take {o : Occasion} (ho : ∀ a, o ≠ .act i a) {x : String}
    (hx : n.agents.carried? (.agent i) = some x) :
    (o.take.run n).2.agents.carried? (.agent i) = some x := by
  rw [carried?, party?_agents] at hx ⊢
  obtain hsame | ⟨hnone, -⟩ := party?_take (n := n) ho
  · rw [hsame]
    exact hx
  · rw [hnone] at hx
    cases hx

end Carried

/-- A relay carries the clients that it has opened. -/
def Proceedings.Carries (run : Proceedings) (i : Nat) : Prop :=
  ∀ x, run.IsClientOf x i → run.state.agents.carried? (.agent i) = some x

theorem opensAt_iff {x : String}
    {m : Moment (Network Relay Hub) Occasion Relay.Answer} :
    opensAt x m = true ↔
      x ∉ m.before.site.net.clients ∧ x ∈ m.after.site.net.clients := by
  rw [opensAt, Bool.and_eq_true, Bool.not_eq_true', ← Bool.not_eq_true,
    Std.ExtTreeMap.mem_iff_contains, Std.ExtTreeMap.mem_iff_contains]

theorem groups?_of_not_mem {h : Hub} {x : String} (hx : x ∉ h.clients) :
    h.groups? x = none := by
  rw [Option.eq_none_iff_forall_ne_some]
  exact fun groups hgroups => hx (Hub.exists_groups?_iff.mp ⟨groups, hgroups⟩)

/-- A client that is still there after a turn of the relay, and that it opened
or carried before, it carries. -/
theorem carried?_of_moved {n n' : Network Agent Hub} {i : Nat} {x : String}
    (hm : Moved (.agent i) n n') (hafter : x ∈ n'.site.net.clients)
    (hbefore : x ∉ n.site.net.clients ∨ n.carried? (.agent i) = some x) :
    n'.carried? (.agent i) = some x := by
  by_contra hnot
  obtain ⟨groups, hgroups⟩ := Hub.exists_groups?_iff.mpr hafter
  obtain hgone | ⟨hsame, hother⟩ := hm.spares x hnot
  · rw [hgone] at hgroups
    cases hgroups
  · obtain hnew | hcarried := hbefore
    · rw [hsame, groups?_of_not_mem hnew] at hgroups
      cases hgroups
    · exact hother hcarried

theorem Proceedings.Carries.take {run : Proceedings} {i : Nat}
    (h : run.Carries i) (o : Occasion) :
    Proceedings.Carries (run.take Occasion.take o) i := by
  rintro x ⟨hclient, a, hopener⟩
  have hafter : x ∈ (o.take.run run.state).2.site.net.clients :=
    Std.ExtTreeMap.mem_keys.mp hclient
  rw [Proceedings.opener?_take] at hopener
  split at hopener
  · next hopens =>
      obtain rfl := Option.some.inj hopener
      exact carried?_of_moved (moved_act a) hafter
        (.inl (opensAt_iff.mp hopens).1)
  · next hopens =>
      have hbefore : x ∈ run.state.site.net.clients := by
        by_contra hnew
        exact hopens (opensAt_iff.mpr ⟨hnew, hafter⟩)
      have hcarried := h x ⟨Std.ExtTreeMap.mem_keys.mpr hbefore, a, hopener⟩
      by_cases ho : ∃ a', o = .act i a'
      · obtain ⟨a', rfl⟩ := ho
        exact carried?_of_moved (moved_act a') hafter (.inr hcarried)
      · exact carried?_take (not_exists.mp ho) hcarried

/-- Whoever opens a client carries it for as long as it is at the hub. -/
theorem proceed_carries (name : String) (limit : Nat)
    (occasions : List Occasion) (i : Nat) :
    (proceed name limit occasions).Carries i := by
  refine Run.invariant (P := fun run => Proceedings.Carries run i) ?_
    fun run o _ h => h.take o
  rintro x ⟨hclient, -⟩
  simp [quiet, Hub.addresses] at hclient

/-! ## Relays that have stopped -/

/-- Is a caller of a relay told its address, though the worker has gone? -/
def reconnectsAt (i : Nat)
    (m : Moment (Network Relay Hub) Occasion Relay.Answer) : Bool :=
  (m.turn.actAt? i).isSome && m.answer.tellsAddress &&
    (m.before.party? i).any Relay.isStopped

def Ended (n : Network Relay Hub) (i : Nat) : Prop :=
  ∀ r, n.party? i = some r → r.isStopped = true → r.agent.session = none

theorem moment_of_act {run : Proceedings} {i : Nat} {r : Relay}
    (hr : run.state.party? i = some r) (a : Relay.Act) :
    Task.Ends (Relay.perform Hub.transport a)
      { self := r, site := run.state.site } fun answer s =>
        run.moment Occasion.take (.act i a) =
          { before := run.state, turn := .act i a, answer,
            after := run.state.after i s } := by
  have hact := act_of_party? hr (Relay.perform Hub.transport a)
  unfold Task.Ends at hact ⊢
  simp only [Run.moment, Occasion.take, StateT.run] at hact ⊢
  rw [hact, Option.getD_some]

theorem Ended.take {run : Proceedings} {i : Nat} (h : Ended run.state i)
    (o : Occasion)
    (ho : reconnectsAt i (run.moment Occasion.take o) = false) :
    Ended (run.take Occasion.take o).state i := by
  intro r' hr' hstopped'
  by_cases hact : ∃ a, o = .act i a
  · obtain ⟨a, rfl⟩ := hact
    rw [Run.take] at hr'
    cases hr : run.state.party? i with
    | none =>
        simp only [Run.moment, Occasion.take, StateT.run, act_of_no_party hr,
          Option.getD_none, hr] at hr'
        cases hr'
    | some r =>
        let s : Stage Relay Hub := { self := r, site := run.state.site }
        have hmoment := moment_of_act hr a
        have hstops : r.isStopped = false → _ :=
          Relay.perform_stops Hub.transport a (s := s)
        have hkeeps : r.isStopped = true → r.agent.session = none → _ :=
          Relay.perform_sessionless Hub.transport a (s := s)
        have hsession := Agent.disconnect_session Hub.transport
          (Relay.atAgent s)
        unfold Task.Ends at hmoment hstops hkeeps hsession
        rw [hmoment, party?_after hr, if_pos rfl] at hr'
        obtain rfl := Option.some.inj hr'
        cases hstopped : r.isStopped with
        | false =>
            obtain ⟨-, hagent, -⟩ := hstops hstopped hstopped'
            exact hagent ▸ hsession
        | true =>
            refine hkeeps hstopped (h r hr hstopped) ?_
            rw [hmoment] at ho
            simpa [reconnectsAt, Occasion.actAt?, hr, hstopped] using ho
  · obtain hsame | ⟨-, profile, pace, hnew⟩ :=
      party?_take (n := run.state) (not_exists.mp hact)
    · exact h r' (hsame.symm.trans hr') hstopped'
    · obtain rfl := Option.some.inj (hnew.symm.trans hr')
      cases hstopped'

theorem proceed_ended (name : String) (limit : Nat) (occasions : List Occasion)
    (i : Nat)
    (h : ∀ m ∈ (proceed name limit occasions).past,
      reconnectsAt i m = false) :
    Ended (proceed name limit occasions).state i := by
  refine Run.invariant (P := fun run =>
    (∀ m ∈ run.past, reconnectsAt i m = false) → Ended run.state i) ?_
    (fun run o _ hrun hpast => ?_) h
  · intro _ r hr
    cases hr
  · obtain ⟨hpast, hlast⟩ := List.forall_mem_append.mp hpast
    exact (hrun hpast).take o (hlast _ List.mem_cons_self)

/-- Once its worker has gone, a relay holds no session and has no client at the
hub, if none of its callers has been told its address since. -/
theorem stopped_relay_holds_no_session (name : String) (limit : Nat)
    (occasions : List Occasion) (i : Nat) (r : Relay)
    (hr : (proceed name limit occasions).state.party? i = some r)
    (hstopped : r.isStopped = true)
    (hunasked : ∀ m ∈ (proceed name limit occasions).past,
      reconnectsAt i m = false) :
    r.agent.isConnected = false ∧
      ∀ x, ¬ (proceed name limit occasions).IsClientOf x i := by
  have hnone := proceed_ended name limit occasions i hunasked r hr hstopped
  refine ⟨by rw [Agent.isConnected, hnone]; rfl, fun x hx => ?_⟩
  have hcarried := proceed_carries name limit occasions i x hx
  rw [carried?, party?_agents, hr, Option.map_some, Option.bind_some,
    Agent.own?_of_no_session hnone] at hcarried
  cases hcarried

/-- A relay is stopped while it is in a session. -/
def stopped : List Occasion :=
  .enter { client := "relay" } {} :: List.replicate 5 (.act 0 .work) ++
    [.act 0 .kill, .act 0 .work, .act 0 .work]

/-- Calls on a relay that has stopped. It is renamed, and asked for its address
in vain. -/
def recalled : List Occasion :=
  stopped ++ [.act 0 (.setClient "crate"), .act 0 (.subscribe "news"),
    .act 0 .receive, .refuse true, .act 0 .askAddress, .refuse false,
    .act 0 .kill]

theorem stopped_relay_holds_no_session_recalled :
    ∃ run r, run = proceed "hub" 100 recalled ∧
      (∃ m ∈ run.past, m.turn = .act 0 .work ∧ opensAt "#relay#hub" m = true) ∧
      run.state.party? 0 = some r ∧ r.isStopped = true ∧
      r.agent.isConnected = false ∧ ∀ x, ¬ run.IsClientOf x 0 := by
  obtain ⟨run, hrun⟩ : ∃ run, run = proceed "hub" 100 recalled := ⟨_, rfl⟩
  obtain ⟨r, hr⟩ : ∃ r, run.state.party? 0 = some r :=
    Option.isSome_iff_exists.mp (by rw [hrun]; decide +kernel)
  have hstopped : (run.state.party? 0).any Relay.isStopped = true := by
    rw [hrun]
    decide +kernel
  rw [hr, Option.any_some] at hstopped
  have hunasked : ∀ m ∈ (proceed "hub" 100 recalled).past,
      reconnectsAt 0 m = false := by decide +kernel
  have hopens : ∃ m ∈ run.past, m.turn = .act 0 .work ∧
      opensAt "#relay#hub" m = true := by
    rw [hrun]
    exact ⟨_, .tail _ (.tail _ (.tail _ (.tail _ (.head _)))), rfl,
      by decide +kernel⟩
  have h := stopped_relay_holds_no_session "hub" 100 recalled 0 r (hrun ▸ hr)
    hstopped hunasked
  rw [← hrun] at h
  exact ⟨run, r, hrun, hopens, hr, hstopped, h⟩

/-- A caller asks a relay that has stopped for its address, and the relay is in
a session again. -/
theorem stopped_relay_reconnects :
    let before := proceed "hub" 100 stopped
    let after := proceed "hub" 100 (stopped ++ [.act 0 .askAddress])
    (before.state.party? 0).map (fun r => (r.isStopped, r.agent.session)) =
        some (true, none) ∧
      before.state.site.net.addresses = [] ∧
      (after.state.party? 0).map (fun r => (r.isStopped, r.agent.session)) =
        some (true, some { address := "#relay#hub" }) ∧
      after.IsClientOf "#relay#hub" 0 := by
  refine ⟨by decide +kernel, by decide +kernel, by decide +kernel,
    by decide +kernel, .askAddress, ?_⟩
  rw [proceed, Run.of_concat, Proceedings.opener?_take, if_pos]
  decide +kernel

end Network

end Courier
