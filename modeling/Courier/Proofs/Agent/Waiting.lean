import Courier.Proofs.Agent.Polling
import Mathlib.Algebra.Order.BigOperators.Group.List
import Mathlib.Algebra.Order.Group.Nat

/-!
# What waits for an agent

Deliveries wait for an agent in the inbox of its session, among them those that
it has sent itself. No operation makes many of them. A subscription adds none,
a send adds at most one (`request_waiting`), and a poll takes the first and adds
at most a keep-alive of the agent itself (`poll_receives`).

Keep-alives are not counted (`Agent.waiting`), since an agent that sends them as
often as it polls may find one in place of each that it takes.
-/

namespace Courier

def Delivery.isKeepAlive (d : Delivery) : Bool :=
  d.flags = .empty && keepAlivePayload.isPrefixOf d.payload

/-- How many of the deliveries are no keep-alives. -/
def others (deliveries : List Delivery) : Nat :=
  deliveries.countP (!·.isKeepAlive)

theorem others_append (l l' : List Delivery) :
    others (l ++ l') = others l + others l' :=
  List.countP_append

theorem others_singleton (d : Delivery) :
    others [d] = if d.isKeepAlive then 0 else 1 := by
  rw [others, List.countP_singleton]
  cases d.isKeepAlive <;> rfl

theorem others_le_length (l : List Delivery) : others l ≤ l.length :=
  List.countP_le_length

theorem Hub.length_inbox_le_backlog (h : Hub) (x : String) :
    (h.inbox x).length ≤ h.backlog := by
  have hbacklog : h.backlog =
      (h.clients.toList.map (·.2.inbox.length)).sum := by
    rw [backlog, Std.ExtTreeMap.foldl_eq_foldl_toList, List.sum_eq_foldl,
      List.foldl_map]
  cases hclient : h.clients[x]? with
  | none =>
      rw [inbox_of_notMem (by simpa using hclient)]
      exact Nat.zero_le _
  | some client =>
      have hmem := Std.ExtTreeMap.mem_toList_iff_getElem?_eq_some.mpr hclient
      rw [inbox_of_client hclient, hbacklog]
      exact List.le_sum_of_mem (List.mem_map_of_mem hmem)

namespace Agent

variable {α : Type} {s s' : Stage Agent Hub} {c : Connection} {h : Hub}

/-- How many deliveries that are no keep-alives wait in the agent's session. -/
def waiting (s : Stage Agent Hub) : Nat :=
  match s.self.session with
  | some c => others (s.site.net.inbox c.address)
  | none => 0

theorem waiting_of_session (hsession : s.self.session = some c) :
    waiting s = others (s.site.net.inbox c.address) := by
  rw [waiting, hsession]

theorem waiting_of_none (hnone : s.self.session = none) : waiting s = 0 := by
  rw [waiting, hnone]

theorem isKeepAlive_keepAliveFrom (address : String) :
    (keepAliveFrom address).isKeepAlive = true := by
  show (decide (Flags.empty = .empty) &&
    keepAlivePayload.isPrefixOf keepAlivePayload) = true
  decide

/-! ## Requests -/

theorem inbox_update_of_connected (h : Hub) (groups : Groups) :
    (h.update c { groups }).inbox c.address = [] := by
  rw [Hub.inbox_update, if_pos rfl]

/-- Nothing waits in a session that has just been opened. -/
theorem Connects.waiting_le {r : Except Failure Connection}
    (h : Connects Hub.transport s r s') : waiting s' ≤ waiting s := by
  have hsession := h.session
  cases h with
  | held => exact le_rfl
  | failed =>
      rw [waiting_of_none hsession]
      exact Nat.zero_le _
  | opened _ hsearch =>
      have hchooses := hsearch.chooses
      split at hchooses
      · obtain ⟨hr, groups, -, hnet⟩ := hchooses
        cases hr
        rw [waiting_of_session hsession, hnet, inbox_update_of_connected]
        exact Nat.zero_le _
      · cases hchooses.1

/-- What a call may do to the inbox of its client. -/
def Adds (f : SessionCall Hub α) (n : Nat) : Prop :=
  ∀ c h, (f c h).value.2.address = c.address ∧
    others ((f c h).net.inbox c.address) ≤ others (h.inbox c.address) + n

theorem GivesUp.waiting_le {cause : Fault}
    (h : GivesUp Hub.transport cause s s') : waiting s' ≤ waiting s := by
  cases hends : cause.endsSession with
  | true =>
      rw [waiting_of_none (h.leaves hends).2.1]
      exact Nat.zero_le _
  | false => rw [h.eq_of_harmless hends]

theorem request_waiting {f : SessionCall Hub α} {n : Nat} (hf : Adds f n)
    (failed : Fault → Failure) (s : Stage Agent Hub) :
    Task.Ends (request Hub.transport f failed) s fun _ s' =>
      waiting s' ≤ waiting s + n := by
  have hcalled : ∀ {c s₁}, Connects Hub.transport s (.ok c) s₁ →
      waiting (calledOn c f s₁) ≤ waiting s + n := fun {c s₁} hconnects => by
    obtain ⟨haddress, hinbox⟩ := hf c s₁.site.net
    have hle := hconnects.waiting_le
    rw [waiting_of_session hconnects.session] at hle
    rw [waiting_of_session rfl, haddress]
    exact hinbox.trans (Nat.add_le_add_right hle n)
  refine (request_requests f failed s).imp fun r s' h => ?_
  cases h with
  | unconnected hconnects => exact Nat.le_add_right_of_le hconnects.waiting_le
  | answered hconnects => exact hcalled hconnects
  | refused hconnects _ hgivesUp =>
      exact hgivesUp.waiting_le.trans (hcalled hconnects)

theorem address_of_handles {f : SessionCall Hub α} {change : Groups → Groups}
    (hf : Hub.Handles f change) (c : Connection) (h : Hub) :
    (f c h).value.2.address = c.address := by
  obtain hreached | hmissed := hf c h
  · rw [hreached.connection]
  · rw [hmissed.value]

theorem join_adds (topic : String) : Adds (Hub.transport.join topic) 0 :=
  fun c h => ⟨address_of_handles (Hub.join_handles topic) c h,
    (congrArg others ((Hub.join_regroups topic c h).inbox _)).le⟩

theorem leave_adds (topic : String) : Adds (Hub.transport.leave topic) 0 :=
  fun c h => ⟨address_of_handles (Hub.leave_handles topic) c h,
    (congrArg others ((Hub.leave_regroups topic c h).inbox _)).le⟩

theorem multicast_adds (group : String) (flags : Flags) (payload : Bytes)
    (service : Service) :
    Adds (Hub.transport.multicast group flags payload service) 1 := by
  intro c h
  refine ⟨address_of_handles
    (Hub.multicast_handles group flags payload service) c h, ?_⟩
  by_cases hadmits : h.Admits c group payload
  · rw [show Hub.transport.multicast group flags payload service c h = _ from
      Hub.multicast_accepted hadmits flags service]
    rw [Hub.inbox_pass, others_append]
    refine Nat.add_le_add_left ((others_le_length _).trans ?_) _
    split <;> simp
  · rw [show (Hub.transport.multicast group flags payload service c h).net = h
      from (Hub.multicast_refused hadmits flags service).2]
    exact Nat.le_succ _

theorem subscribe_waiting (topic : String) (s : Stage Agent Hub) :
    Task.Ends (subscribe Hub.transport topic) s fun _ s' =>
      waiting s' ≤ waiting s := by
  simp only [subscribe, Task.ends_bind, Task.ends_change]
  exact request_waiting (join_adds topic) _ _

theorem unsubscribe_waiting (topic : String) (s : Stage Agent Hub) :
    Task.Ends (unsubscribe Hub.transport topic) s fun _ s' =>
      waiting s' ≤ waiting s := by
  simp only [unsubscribe, Task.ends_bind, Task.ends_change]
  exact request_waiting (leave_adds topic) _ _

theorem send_waiting (m : Message) (s : Stage Agent Hub) :
    Task.Ends (send Hub.transport m) s fun _ s' =>
      waiting s' ≤ waiting s + 1 := by
  simp only [send, Task.ends_bind, Task.ends_self]
  split
  · exact Nat.le_succ _
  · simp only [Task.ends_bind]
    refine (request_waiting (multicast_adds _ _ _ .fifo) _ s).imp
      fun r s' h => ?_
    cases r with
    | error failure => exact h
    | ok sent =>
        simp only []
        split <;> exact h

theorem waiting_le_backlog (s : Stage Agent Hub) :
    waiting s ≤ s.site.net.backlog := by
  cases hsession : s.self.session with
  | none =>
      rw [waiting_of_none hsession]
      exact Nat.zero_le _
  | some c =>
      rw [waiting_of_session hsession]
      exact (others_le_length _).trans (Hub.length_inbox_le_backlog _ _)

/-! ## Polls -/

/-- A poll took `d?` out of the inbox of `c`, and all that it may have put there
is a keep-alive. -/
structure Receives (c : Connection) (d? : Option Delivery)
    (s s' : Stage Agent Hub) : Prop where
  session : s'.self.session = some c
  before : s.self.session = some c ∨
    s.self.session = none ∧ s.site.net.inbox c.address = []
  inbox : ∃ rest, s.site.net.inbox c.address = d?.toList ++ rest ∧
    (d? = none → rest = []) ∧
    (s'.site.net.inbox c.address = rest ∨
      s'.site.net.inbox c.address = rest ++ [keepAliveFrom c.address])

theorem poll_receives_of_client {client : Hub.Client} (hopen : c.isOpen = true)
    (hsession : s.self.session = some c)
    (hclient : s.site.net.clients[c.address]? = some client) :
    Task.Ends (poll Hub.transport) s fun r s' =>
      ∃ d?, r = .ok d? ∧ Receives c d? s s' := by
  refine (poll_of_client hopen hsession hclient).imp fun r s' h => ?_
  obtain ⟨rfl, hrefreshed⟩ := h
  refine ⟨_, rfl, hrefreshed.session, .inl hsession, client.inbox.tail, ?_, ?_, ?_⟩
  · rw [Hub.inbox_of_client hclient]
    cases client.inbox <;> rfl
  · rw [List.head?_eq_none_iff]
    intro hnil
    rw [hnil, List.tail_nil]
  · obtain hnet | hnet := hrefreshed.net
    · rw [hnet, Hub.inbox_update, if_pos rfl]
      exact .inl rfl
    · rw [hnet, Hub.inbox_pass, Hub.inbox_update, if_pos rfl]
      split
      · exact .inr rfl
      · exact .inl (List.append_nil _)

theorem Receives.of_same {d? : Option Delivery} {s₂ : Stage Agent Hub}
    (h : Receives c d? s s') (hself : s₂.self = s'.self)
    (hnet : s₂.site.net = s'.site.net) : Receives c d? s s₂ :=
  ⟨hself ▸ h.session, h.before, hnet ▸ h.inbox⟩

theorem Receives.nothing (h : Receives c none s s') :
    s.site.net.inbox c.address = [] ∧
      (s'.site.net.inbox c.address = [] ∨
        s'.site.net.inbox c.address = [keepAliveFrom c.address]) := by
  obtain ⟨rest, hinbox, hrest, hafter⟩ := h.inbox
  obtain rfl := hrest rfl
  exact ⟨hinbox, hafter⟩

/-- Counting no keep-alives, what a poll took is what is missing. -/
theorem Receives.waits {d? : Option Delivery} (h : Receives c d? s s') :
    waiting s' + others d?.toList = waiting s := by
  obtain ⟨rest, hinbox, -, hafter⟩ := h.inbox
  have hrest : waiting s' = others rest := by
    rw [waiting_of_session h.session]
    obtain hafter | hafter := hafter
    · rw [hafter]
    · rw [hafter, others_append, others_singleton,
        if_pos (isKeepAlive_keepAliveFrom _), Nat.add_zero]
  have hall : others (s.site.net.inbox c.address) =
      others d?.toList + others rest := by
    rw [hinbox, others_append]
  obtain hsession | ⟨hnone, hempty⟩ := h.before
  · rw [waiting_of_session hsession, hall, hrest, Nat.add_comm]
  · rw [hempty] at hall
    rw [waiting_of_none hnone, hrest, Nat.add_comm, ← hall]
    rfl

/-- Nothing waits under a name that was free. -/
theorem Connected.poll_receives {s₁ : Stage Agent Hub}
    (hconnected : Connected c s s₁) (hnone : s.self.session = none)
    (hopen : c.isOpen = true) (hfree : c.address ∉ s.site.net.clients) :
    Task.Ends (poll Hub.transport) s₁ fun r s' =>
      ∃ d?, r = .ok d? ∧ Receives c d? s s' := by
  obtain ⟨groups, -, hnet⟩ := hconnected.net
  have hempty : s₁.site.net.inbox c.address = [] := by
    rw [hnet, inbox_update_of_connected]
  have hclient : s₁.site.net.clients[c.address]? = some { groups } := by
    rw [hnet, Hub.client_update]
  refine (poll_receives_of_client hopen (by rw [hconnected.self]) hclient).imp
    fun r s' h => ?_
  obtain ⟨d?, hr, hreceives⟩ := h
  refine ⟨d?, hr, hreceives.session,
    .inr ⟨hnone, Hub.inbox_of_notMem hfree⟩, ?_⟩
  obtain ⟨rest, hinbox, hrest, hafter⟩ := hreceives.inbox
  rw [hempty] at hinbox
  exact ⟨rest, by rw [← hinbox, Hub.inbox_of_notMem hfree], hrest, hafter⟩

theorem poll_receives (s : Stage Agent Hub) :
    Task.Ends (poll Hub.transport) s fun r s' =>
      match r with
      | .ok d? => ∃ c, Receives c d? s s'
      | .error _ => s'.self.session = none := by
  cases hsession : s.self.session with
  | some c =>
      by_cases hhas : s.site.net.Has c
      · obtain ⟨client, hclient⟩ := hhas.exists_client
        refine (poll_receives_of_client hhas.isOpen hsession hclient).imp
          fun r s' h => ?_
        obtain ⟨d?, rfl, hreceives⟩ := h
        exact ⟨c, hreceives⟩
      · refine (poll_of_stale hsession hhas).imp fun r s' h => ?_
        obtain ⟨rfl, hself, -⟩ := h
        show s'.self.session = none
        rw [hself]
  | none =>
      cases hchoose : s.site.net.choose s.self.profile.address
          s.self.profile.client with
      | error cause =>
          have hunconnected : ∀ {c s₁},
              ¬ Connects Hub.transport s (.ok c) s₁ := fun hconnects => by
            have hchooses := hconnects.chooses hsession
            rw [hchoose] at hchooses
            cases hchooses.1
          simp only [poll, Task.ends_bind]
          refine (request_requests _ _ s).imp fun r s₁ h => ?_
          cases h with
          | unconnected hconnects => exact hconnects.session
          | answered hconnects | refused hconnects =>
              exact absurd hconnects hunconnected
      | ok c =>
          obtain ⟨s₁, hconnected, hrun⟩ := poll_of_choose hsession hchoose
          have hreceives := hconnected.poll_receives hsession
            (Hub.isOpen_of_choose hchoose) (Hub.notMem_of_choose hchoose)
          refine (hreceives.of_run_eq hrun).imp fun r s' h => ?_
          obtain ⟨d?, rfl, hreceives⟩ := h
          exact ⟨c, hreceives⟩

end Agent

end Courier
