import Courier.Proofs.Agent.Waiting
import Courier.Proofs.Relay.Worker

/-!
# The worker comes to rest

A worker makes work for itself: what it sends to a topic of its own comes back
as a delivery, and so do the keep-alives, of which there may be one at each
poll. That it goes to sleep all the same is a matter of counting. A message in
the outbound queue counts twice, since there may be a delivery in its place when
it is sent. A keep-alive counts nothing, but it cannot be taken in without a
place in the inbound queue, and while nobody receives there are fewer and fewer
of these. So what is `pending` gets less in each iteration that is not the last,
and `rank` gets less with each step.

Before the worker goes to sleep without being held up, its last iteration has
found nothing anywhere (`Stepped.before`), and a keep-alive of its own is all
that can have come up since.

The number of steps is bounded by what is there to be done, and so a worker that
is let go on with as much fuel is not cut short (`settle_rests`).
-/

namespace Courier

/-- From a keep-alive a message is made at once. -/
theorem Reading.isKeepAlive_of_nothing {r : Reading} {d : Delivery}
    (hnone : (r.take d).messages = []) : d.isKeepAlive = false := by
  refine Bool.eq_false_iff.mpr fun hkeep => ?_
  simp only [Delivery.isKeepAlive, Bool.and_eq_true, decide_eq_true_eq] at hkeep
  obtain ⟨hflags, hprefix⟩ := hkeep
  have hunmarked : Piece.ofFlags? .empty = none := by decide
  simp only [take, takeOther, hflags, hunmarked, hprefix, if_true] at hnone
  exact List.append_ne_nil_of_right_ne_nil _ (List.cons_ne_nil _ _) hnone

/-- How many steps a worker takes at most before it rests, if so much is
pending. In a busy iteration something comes off that. -/
def Phase.ahead (pending : Nat) : Phase → Nat
  | .starting => 5 * pending + 7
  | .checking => 5 * pending + 6
  | .commanding => 5 * pending + 5
  | .polling busy => 5 * (pending + busy.toNat) + 4
  | .delivering _ => 5 * pending + 3
  | .sending busy => 5 * (pending + busy.toNat) + 2
  | .blocked _ | .idling | .stopped => 0

/-- The same for a worker that knows that it is to stop. -/
def Phase.toStop : Phase → Nat
  | .commanding => 5
  | .polling _ => 4
  | .delivering _ => 3
  | .starting | .sending _ => 2
  | .checking => 1
  | .blocked _ | .idling | .stopped => 0

theorem Phase.ahead_le (phase : Phase) (pending : Nat) :
    phase.ahead pending ≤ 5 * pending + 9 := by
  cases phase with
  | polling busy | sending busy =>
      have hbusy := busy.toNat_le
      simp only [ahead]
      omega
  | _ => simp only [ahead]; omega

theorem Phase.toStop_le (phase : Phase) : phase.toStop ≤ 5 := by
  cases phase <;> simp [toStop]

/-- Has an iteration begun, and is it still going on? -/
def Phase.isWithin : Phase → Bool
  | .starting | .blocked _ | .idling | .stopped => false
  | _ => true

namespace Relay

/-! ## Steps on a hub -/

variable {s s' : Stage Relay Hub} {r : Relay}

/-- What a step of the worker does if its agent is on a hub. Of the hub it says
how many deliveries wait then. -/
inductive Stepped (s s' : Stage Relay Hub) : Prop where
  | start (at_ : s.self.phase = .starting)
    (leaves : Leaves (atAgent s) { s.self with phase := .checking } s')
  | stop {s₁ : Stage Agent Hub} (at_ : s.self.phase = .checking)
    (leaves : Leaves s₁
      { s.self.looked with assemblies := .empty, phase := .stopped } s')
  | goOn (at_ : s.self.phase = .checking)
    (untold : (s.self.stopping || s.self.killRequested) = false)
    (leaves : Leaves (atAgent s) { s.self.looked with phase := .commanding } s')
  | noCommand (at_ : s.self.phase = .commanding)
    (none : s.self.commands.items = [])
    (leaves : Leaves (atAgent s) { s.self with phase := .polling false } s')
  | command {c : Command} {rest : List Command} {s₁ : Stage Agent Hub}
    (at_ : s.self.phase = .commanding)
    (oldest : s.self.commands.items = c :: rest)
    (waiting : Agent.waiting s₁ ≤ Agent.waiting (atAgent s))
    (leaves : Leaves s₁
      { s.self with
        commands := { s.self.commands with items := rest }
        phase := .polling true } s')
  | noDelivery {busy : Bool} {s₁ : Stage Agent Hub}
    (at_ : s.self.phase = .polling busy)
    (poll : s₁.self.session = none ∨ ∃ c, Agent.Receives c none (atAgent s) s₁)
    (leaves : Leaves s₁ { s.self with phase := .sending busy } s')
  | delivery {busy : Bool} {c : Connection} {d : Delivery}
    {s₁ : Stage Agent Hub} {phase : Phase}
    (at_ : s.self.phase = .polling busy)
    (poll : Agent.Receives c (some d) (atAgent s) s₁)
    (goes : Going busy [d] (s.self.reading.take d).messages phase)
    (leaves : Leaves s₁
      { s.self.withReading (s.self.reading.take d) with phase } s')
  | deliver {m : Message} (at_ : s.self.phase = .delivering m)
    (leaves : Leaves (atAgent s) (s.self.delivered m s.site.clock) s')
  | retry {m : Message} (at_ : s.self.phase = .blocked m)
    (leaves : Leaves (atAgent s) { s.self with phase := .delivering m } s')
  | noMessage {busy : Bool} (at_ : s.self.phase = .sending busy)
    (none : s.self.outbound.items = [])
    (leaves : Leaves (atAgent s) (s.self.finished busy) s')
  | send {busy : Bool} {m : Message} {rest : List Message} {sent : Window}
    {counters : Counters} {s₁ : Stage Agent Hub}
    (at_ : s.self.phase = .sending busy)
    (oldest : s.self.outbound.items = m :: rest)
    (waiting : Agent.waiting s₁ ≤ Agent.waiting (atAgent s) + 1)
    (leaves : Leaves s₁
      (finished { s.self with
        outbound := { s.self.outbound with items := rest }
        sent
        counters } true) s')
  | wake (at_ : s.self.phase = .idling)
    (leaves : Leaves (atAgent s) { s.self with phase := .checking } s')
  | rest (at_ : s.self.phase = .stopped) (leaves : Leaves (atAgent s) s.self s')

theorem carryOut_waiting (c : Command) (s : Stage Agent Hub) :
    Task.Ends (carryOut Hub.transport c) s fun _ s' =>
      Agent.waiting s' ≤ Agent.waiting s := by
  cases c with
  | subscribe topic => exact Agent.subscribe_waiting topic s
  | unsubscribe topic => exact Agent.unsubscribe_waiting topic s

theorem step_stepped (s : Stage Relay Hub) :
    Task.Ends (step Hub.transport) s fun _ s' => Stepped s s' := by
  simp only [step, Task.ends_bind, Task.ends_self]
  cases hphase : s.self.phase with
  | starting => exact .start hphase ⟨rfl, rfl⟩
  | blocked m => exact .retry hphase ⟨rfl, rfl⟩
  | idling => exact .wake hphase ⟨rfl, rfl⟩
  | stopped => exact .rest hphase ⟨rfl, rfl⟩
  | checking =>
      simp only [Task.ends_bind, ends_shouldStop]
      split
      · have h := stop_spec Hub.transport { s with self := s.self.looked }
        exact Stepped.stop hphase h
      · next huntold =>
          rw [Bool.not_eq_true] at huntold
          refine .goOn hphase huntold ⟨?_, rfl⟩
          show { s.self.looked with phase := .commanding } =
            { s.self.looked with agent := s.self.agent, phase := .commanding }
          rw [← agent_looked s.self]
  | commanding =>
      cases hitems : s.self.commands.items with
      | nil =>
          exact (applyCommand_none Hub.transport hitems).imp fun _ _ h =>
            .noCommand hphase hitems h
      | cons c rest =>
          have hwaiting := carryOut_waiting c (atAgent s)
          have h := applyCommand_spec Hub.transport hitems
          exact Stepped.command hphase hitems hwaiting h
  | polling busy =>
      have hreceives := Agent.poll_receives (atAgent s)
      have h := takeDelivery_goes Hub.transport busy s
      simp only [Task.Ends] at hreceives h
      show Stepped s ((takeDelivery Hub.transport busy).run s).2
      obtain ⟨phase, hgoing, hleaves⟩ := h
      generalize ((Agent.poll Hub.transport).run (atAgent s)).1 = result at *
      cases result with
      | error failure =>
          obtain rfl := hgoing.of_nothing
          exact .noDelivery hphase (.inl hreceives) hleaves
      | ok d? =>
          obtain ⟨c, hreceives⟩ := hreceives
          cases d? with
          | none =>
              obtain rfl := hgoing.of_nothing
              exact .noDelivery hphase (.inr ⟨c, hreceives⟩) hleaves
          | some d => exact .delivery hphase hreceives hgoing hleaves
  | delivering m =>
      refine (deliver_spec m s).imp fun _ s' h => ?_
      obtain ⟨hself, hnet⟩ := h
      refine .deliver hphase ⟨?_, hnet⟩
      rw [hself, atAgent, ← agent_delivered s.self m s.site.clock]
  | sending busy =>
      cases hitems : s.self.outbound.items with
      | nil =>
          refine (sendNext_none hitems).imp fun _ s' h => ?_
          exact .noMessage hphase hitems ⟨h.1, h.2⟩
      | cons m rest =>
          have hwaiting := Agent.send_waiting m (atAgent s)
          have h := sendNext_spec Hub.transport busy hitems
          obtain ⟨_, h⟩ := h
          exact Stepped.send hphase hitems hwaiting h

/-! ## Less and less to do -/

/-- What there is to do for the worker, if so many deliveries wait that are no
keep-alives. -/
def pending (r : Relay) (waiting : Nat) : Nat :=
  r.commands.items.length + 2 * r.outbound.items.length + r.inbound.room +
    waiting

/-- How many steps the worker takes at most before it rests. -/
def rank (r : Relay) (waiting : Nat) : Nat :=
  if r.stopping then r.phase.toStop else r.phase.ahead (r.pending waiting)

def rankAt (s : Stage Relay Hub) : Nat :=
  s.self.rank (Agent.waiting (atAgent s))

theorem Leaves.rank_eq {s₁ : Stage Agent Hub} (h : Leaves s₁ r s') :
    rankAt s' = r.rank (Agent.waiting s₁) := by
  have hwaiting : Agent.waiting (atAgent s') = Agent.waiting s₁ := by
    simp only [Agent.waiting, atAgent, h.agent, h.net]
  rw [rankAt, hwaiting, h.self]
  rfl

/-- Where the worker goes with a complete message, there is a place less in the
inbound queue, or it is held up, or it is about to stop. -/
theorem rank_delivered {m : Message} (hphase : r.phase = .delivering m)
    (now waiting : Nat) : (r.delivered m now).rank waiting < r.rank waiting := by
  rw [delivered]
  split
  · rw [rank, if_pos rfl, rank, hphase]
    split <;> simp only [Phase.toStop, Phase.ahead] <;> omega
  · split
    · simp only [rank, looked, hphase]
      cases hstopping : r.stopping <;> cases hkill : r.killRequested
      all_goals simp [Phase.toStop, Phase.ahead, hstopping]
    · next hroom =>
        simp only [Queue.isFull, decide_eq_true_eq] at hroom
        simp only [rank, hphase, pending, Queue.room, Queue.push,
          List.length_append, List.length_singleton]
        split <;> simp only [Phase.toStop, Phase.ahead, Bool.toNat_true] <;> omega

/-- A step after which less is ahead, whether or not the worker is to stop. -/
theorem Leaves.descends {s₁ : Stage Agent Hub} {phase phase' : Phase}
    (h : Leaves s₁ r s') (hphase : s.self.phase = phase)
    (hphase' : r.phase = phase') (hstopping : r.stopping = s.self.stopping)
    (hstop : s.self.stopping = true → phase'.toStop < phase.toStop)
    (hahead : phase'.ahead (r.pending (Agent.waiting s₁)) <
      phase.ahead (s.self.pending (Agent.waiting (atAgent s)))) :
    rankAt s' < rankAt s := by
  rw [h.rank_eq, rankAt, rank, rank, hstopping, hphase, hphase']
  split
  · next hstopping => exact hstop hstopping
  · exact hahead

theorem Stepped.descends (h : Stepped s s')
    (hactive : s.self.isAtRest = false) : rankAt s' < rankAt s := by
  cases h with
  | retry hphase | wake hphase | rest hphase =>
      simp only [isAtRest, sleep?, isStopped, hphase] at hactive
      cases hactive
  | start hphase leaves =>
      exact leaves.descends hphase rfl rfl (by simp [Phase.toStop])
        (Nat.lt_succ_self _)
  | stop hphase leaves =>
      have hlast : rankAt s' = 0 := by
        rw [leaves.rank_eq, rank]
        exact ite_self 0
      rw [hlast, rankAt, rank, hphase]
      split <;> exact Nat.succ_pos _
  | goOn hphase untold leaves =>
      rw [Bool.or_eq_false_iff] at untold
      refine leaves.descends hphase rfl ?_ (by simp [untold]) ?_
      · simp only [looked, untold, Bool.false_eq_true, if_false]
      · simp only [looked, untold, Bool.false_eq_true, if_false]
        exact Nat.lt_succ_self _
  | noCommand hphase hnone leaves =>
      exact leaves.descends hphase rfl rfl (by simp [Phase.toStop])
        (Nat.lt_succ_self _)
  | command hphase oldest hwaiting leaves =>
      refine leaves.descends hphase rfl rfl (by simp [Phase.toStop]) ?_
      simp only [Phase.ahead, pending, oldest, List.length_cons,
        Bool.toNat_true]
      omega
  | @noDelivery _ s₁ hphase poll leaves =>
      have hwaiting : Agent.waiting s₁ ≤ Agent.waiting (atAgent s) := by
        obtain hnone | ⟨c, hreceives⟩ := poll
        · rw [Agent.waiting_of_none hnone]
          exact Nat.zero_le _
        · exact (Nat.le_add_right _ _).trans_eq hreceives.waits
      refine leaves.descends hphase rfl rfl (by simp [Phase.toStop]) ?_
      simp only [Phase.ahead, pending]
      omega
  | delivery hphase poll goes leaves =>
      have hwaits := poll.waits
      rw [Option.toList_some, others_singleton] at hwaits
      cases goes with
      | without hnothing => cases hnothing
      | reading _ hnone =>
          rw [Reading.isKeepAlive_of_nothing hnone,
            if_neg Bool.false_ne_true] at hwaits
          refine leaves.descends hphase rfl rfl (by simp [Phase.toStop]) ?_
          simp only [Phase.ahead, pending, withReading, Bool.toNat_true]
          omega
      | complete =>
          refine leaves.descends hphase rfl rfl (by simp [Phase.toStop]) ?_
          simp only [Phase.ahead, pending, withReading]
          omega
  | deliver hphase leaves =>
      rw [leaves.rank_eq]
      exact rank_delivered hphase _ _
  | @noMessage busy hphase hnone leaves =>
      cases busy with
      | false =>
          exact leaves.descends hphase (show _ = Phase.idling from rfl) rfl
            (by simp [Phase.toStop]) (Nat.succ_pos _)
      | true =>
          refine leaves.descends hphase (show _ = Phase.checking from rfl) rfl
            (by simp [Phase.toStop]) ?_
          simp only [Phase.ahead, pending, finished, Bool.toNat_true]
          omega
  | send hphase oldest hwaiting leaves =>
      refine leaves.descends hphase (show _ = Phase.checking from rfl) rfl
        (by simp [Phase.toStop]) ?_
      simp only [Phase.ahead, pending, finished, oldest, List.length_cons]
      omega

theorem Stepped.rank_le (h : Stepped s s')
    (hbegin : s.self.sleep?.isSome = true ∨ s.self.phase = .starting) :
    rankAt s' ≤ 5 * s.self.pending (Agent.waiting (atAgent s)) + 6 := by
  cases h with
  | start _ leaves | retry _ leaves | wake _ leaves =>
      rw [leaves.rank_eq]
      simp only [rank, pending]
      split <;> simp only [Phase.toStop, Phase.ahead] <;> omega
  | stop hphase | goOn hphase | noCommand hphase | command hphase
  | noDelivery hphase | delivery hphase | deliver hphase | noMessage hphase
  | send hphase | rest hphase => simp [sleep?, hphase] at hbegin

/-! ## Up to the next rest -/

/-- The same stage after so much time. -/
def later (ns : Nat) (s : Stage Relay Hub) : Stage Relay Hub :=
  { self := s.self, site := s.site.advance ns }

/-- What becomes of a relay while nobody but its worker acts: the stage after so
many steps, if so much time passes before each of them. -/
def alone (pauses : Nat → Nat) (s : Stage Relay Hub) : Nat → Stage Relay Hub
  | 0 => s
  | k + 1 => ((step Hub.transport).run (later (pauses k) (alone pauses s k))).2

section Alone

variable (pauses : Nat → Nat) (s : Stage Relay Hub)

theorem alone_stepped (k : Nat) :
    Stepped (later (pauses k) (alone pauses s k)) (alone pauses s (k + 1)) :=
  step_stepped _

/-- From any point the worker comes to rest, within as many steps as the rank
says. -/
theorem rests_within (i : Nat) :
    ∃ n ≤ rankAt (alone pauses s i),
      (alone pauses s (i + n)).self.isAtRest = true ∧
        ∀ j < n, (alone pauses s (i + j)).self.isAtRest = false := by
  induction hrank : rankAt (alone pauses s i) using Nat.strongRecOn
    generalizing i with
  | ind rank ih =>
      subst hrank
      cases hrest : (alone pauses s i).self.isAtRest with
      | true => exact ⟨0, Nat.zero_le _, hrest, fun _ hj => by omega⟩
      | false =>
          have hlt : rankAt (alone pauses s (i + 1)) < rankAt (alone pauses s i) :=
            (alone_stepped pauses s i).descends hrest
          obtain ⟨n, hn, hrests, hactive⟩ := ih _ hlt (i + 1) rfl
          refine ⟨n + 1, by omega, ?_, ?_⟩
          · rw [Nat.add_comm n, ← Nat.add_assoc]
            exact hrests
          · intro j hj
            cases j with
            | zero => exact hrest
            | succ j =>
                rw [Nat.add_comm j, ← Nat.add_assoc]
                exact hactive j (by omega)

end Alone

/-! ## The last iteration -/

/-- A step that changes nothing but the worker's position and its counters. -/
structure Untouched (s s' : Stage Relay Hub) : Prop where
  commands : s'.self.commands = s.self.commands
  outbound : s'.self.outbound = s.self.outbound
  agent : s'.self.agent = s.self.agent
  net : s'.site.net = s.site.net

theorem Leaves.untouched (h : Leaves (atAgent s) r s')
    (hcommands : r.commands = s.self.commands)
    (houtbound : r.outbound = s.self.outbound) : Untouched s s' :=
  ⟨by rw [h.self, ← hcommands], by rw [h.self, ← houtbound], h.agent, h.net⟩

/-- How the worker got where it is while it has found nothing. -/
theorem Stepped.before (h : Stepped s s') :
    match s'.self.phase with
    | .commanding => s.self.phase = .checking ∧ Untouched s s'
    | .polling false =>
      s.self.phase = .commanding ∧ s.self.commands.items = [] ∧ Untouched s s'
    | .sending false =>
      s.self.phase = .polling false ∧ s'.self.commands = s.self.commands ∧
        s'.self.outbound = s.self.outbound ∧
        (s'.self.agent.session = none ∨
          ∃ c, Agent.Receives c none (atAgent s) (atAgent s'))
    | .idling =>
      s.self.phase = .sending false ∧ s.self.outbound.items = [] ∧
        Untouched s s'
    | _ => True := by
  cases h with
  | start _ leaves | stop _ leaves | command _ _ _ leaves
  | retry _ leaves | send _ _ _ leaves | wake _ leaves =>
      rw [leaves.phase]
      trivial
  | goOn hphase _ leaves =>
      rw [leaves.phase]
      have houtbound : s.self.looked.outbound = s.self.outbound := by
        rw [looked]
        split <;> rfl
      exact ⟨hphase, leaves.untouched (commands_looked _) houtbound⟩
  | noCommand hphase hnone leaves =>
      rw [leaves.phase]
      exact ⟨hphase, hnone, leaves.untouched rfl rfl⟩
  | @noDelivery busy s₁ hphase poll leaves =>
      rw [leaves.phase]
      cases busy with
      | true => trivial
      | false =>
          refine ⟨hphase, by rw [leaves.self], by rw [leaves.self], ?_⟩
          rw [leaves.agent]
          exact poll.imp_right (Exists.imp fun c hreceives =>
            hreceives.of_same leaves.agent leaves.net)
  | delivery _ _ goes leaves =>
      rw [leaves.phase]
      cases goes with
      | without hnothing => cases hnothing
      | reading | complete => trivial
  | deliver hphase leaves =>
      rw [leaves.phase]
      obtain h | h := phase_delivered _ _ _ <;> rw [h] <;> trivial
  | @noMessage busy hphase hnone leaves =>
      rw [leaves.phase]
      cases busy with
      | false => exact ⟨hphase, hnone, leaves.untouched rfl rfl⟩
      | true => trivial
  | rest hphase leaves =>
      rw [leaves.phase, hphase]
      trivial

/-- The worker has gone to sleep at stage `s'` after an iteration, begun at
stage `s`, in which there was nothing to do. Nothing waited for its agent then,
and what waits now is at most the keep-alive that the agent itself has sent. -/
structure Quiescent (s s' : Stage Relay Hub) : Prop where
  begun : s.self.phase = .checking
  commands : s'.self.commands.items = []
  outbound : s'.self.outbound.items = []
  inbox : ∀ c, s'.self.agent.session = some c →
    s.site.net.inbox c.address = [] ∧
      (s'.site.net.inbox c.address = [] ∨
        s'.site.net.inbox c.address = [Agent.keepAliveFrom c.address])

section Alone

variable {pauses : Nat → Nat} {s : Stage Relay Hub} {k : Nat}

theorem exists_step
    (hbegin : s.self.sleep?.isSome = true ∨ s.self.phase = .starting)
    (hwithin : (alone pauses s k).self.phase.isWithin = true) :
    ∃ j, k = j + 1 := by
  cases k with
  | succ j => exact ⟨j, rfl⟩
  | zero =>
      rw [alone] at hwithin
      rw [sleep?] at hbegin
      cases hphase : s.self.phase <;> simp [hphase, Phase.isWithin] at *

/-- The last iteration, from its end to its beginning. -/
theorem quiescent_of_idling
    (hbegin : s.self.sleep?.isSome = true ∨ s.self.phase = .starting)
    (hpos : 0 < k) (hidle : (alone pauses s k).self.phase = .idling) :
    ∃ j, j + 4 = k ∧ Quiescent (alone pauses s j) (alone pauses s k) := by
  obtain ⟨k, rfl⟩ : ∃ k', k = k' + 1 := ⟨k - 1, by omega⟩
  have hsent := (alone_stepped pauses s k).before
  rw [hidle] at hsent
  obtain ⟨hsending, hnone, hsame₃⟩ := hsent
  obtain ⟨k, rfl⟩ := exists_step hbegin (congrArg Phase.isWithin hsending)
  have hpolled := (alone_stepped pauses s k).before
  rw [show (alone pauses s (k + 1)).self.phase = _ from hsending] at hpolled
  obtain ⟨hpolling, hcommands, -, hpoll⟩ := hpolled
  obtain ⟨k, rfl⟩ := exists_step hbegin (congrArg Phase.isWithin hpolling)
  have hcommanded := (alone_stepped pauses s k).before
  rw [show (alone pauses s (k + 1)).self.phase = _ from hpolling] at hcommanded
  obtain ⟨hcommanding, hempty, hsame₁⟩ := hcommanded
  obtain ⟨k, rfl⟩ := exists_step hbegin (congrArg Phase.isWithin hcommanding)
  have hchecked := (alone_stepped pauses s k).before
  rw [show (alone pauses s (k + 1)).self.phase = _ from hcommanding] at hchecked
  obtain ⟨hchecking, hsame₀⟩ := hchecked
  refine ⟨k, rfl, hchecking, ?_, ?_, fun c hsession => ?_⟩
  · have hsame : (alone pauses s (k + 4)).self.commands =
        (alone pauses s (k + 1)).self.commands :=
      (hsame₃.commands.trans hcommands).trans hsame₁.commands
    rw [hsame]
    exact hempty
  · rw [hsame₃.outbound]
    exact hnone
  · have hsame : (alone pauses s (k + 2)).site.net =
        (alone pauses s k).site.net := hsame₁.net.trans hsame₀.net
    rw [hsame₃.agent] at hsession
    obtain hnone | ⟨c', hreceives⟩ := hpoll
    · cases hnone.symm.trans hsession
    · obtain rfl := Option.some.inj (hreceives.session.symm.trans hsession)
      rw [← hsame, hsame₃.net]
      exact hreceives.nothing

end Alone

/-- The worker, alone from stage `s` on, rests next after `k` steps. If nothing
holds it up then, there is nothing to do for it. -/
structure RestsAfter (pauses : Nat → Nat) (s : Stage Relay Hub) (k : Nat) :
    Prop where
  pos : 0 < k
  within : k ≤ 5 * s.self.pending (Agent.waiting (atAgent s)) + 7
  rests : (alone pauses s k).self.isAtRest = true
  active : ∀ j, 0 < j → j < k → (alone pauses s j).self.isAtRest = false
  quiescent : (alone pauses s k).self.phase = .idling →
    ∃ j, j + 4 = k ∧ Quiescent (alone pauses s j) (alone pauses s k)

/-- A worker that begins, or has been asleep, goes to sleep again or stops. -/
theorem worker_comes_to_rest (pauses : Nat → Nat) (s : Stage Relay Hub)
    (hbegin : s.self.sleep?.isSome = true ∨ s.self.phase = .starting) :
    ∃ k, RestsAfter pauses s k := by
  have hrank : rankAt (alone pauses s 1) ≤
      5 * s.self.pending (Agent.waiting (atAgent s)) + 6 :=
    (alone_stepped pauses s 0).rank_le hbegin
  obtain ⟨n, hn, hrests, hactive⟩ := rests_within pauses s 1
  rw [Nat.add_comm] at hrests
  refine ⟨n + 1, n.succ_pos, by omega, hrests, fun j hj hjn => ?_,
    quiescent_of_idling hbegin n.succ_pos⟩
  obtain ⟨j, rfl⟩ := Nat.exists_eq_add_of_le hj
  exact hactive j (by omega)

/-- A relay whose agent sends a keep-alive at each poll and is in the group of
those who get them. Its worker goes to sleep at first while the first of them
waits. Woken up, it is kept awake by its own keep-alives until there is no place
for them. -/
theorem worker_comes_to_rest_echo :
    let agent : Agent :=
      { profile := { keepAlive := some 0 }, topics := .ofList [keepAliveGroup] }
    let s : Stage Relay Hub :=
      { self := new agent { inbound := 2 }, site := { net := { name := "hub" } } }
    let asleep := alone (fun _ => 0) s 5
    asleep.self.phase = .idling ∧
      asleep.site.net.inbox "#unknown#hub" =
        [Agent.keepAliveFrom "#unknown#hub"] ∧
      (alone (fun _ => 0) asleep 15).self.phase =
        .blocked ⟨keepAliveGroup, "#unknown#hub"⟩ ∧
      ∃ k, RestsAfter (fun _ => 0) asleep k := by
  refine ⟨by decide +kernel, by decide +kernel, by decide +kernel, ?_⟩
  exact worker_comes_to_rest _ _ (.inl (by decide +kernel))

/-! ## Patience -/

theorem rankAt_lt_patience (s : Stage Relay Hub) :
    rankAt s < s.self.patience s.site.net.backlog := by
  have hwaiting : Agent.waiting (atAgent s) ≤ s.site.net.backlog :=
    Agent.waiting_le_backlog (atAgent s)
  have hahead := s.self.phase.ahead_le
    (s.self.pending (Agent.waiting (atAgent s)))
  have hstop := s.self.phase.toStop_le
  simp only [rankAt, rank, pending, patience] at hahead ⊢
  split <;> omega

theorem run_rests {fuel : Nat} (hfuel : rankAt s < fuel) :
    Task.Ends (run Hub.transport fuel) s fun _ s' => s'.self.isAtRest = true := by
  induction fuel generalizing s with
  | zero => exact absurd hfuel (Nat.not_lt_zero _)
  | succ fuel ih =>
      simp only [run, Task.ends_bind, Task.ends_self]
      split
      · assumption
      · next hactive =>
          rw [Bool.not_eq_true] at hactive
          rw [Task.ends_bind]
          refine (step_stepped s).imp fun _ s' hstepped => ?_
          have hlt := hstepped.descends hactive
          exact ih (by omega)

/-- The fuel of a worker that is let go on does not run out. -/
theorem settle_rests (s : Stage Relay Hub) :
    Task.Ends (settle Hub.transport) s fun _ s' => s'.self.isAtRest = true := by
  simp only [settle, Task.ends_bind]
  refine (step_stepped s).imp fun _ s' _ => ?_
  exact run_rests (rankAt_lt_patience s')

end Relay

end Courier
