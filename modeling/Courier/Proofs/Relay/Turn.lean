import Courier.Proofs.Relay.Worker
import Courier.Relay.Handle

/-!
# The turns of a relay

Callers and the worker of a relay act in turns, in any order. The worker's
turn is one step. Beside them time passes.

In each turn the agent is sent on one errand at most. What happens to the
agent and to the network in a turn is what the errand does to them, and all
else is said by `Turned`, whatever transport there is. So a turn is looked at
in two parts: what the errand does is a question about agents, and what goes
into the queues and out of them is a question about relays.
-/

namespace Courier

namespace Relay

variable {σ : Type}

/-- What callers, the worker and the clock do. Letters are sent and received
as messages. -/
inductive Act where
  | subscribe (topic : String)
  | unsubscribe (topic : String)
  | send (m : Message)
  | receive
  | setAddress (address : String)
  | setClient (client : String)
  | askAddress
  | rates
  | kill
  | abandon
  | work
  | wait (ns : Nat)

inductive Answer where
  | submitted (submission : Submission)
  | received (m? : Option Message)
  | address (result : Except Failure String)
  | rates (sent received : Rate)
  | done

/-- The message that was accepted for sending. -/
def Act.accepted : Act → Answer → List Message
  | .send m, .submitted .accepted => [m]
  | _, _ => []

/-- The message that was received. -/
def Act.received : Act → Answer → List Message
  | .receive, .received m? => m?.toList
  | _, _ => []

theorem Act.accepted_done (a : Act) : a.accepted .done = [] := by
  cases a <;> rfl

theorem Act.received_done (a : Act) : a.received .done = [] := by
  cases a <;> rfl

def perform (t : Transport σ) : Act → Task Relay σ Answer
  | .subscribe topic => .submitted <$> subscribe topic
  | .unsubscribe topic => .submitted <$> unsubscribe topic
  | .send m => .submitted <$> send m
  | .receive => .received <$> receive
  | .setAddress address => (fun _ => .done) <$> setAddress t address
  | .setClient client => (fun _ => .done) <$> setClient t client
  | .askAddress => .address <$> address t
  | .rates => (fun r => .rates r.1 r.2) <$> rates
  | .kill => (fun _ => .done) <$> kill
  | .abandon => (fun _ => .done) <$> abandon
  | .work => (fun _ => .done) <$> step t
  | .wait ns => modifyGet fun s => (.done, { s with site := s.site.advance ns })

/-! ## Errands -/

/-- What an agent is asked to do in a turn of its relay. -/
inductive Errand where
  | none
  | setAddress (address : String)
  | setClient (client : String)
  | askAddress
  | disconnect
  | subscribe (topic : String)
  | unsubscribe (topic : String)
  | poll
  | send (m : Message)

/-- What an errand brings back for the relay. -/
inductive Errand.Result where
  | nothing
  | polled (result : Except Failure (Option Delivery))
  | sent (m : Message) (result : Except Failure Unit)

def Errand.run (t : Transport σ) : Errand → Task Agent σ Errand.Result
  | .none => return .nothing
  | .setAddress address => (fun _ => .nothing) <$> Agent.setAddress t address
  | .setClient client => (fun _ => .nothing) <$> Agent.setClient t client
  | .askAddress => (fun _ => .nothing) <$> Agent.address t
  | .disconnect => (fun _ => .nothing) <$> Agent.disconnect t
  | .subscribe topic => (fun _ => .nothing) <$> Agent.subscribe t topic
  | .unsubscribe topic => (fun _ => .nothing) <$> Agent.unsubscribe t topic
  | .poll => .polled <$> Agent.poll t
  | .send m => .sent m <$> Agent.send t m

/-- The errand of the worker's next step. -/
def workErrand (r : Relay) : Errand :=
  match r.phase with
  | .checking =>
    if r.stopping || r.killRequested then .disconnect else .none
  | .commanding =>
    match r.commands.items with
    | [] => .none
    | .subscribe topic :: _ => .subscribe topic
    | .unsubscribe topic :: _ => .unsubscribe topic
  | .polling _ => .poll
  | .sending _ =>
    match r.outbound.items with
    | [] => .none
    | m :: _ => .send m
  | _ => .none

/-- The message that an errand is to send. -/
def Errand.tried : Errand → List Message
  | .send m => [m]
  | _ => []

def Errand.Result.tried : Errand.Result → List Message
  | .sent m _ => [m]
  | _ => []

theorem Errand.run_tried (t : Transport σ) (e : Errand) (s : Stage Agent σ) :
    Task.Ends (e.run t) s fun result _ => result.tried = e.tried := by
  cases e <;> rfl

def errand (r : Relay) : Act → Errand
  | .setAddress address => .setAddress address
  | .setClient client => .setClient client
  | .askAddress => .askAddress
  | .work => workErrand r
  | _ => .none

/-! ## The worker's turns -/

/-- What the worker makes of a relay in a step, given what its errand brought
back. -/
inductive Worked (r : Relay) : Errand.Result → Relay → Prop where
  | start (at_ : r.phase = .starting) :
    Worked r .nothing { r with phase := .checking }
  | stop (at_ : r.phase = .checking)
      (told : (r.stopping || r.killRequested) = true) :
    Worked r .nothing
      { r.looked with assemblies := .empty, phase := .stopped }
  | goOn (at_ : r.phase = .checking)
      (untold : (r.stopping || r.killRequested) = false) :
    Worked r .nothing { r.looked with phase := .commanding }
  | noCommand (at_ : r.phase = .commanding) :
    Worked r .nothing { r with phase := .polling false }
  | command {rest : List Command} (at_ : r.phase = .commanding) :
    Worked r .nothing
      { r with
        commands := { r.commands with items := rest }
        phase := .polling true }
  | poll {busy : Bool} {result : Except Failure (Option Delivery)}
      {reading : Reading} {phase : Phase} (at_ : r.phase = .polling busy)
      (reads : reading = (Agent.polled result).foldl Reading.take r.reading)
      (holds : phase.inHand = reading.messages) (active : phase ≠ .stopped) :
    Worked r (.polled result) { r.withReading reading with phase }
  | deliver {m : Message} {now : Nat} (at_ : r.phase = .delivering m) :
    Worked r .nothing (r.delivered m now)
  | retry {m : Message} (at_ : r.phase = .blocked m) :
    Worked r .nothing { r with phase := .delivering m }
  | noMessage {busy : Bool} (at_ : r.phase = .sending busy) :
    Worked r .nothing (r.finished busy)
  | send {busy : Bool} {m : Message} {rest : List Message} {sent : Window}
      {result : Except Failure Unit} (at_ : r.phase = .sending busy)
      (oldest : r.outbound.items = m :: rest) :
    Worked r (.sent m result) (finished { r with
      outbound := { r.outbound with items := rest }
      sent
      counters := { r.counters with
        sendFailures := r.counters.sendFailures + lost result } } true)
  | wake (at_ : r.phase = .idling) :
    Worked r .nothing { r with phase := .checking }
  | rest (at_ : r.phase = .stopped) : Worked r .nothing r

theorem step_worked (t : Transport σ) (s : Stage Relay σ) :
    Task.Ends ((workErrand s.self).run t) (atAgent s) fun result s₁ =>
      Task.Ends (step t) s fun _ s' =>
        ∃ r', Worked s.self result r' ∧ Leaves s₁ r' s' := by
  simp only [step, Task.ends_bind, Task.ends_self, workErrand]
  cases hphase : s.self.phase with
  | starting => exact ⟨_, .start hphase, rfl, rfl⟩
  | blocked m => exact ⟨_, .retry hphase, rfl, rfl⟩
  | idling => exact ⟨_, .wake hphase, rfl, rfl⟩
  | stopped => exact ⟨_, .rest hphase, rfl, rfl⟩
  | checking =>
      simp only [Task.ends_bind, ends_shouldStop]
      split
      · next htold =>
          have h := stop_spec t { s with self := s.self.looked }
          rw [atAgent_looked] at h
          simp only [Errand.run, Task.ends_map]
          exact h.imp fun _ _ h => h.imp fun _ _ h => ⟨_, .stop hphase htold, h⟩
      · next huntold =>
          rw [Bool.not_eq_true] at huntold
          refine ⟨_, .goOn hphase huntold, ?_, rfl⟩
          show { s.self.looked with phase := .commanding } =
            { s.self.looked with agent := s.self.agent, phase := .commanding }
          rw [← agent_looked s.self]
  | commanding =>
      simp only
      split <;> simp only [Errand.run, Task.ends_map, Task.ends_pure]
      · next hnone =>
          have h := applyCommand_none t hnone
          exact h.imp fun _ _ h => ⟨_, .noCommand hphase, h⟩
      · next topic rest hitems =>
          have h := applyCommand_spec t hitems
          exact h.imp fun _ _ h => h.imp fun _ _ h => ⟨_, .command hphase, h⟩
      · next topic rest hitems =>
          have h := applyCommand_spec t hitems
          exact h.imp fun _ _ h => h.imp fun _ _ h => ⟨_, .command hphase, h⟩
  | polling busy =>
      have h := takeDelivery_spec t busy s
      simp only [Errand.run, Task.ends_map]
      refine h.imp fun _ _ h => h.imp fun _ _ h => ?_
      obtain ⟨_, hhand, hactive, h⟩ := h
      exact ⟨_, .poll hphase rfl hhand hactive, h⟩
  | delivering m =>
      simp only [Errand.run, Task.ends_pure]
      refine (deliver_spec m s).imp fun _ s' h => ?_
      obtain ⟨hself, hnet⟩ := h
      refine ⟨s.self.delivered m s.site.clock, .deliver hphase, ?_, hnet⟩
      rw [hself, atAgent, ← agent_delivered s.self m s.site.clock]
  | sending busy =>
      simp only
      split <;> simp only [Errand.run, Task.ends_map, Task.ends_pure]
      · next hnone =>
          refine (sendNext_none hnone).imp fun _ s' h => ?_
          obtain ⟨hself, hnet⟩ := h
          exact ⟨_, .noMessage hphase, hself, hnet⟩
      · next m rest hitems =>
          have h := sendNext_spec t busy hitems
          refine h.imp fun _ _ h => h.imp fun _ _ h => ?_
          obtain ⟨_, h⟩ := h
          exact ⟨_, .send hphase hitems, h⟩

/-! ## All turns -/

/-- What an act makes of a relay. -/
inductive Turned (r : Relay) : Act → Answer → Errand.Result → Relay → Prop where
  | work {result : Errand.Result} {r' : Relay} (worked : Worked r result r') :
    Turned r .work .done result r'
  | queued {m : Message} (checked : m.check r.limit = .ok ())
      (active : r.isStopped = false) (room : r.outbound.isFull = false) :
    Turned r (.send m) (.submitted .accepted) .nothing
      { r with outbound := r.outbound.push m }
  | received {m : Message} {rest : List Message}
      (oldest : r.inbound.items = m :: rest) :
    Turned r .receive (.received (some m)) .nothing
      { r with inbound := { r.inbound with items := rest } }
  | killed : Turned r .kill .done .nothing { r with killRequested := true }
  | abandoned : Turned r .abandon .done .nothing { r with abandoned := true }
  /-- Commands, rates, and whatever leaves the relay as it is. -/
  | aside {a : Act} {answer : Answer} {commands : Queue Command}
      {sent received : Window} (accepted : a.accepted answer = [])
      (nothing : a.received answer = []) :
    Turned r a answer .nothing { r with commands, sent, received }

theorem Turned.same {r : Relay} {a : Act} {answer : Answer}
    (accepted : a.accepted answer = []) (nothing : a.received answer = []) :
    Turned r a answer .nothing r :=
  .aside accepted nothing

theorem perform_turned (t : Transport σ) (a : Act) (s : Stage Relay σ) :
    Task.Ends ((errand s.self a).run t) (atAgent s) fun result s₁ =>
      Task.Ends (perform t a) s fun answer s' =>
        ∃ r', Turned s.self a answer result r' ∧ Leaves s₁ r' s' := by
  cases a with
  | work =>
      refine (step_worked t s).imp fun _ _ h => ?_
      simp only [perform, Task.ends_map]
      refine h.imp fun _ _ h => ?_
      obtain ⟨r', hworked, h⟩ := h
      exact ⟨r', .work hworked, h⟩
  | setAddress | setClient | askAddress | wait =>
      exact ⟨s.self, .same rfl rfl, rfl, rfl⟩
  | abandon => exact ⟨_, .abandoned, rfl, rfl⟩
  | rates =>
      exact ⟨{ s.self with
        sent := (s.self.sent.rate s.site.clock).2
        received := (s.self.received.rate s.site.clock).2 },
        .aside rfl rfl, rfl, rfl⟩
  | subscribe topic | unsubscribe topic =>
      simp only [perform, subscribe, unsubscribe, command, Task.ends_map,
        Task.ends_bind, Task.ends_self]
      split
      · exact ⟨_, .same rfl rfl, rfl, rfl⟩
      · split
        · exact ⟨_, .same rfl rfl, rfl, rfl⟩
        · exact ⟨_, .aside rfl rfl, rfl, rfl⟩
  | send m =>
      simp only [perform, send, Task.ends_map, Task.ends_bind, Task.ends_self]
      split
      · exact ⟨_, .same rfl rfl, rfl, rfl⟩
      · next hcheck =>
          split
          · exact ⟨_, .same rfl rfl, rfl, rfl⟩
          · next hactive =>
              split
              · exact ⟨_, .same rfl rfl, rfl, rfl⟩
              · next hroom =>
                  rw [Bool.not_eq_true] at hactive hroom
                  exact ⟨_, .queued hcheck hactive hroom, rfl, rfl⟩
  | receive =>
      simp only [perform, receive, Task.ends_map, Task.ends_bind,
        Task.ends_self, Queue.pop?]
      cases hitems : s.self.inbound.items with
      | nil => exact ⟨_, .same rfl rfl, rfl, rfl⟩
      | cons m rest => exact ⟨_, .received hitems, rfl, rfl⟩
  | kill =>
      simp only [perform, kill, Task.ends_map, Task.ends_bind, Task.ends_self]
      split
      · exact ⟨_, .same rfl rfl, rfl, rfl⟩
      · exact ⟨_, .killed, rfl, rfl⟩

end Relay

end Courier
