import Courier.Proofs.Agent.Record
import Courier.Proofs.Relay.Reading

/-!
# What a worker's step does

Each thing that a worker does is stated once, as the relay that it leaves.
What the worker has its agent do comes first in a statement, and the rest is
said of whatever this ends with. So nothing here depends on the transport.
-/

namespace Courier

/-- The message that the worker holds where it stands. -/
def Phase.inHand : Phase → List Message
  | .delivering m | .blocked m => [m]
  | _ => []

namespace Relay

variable {σ : Type}

/-- What the agent of a relay has before it. -/
def atAgent (s : Stage Relay σ) : Stage Agent σ :=
  { self := s.self.agent, site := s.site }

/-- The stage is that of a relay after its agent has ended at `s₁`. -/
structure Leaves (s₁ : Stage Agent σ) (r : Relay) (s' : Stage Relay σ) :
    Prop where
  self : s'.self = { r with agent := s₁.self }
  net : s'.site.net = s₁.site.net

theorem Leaves.agent {s₁ : Stage Agent σ} {r : Relay} {s' : Stage Relay σ}
    (h : Leaves s₁ r s') : s'.self.agent = s₁.self :=
  congrArg Relay.agent h.self

theorem Leaves.commands {s₁ : Stage Agent σ} {r : Relay} {s' : Stage Relay σ}
    (h : Leaves s₁ r s') : s'.self.commands = r.commands := by
  rw [h.self]

theorem Leaves.phase {s₁ : Stage Agent σ} {r : Relay} {s' : Stage Relay σ}
    (h : Leaves s₁ r s') : s'.self.phase = r.phase := by
  rw [h.self]

theorem ends_byAgent {α : Type} {task : Task Agent σ α} {s : Stage Relay σ}
    {post : α → Stage Relay σ → Prop} :
    Task.Ends (byAgent task) s post ↔
      Task.Ends task (atAgent s) fun a s₁ =>
        post a { self := { s.self with agent := s₁.self }, site := s₁.site } :=
  Iff.rfl

/-- What is noted about a failure. -/
def reported (failure : Failure) : RelayEvent :=
  match failure with
  | .connecting .. => .skipped failure
  | _ => .failed failure

theorem ends_report {failure : Failure} {s : Stage Relay σ}
    {post : Unit → Stage Relay σ → Prop} :
    Task.Ends (report failure) s post ↔
      Task.Ends (note (reported failure)) s post := by
  cases failure <;> exact Iff.rfl

/-- The relay after its worker has looked for a request to stop. -/
def looked (r : Relay) : Relay :=
  if r.stopping then r
  else { r with killRequested := false, stopping := r.killRequested }

theorem agent_looked (r : Relay) : r.looked.agent = r.agent := by
  rw [looked]
  split <;> rfl

theorem commands_looked (r : Relay) : r.looked.commands = r.commands := by
  rw [looked]
  split <;> rfl

theorem inbound_looked (r : Relay) : r.looked.inbound = r.inbound := by
  rw [looked]
  split <;> rfl

theorem reading_looked (r : Relay) : r.looked.reading = r.reading := by
  rw [looked]
  split <;> rfl

theorem atAgent_looked (s : Stage Relay σ) :
    atAgent { s with self := s.self.looked } = atAgent s := by
  simp only [atAgent, agent_looked]

theorem ends_shouldStop {s : Stage Relay σ}
    {post : Bool → Stage Relay σ → Prop} :
    Task.Ends shouldStop s post ↔
      post (s.self.stopping || s.self.killRequested)
        { s with self := s.self.looked } := by
  simp only [shouldStop, looked, Task.ends_bind, Task.ends_self]
  cases hstopping : s.self.stopping <;> exact Iff.rfl

theorem stop_spec (t : Transport σ) (s : Stage Relay σ) :
    Task.Ends (Agent.disconnect t) (atAgent s) fun _ s₁ =>
      Task.Ends (stop t) s fun _ =>
        Leaves s₁ { s.self with assemblies := .empty, phase := .stopped } :=
  ⟨rfl, rfl⟩

theorem applyCommand_none (t : Transport σ) {s : Stage Relay σ}
    (hnone : s.self.commands.items = []) :
    Task.Ends (applyCommand t) s fun _ =>
      Leaves (atAgent s) { s.self with phase := .polling false } := by
  simp only [applyCommand, Task.ends_bind, Task.ends_self, Queue.pop?, hnone]
  exact ⟨rfl, rfl⟩

/-- What a worker has its agent do for a command. -/
def carryOut (t : Transport σ) : Command → Task Agent σ (Except Failure Unit)
  | .subscribe topic => Agent.subscribe t topic
  | .unsubscribe topic => Agent.unsubscribe t topic

theorem applyCommand_spec (t : Transport σ) {s : Stage Relay σ}
    {command : Command} {rest : List Command}
    (hitems : s.self.commands.items = command :: rest) :
    Task.Ends (carryOut t command) (atAgent s) fun _ s₁ =>
      Task.Ends (applyCommand t) s fun _ =>
        Leaves s₁ { s.self with
          commands := { s.self.commands with items := rest }
          phase := .polling true } := by
  simp only [applyCommand, Task.ends_bind, Task.ends_self, Queue.pop?, hitems,
    Task.ends_change, ends_byAgent]
  cases command
  all_goals
    refine Task.Ends.twice fun result s₁ => ?_
    cases result with
    | ok u => exact ⟨rfl, rfl⟩
    | error failure =>
        simp only [Task.ends_bind, ends_report]
        exact ⟨rfl, rfl⟩

/-- Where the worker goes from a poll, given what was polled and the messages
that were complete with it. -/
inductive Going (busy : Bool) (polled : List Delivery)
    (messages : List Message) : Phase → Prop where
  | without (nothing : polled = []) (none : messages = []) :
    Going busy polled messages (.sending busy)
  | reading (some : polled ≠ []) (none : messages = []) :
    Going busy polled messages (.sending true)
  | complete {m : Message} (some : polled ≠ []) (one : messages = [m]) :
    Going busy polled messages (.delivering m)

theorem Going.of_nothing {busy : Bool} {messages : List Message} {phase : Phase}
    (h : Going busy [] messages phase) : phase = .sending busy := by
  cases h with
  | without => rfl
  | reading some | complete some => exact absurd rfl some

theorem takeDelivery_goes (t : Transport σ) (busy : Bool)
    (s : Stage Relay σ) :
    Task.Ends (Agent.poll t) (atAgent s) fun result s₁ =>
      Task.Ends (takeDelivery t busy) s fun _ s' =>
        let reading := (Agent.polled result).foldl Reading.take s.self.reading
        ∃ phase, Going busy (Agent.polled result) reading.messages phase ∧
          Leaves s₁ { s.self.withReading reading with phase } s' := by
  simp only [takeDelivery, Task.ends_bind, ends_byAgent]
  refine Task.Ends.twice fun result s₁ => ?_
  cases result with
  | error failure =>
      simp only [Task.ends_bind, ends_report]
      exact ⟨_, .without rfl rfl, rfl, rfl⟩
  | ok delivery? =>
      cases delivery? with
      | none => exact ⟨_, .without rfl rfl, rfl, rfl⟩
      | some d =>
          simp only [Task.ends_bind]
          refine (digest_reads d _).imp fun m? s' h => ?_
          obtain ⟨r, site⟩ := s'
          obtain ⟨rfl, hm?, hnet⟩ := h
          cases m? with
          | none =>
              exact ⟨_, .reading (List.cons_ne_nil _ _) hm?.symm, rfl, hnet⟩
          | some m =>
              exact ⟨_, .complete (List.cons_ne_nil _ _) hm?.symm, rfl, hnet⟩

/-- A delivery is read, and whatever message it completes is in the worker's
hands afterwards. -/
theorem takeDelivery_spec (t : Transport σ) (busy : Bool)
    (s : Stage Relay σ) :
    Task.Ends (Agent.poll t) (atAgent s) fun result s₁ =>
      Task.Ends (takeDelivery t busy) s fun _ s' =>
        ∃ phase, phase.inHand =
            ((Agent.polled result).foldl Reading.take s.self.reading).messages ∧
          phase ≠ .stopped ∧
          Leaves s₁ { s.self.withReading
            ((Agent.polled result).foldl Reading.take s.self.reading) with phase }
            s' := by
  refine (takeDelivery_goes t busy s).imp fun _ _ h => h.imp fun _ s' h => ?_
  obtain ⟨phase, hgoing, hleaves⟩ := h
  refine ⟨phase, ?_, ?_, hleaves⟩
  · cases hgoing with
    | without _ hmessages | reading _ hmessages | complete _ hmessages =>
        rw [hmessages]
        rfl
  · cases hgoing <;> simp

/-- The relay after its worker has tried to queue a message at time `now`. -/
def delivered (r : Relay) (m : Message) (now : Nat) : Relay :=
  if r.abandoned then
    { r with stopping := true, phase := .sending true }
  else if r.inbound.isFull then
    { r.looked with
      phase := if r.stopping || r.killRequested then .sending true
        else .blocked m }
  else
    { r with
      inbound := r.inbound.push m
      received := r.received.add now m.size
      phase := .sending true }

theorem agent_delivered (r : Relay) (m : Message) (now : Nat) :
    (r.delivered m now).agent = r.agent := by
  rw [delivered]
  split
  · rfl
  · split
    · exact agent_looked r
    · rfl

theorem commands_delivered (r : Relay) (m : Message) (now : Nat) :
    (r.delivered m now).commands = r.commands := by
  rw [delivered]
  split
  · rfl
  · split
    · exact commands_looked r
    · rfl

theorem phase_delivered (r : Relay) (m : Message) (now : Nat) :
    (r.delivered m now).phase = .sending true ∨
      (r.delivered m now).phase = .blocked m := by
  rw [delivered]
  split
  · exact .inl rfl
  · split
    · cases r.stopping || r.killRequested
      · exact .inr rfl
      · exact .inl rfl
    · exact .inl rfl

theorem deliver_spec (m : Message) (s : Stage Relay σ) :
    Task.Ends (deliver m) s fun _ s' =>
      s'.self = s.self.delivered m s.site.clock ∧ s'.site.net = s.site.net := by
  simp only [deliver, delivered, Task.ends_bind, Task.ends_self]
  split
  · exact ⟨rfl, rfl⟩
  · split
    · simp only [Task.ends_bind, ends_shouldStop]
      split <;> exact ⟨rfl, rfl⟩
    · exact ⟨rfl, rfl⟩

/-- The relay after its worker has ended an iteration. -/
def finished (r : Relay) (busy : Bool) : Relay :=
  { r with
    counters :=
      { r.counters with
        iterations := r.counters.iterations + 1
        idleSleeps := r.counters.idleSleeps + if busy then 0 else 1 }
    phase := if busy then .checking else .idling }

theorem sendNext_none {t : Transport σ} {busy : Bool} {s : Stage Relay σ}
    (hnone : s.self.outbound.items = []) :
    Task.Ends (sendNext t busy) s fun _ s' =>
      s'.self = s.self.finished busy ∧ s'.site.net = s.site.net := by
  simp only [sendNext, Task.ends_bind, Task.ends_self, Queue.pop?, hnone]
  exact ⟨rfl, rfl⟩

/-- How many messages were lost by an attempt to send one. -/
def lost : Except Failure Unit → Nat
  | .ok _ => 0
  | .error _ => 1

theorem sendNext_spec (t : Transport σ) (busy : Bool) {s : Stage Relay σ}
    {m : Message} {rest : List Message}
    (hitems : s.self.outbound.items = m :: rest) :
    Task.Ends (Agent.send t m) (atAgent s) fun result s₁ =>
      Task.Ends (sendNext t busy) s fun _ s' =>
        ∃ sent, Leaves s₁ (finished { s.self with
          outbound := { s.self.outbound with items := rest }
          sent
          counters := { s.self.counters with
            sendFailures := s.self.counters.sendFailures + lost result } }
          true) s' := by
  simp only [sendNext, Task.ends_bind, Task.ends_self, Queue.pop?, hitems,
    Task.ends_change, ends_byAgent]
  refine Task.Ends.twice fun result s₁ => ?_
  cases result with
  | ok u => exact ⟨_, rfl, rfl⟩
  | error failure =>
      simp only [Task.ends_bind, ends_report]
      exact ⟨_, rfl, rfl⟩

end Relay

end Courier
