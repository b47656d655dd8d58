import Courier.Proofs.Network.Topics
import Courier.Proofs.Relay.Turn

/-!
# The commands of a relay

A command that a relay has accepted waits in a queue until the worker takes it
out and sends its agent on the errand that the command asks for. In every turn
of a relay, what was queued and what is accepted is what the agent is sent on
and what stays queued.

The worker goes to sleep after an iteration in which it found no command. What
is in the queue then has come in since it looked, and if nobody else had a turn
meanwhile, there is nothing.
-/

namespace Courier

namespace Command

/-- What is remembered after a command. -/
def remember (topics : Std.ExtTreeSet String) :
    Command → Std.ExtTreeSet String
  | subscribe topic => topics.insert topic
  | unsubscribe topic => topics.erase topic

/-- What a command says about a topic: to subscribe or to unsubscribe. -/
def said? (topic : String) : Command → Option Bool
  | subscribe said => if said = topic then some true else none
  | unsubscribe said => if said = topic then some false else none

/-- What commands say about a topic in the end. -/
def last? (commands : List Command) (topic : String) : Option Bool :=
  (commands.filterMap (said? topic)).getLast?

theorem mem_remember {topics : Std.ExtTreeSet String} {topic : String}
    (c : Command) :
    topic ∈ remember topics c ↔
      said? topic c = some true ∨ said? topic c = none ∧ topic ∈ topics := by
  cases c with
  | subscribe said => exact Agent.mem_remembered (.subscribe said)
  | unsubscribe said => exact Agent.mem_remembered (.unsubscribe said)

/-- What is remembered after commands are the topics that they subscribe to in
the end. -/
theorem mem_foldl_remember (commands : List Command) (topic : String) :
    topic ∈ commands.foldl remember ∅ ↔
      last? commands topic = some true := by
  induction commands using List.reverseRecOn with
  | nil => simp [last?]
  | append_singleton commands c ih =>
      rw [List.foldl_append, List.foldl_cons, List.foldl_nil, mem_remember,
        ih, last?, last?, List.filterMap_append, List.getLast?_append]
      cases hsaid : said? topic c <;> simp [hsaid]

end Command

namespace Relay

variable {σ : Type}

/-- The command that was accepted. -/
def Act.commanded : Act → Answer → List Command
  | .subscribe topic, .submitted .accepted => [.subscribe topic]
  | .unsubscribe topic, .submitted .accepted => [.unsubscribe topic]
  | _, _ => []

theorem Act.commanded_done (a : Act) : a.commanded .done = [] := by
  cases a <;> rfl

/-- The command that an errand carries out. -/
def Errand.commands : Errand → List Command
  | .subscribe topic => [.subscribe topic]
  | .unsubscribe topic => [.unsubscribe topic]
  | _ => []

theorem Errand.remembered_eq (topics : Std.ExtTreeSet String) (e : Errand) :
    Agent.remembered topics e = e.commands.foldl Command.remember topics := by
  cases e <;> rfl

/-! ## The worker -/

/-- The worker has found no command in this iteration. -/
def FoundNone : Phase → Prop
  | .polling busy | .sending busy => busy = false
  | .idling => True
  | _ => False

theorem not_foundNone_sending : ¬ FoundNone (.sending true) := by
  simp [FoundNone]

/-- The errand of a step carries out the oldest command, if it is time. -/
theorem workErrand_commands (r : Relay) :
    (workErrand r).commands =
      if r.phase = .commanding then r.commands.items.head?.toList else [] := by
  rw [workErrand]
  cases hphase : r.phase with
  | commanding =>
      cases hitems : r.commands.items with
      | nil => rfl
      | cons c rest => cases c <;> rfl
  | checking =>
      simp only [reduceCtorEq, if_false]
      split <;> rfl
  | sending busy =>
      simp only [reduceCtorEq, if_false]
      split <;> rfl
  | _ => rfl

theorem takeDelivery_commands (t : Transport σ) (busy : Bool)
    (s : Stage Relay σ) :
    Task.Ends (takeDelivery t busy) s fun _ s' =>
      s'.self.commands = s.self.commands ∧
        (FoundNone s'.self.phase → busy = false) := by
  have h := takeDelivery_goes t busy s
  unfold Task.Ends at h ⊢
  obtain ⟨phase, hgoing, hleaves⟩ := h
  refine ⟨hleaves.commands, ?_⟩
  rw [hleaves.phase]
  cases hgoing with
  | without => exact id
  | reading => exact not_foundNone_sending.elim
  | complete => exact False.elim

theorem deliver_commands (m : Message) (s : Stage Relay σ) :
    Task.Ends (deliver m) s fun _ s' =>
      s'.self.commands = s.self.commands ∧ ¬ FoundNone s'.self.phase := by
  refine (deliver_spec m s).imp fun _ s' h => ?_
  rw [h.1]
  refine ⟨commands_delivered _ _ _, fun hnone => ?_⟩
  obtain hphase | hphase := phase_delivered s.self m s.site.clock
  · rw [hphase] at hnone
    exact not_foundNone_sending hnone
  · rw [hphase] at hnone
    exact hnone

theorem sendNext_commands (t : Transport σ) (busy : Bool)
    (s : Stage Relay σ) :
    Task.Ends (sendNext t busy) s fun _ s' =>
      s'.self.commands = s.self.commands ∧
        (FoundNone s'.self.phase → busy = false) := by
  cases hitems : s.self.outbound.items with
  | nil =>
      refine (sendNext_none hitems).imp fun _ s' h => ?_
      rw [h.1]
      cases busy with
      | false => exact ⟨rfl, fun _ => rfl⟩
      | true => exact ⟨rfl, False.elim⟩
  | cons m rest =>
      have h := sendNext_spec t busy hitems
      unfold Task.Ends at h ⊢
      obtain ⟨_, h⟩ := h
      refine ⟨h.commands, fun hnone => ?_⟩
      rw [h.phase] at hnone
      exact hnone.elim

/-- A step takes a command out of the queue where the worker looks for one. The
worker has found none after the step if it has just looked, or had found none
before. -/
theorem step_commands (t : Transport σ) (s : Stage Relay σ) :
    Task.Ends (step t) s fun _ s' =>
      s'.self.commands.items =
          (if s.self.phase = .commanding then s.self.commands.items.tail
            else s.self.commands.items) ∧
        (FoundNone s'.self.phase →
          s.self.phase = .commanding ∧ s.self.commands.items = [] ∨
            FoundNone s.self.phase ∧ s.self.phase ≠ .idling) := by
  simp only [step, Task.ends_bind, Task.ends_self]
  cases hphase : s.self.phase with
  | starting | blocked | idling => exact ⟨rfl, False.elim⟩
  | stopped => exact ⟨rfl, fun h => (hphase ▸ h : FoundNone .stopped).elim⟩
  | checking =>
      simp only [Task.ends_bind, ends_shouldStop]
      split
      · have h := stop_spec t { s with self := s.self.looked }
        unfold Task.Ends at h ⊢
        refine ⟨?_, fun hnone => ?_⟩
        · rw [h.commands]
          exact congrArg Queue.items (commands_looked s.self)
        · rw [h.phase] at hnone
          exact hnone.elim
      · exact ⟨congrArg Queue.items (commands_looked s.self), False.elim⟩
  | commanding =>
      simp only
      cases hitems : s.self.commands.items with
      | nil =>
          have h := applyCommand_none t hitems
          unfold Task.Ends at h ⊢
          refine ⟨?_, fun _ => .inl ⟨trivial, rfl⟩⟩
          rw [h.commands]
          exact hitems
      | cons c rest =>
          have h := applyCommand_spec t hitems
          unfold Task.Ends at h ⊢
          refine ⟨?_, fun hnone => ?_⟩
          · rw [h.commands]
            rfl
          · rw [h.phase] at hnone
            cases hnone
  | polling busy =>
      refine (takeDelivery_commands t busy s).imp fun _ s' h => ?_
      obtain ⟨hcommands, hbusy⟩ := h
      exact ⟨congrArg Queue.items hcommands, fun hnone =>
        .inr ⟨hbusy hnone, by simp⟩⟩
  | delivering m =>
      refine (deliver_commands m s).imp fun _ s' h => ?_
      obtain ⟨hcommands, hnot⟩ := h
      exact ⟨congrArg Queue.items hcommands, fun hnone => absurd hnone hnot⟩
  | sending busy =>
      refine (sendNext_commands t busy s).imp fun _ s' h => ?_
      obtain ⟨hcommands, hbusy⟩ := h
      exact ⟨congrArg Queue.items hcommands, fun hnone =>
        .inr ⟨hbusy hnone, by simp⟩⟩

/-- A worker that has found no command, and is not asleep, has not been given
one since. -/
def UpToDate (r : Relay) : Prop :=
  FoundNone r.phase → r.phase ≠ .idling → r.commands.items = []

theorem upToDate_of_isAtRest {r : Relay} (h : r.isAtRest = true) :
    r.UpToDate := by
  intro hnone hawake
  rw [isAtRest, sleep?, isStopped] at h
  cases hphase : r.phase <;> simp_all [FoundNone]

theorem step_upToDate (t : Transport σ) {s : Stage Relay σ}
    (hs : s.self.UpToDate) :
    Task.Ends (step t) s fun _ s' =>
      FoundNone s'.self.phase → s'.self.commands.items = [] := by
  refine (step_commands t s).imp fun _ s' h hnone => ?_
  obtain ⟨hcommands, hfound⟩ := h
  rw [hcommands]
  obtain ⟨hphase, hempty⟩ | ⟨hbefore, hawake⟩ := hfound hnone
  · rw [if_pos hphase, hempty, List.tail_nil]
  · rw [hs hbefore hawake]
    exact ite_self _

theorem run_upToDate (t : Transport σ) (fuel : Nat) {s : Stage Relay σ}
    (hs : FoundNone s.self.phase → s.self.commands.items = []) :
    Task.Ends (run t fuel) s fun _ s' =>
      FoundNone s'.self.phase → s'.self.commands.items = [] := by
  induction fuel generalizing s with
  | zero => exact hs
  | succ fuel ih =>
      simp only [run, Task.ends_bind, Task.ends_self]
      cases s.self.isAtRest with
      | true => exact hs
      | false =>
          simp only [Bool.false_eq_true, if_false, Task.ends_bind]
          exact (step_upToDate t fun hnone _ => hs hnone).imp
            fun _ _ h => ih h

/-- A worker that wakes and is left alone until it sleeps leaves no command
behind. -/
theorem settle_upToDate (t : Transport σ) {s : Stage Relay σ}
    (hs : s.self.UpToDate) :
    Task.Ends (settle t) s fun _ s' =>
      FoundNone s'.self.phase → s'.self.commands.items = [] := by
  simp only [settle, Task.ends_bind]
  exact (step_upToDate t hs).imp fun _ _ h => run_upToDate t _ h

/-! ## All turns -/

/-- Callers do not move the worker. -/
theorem Turned.phase {r r' : Relay} {a : Act} {answer : Answer}
    {result : Errand.Result} (h : Turned r a answer result r')
    (ha : a ≠ .work) : r'.phase = r.phase := by
  cases h <;> first | rfl | exact absurd rfl ha

/-- What was queued and what is accepted is what the agent is sent on and what
is queued afterwards. -/
theorem perform_commands (t : Transport σ) (a : Act) (s : Stage Relay σ) :
    Task.Ends (perform t a) s fun answer s' =>
      s.self.commands.items ++ a.commanded answer =
        (errand s.self a).commands ++ s'.self.commands.items := by
  cases a with
  | work =>
      simp only [perform, Task.ends_map]
      refine (step_commands t s).imp fun _ s' h => ?_
      rw [Act.commanded_done, List.append_nil, h.1, errand, workErrand_commands]
      split
      · cases s.self.commands.items <;> rfl
      · rfl
  | subscribe topic | unsubscribe topic =>
      simp only [perform, subscribe, unsubscribe, command, Task.ends_map,
        Task.ends_bind, Task.ends_self]
      split
      · exact List.append_nil _
      · split
        · exact List.append_nil _
        · rfl
  | send m =>
      simp only [perform, send, Task.ends_map, Task.ends_bind, Task.ends_self]
      split
      · exact List.append_nil _
      · split
        · exact List.append_nil _
        · split <;> exact List.append_nil _
  | receive =>
      simp only [perform, receive, Task.ends_map, Task.ends_bind,
        Task.ends_self]
      split <;> exact List.append_nil _
  | kill =>
      simp only [perform, kill, Task.ends_map, Task.ends_bind, Task.ends_self]
      split <;> exact List.append_nil _
  | setAddress | setClient | askAddress | abandon | rates | wait =>
      exact List.append_nil _

/-- Does the worker look for a command and find none? -/
def looksInVain (r : Relay) : Act → Bool
  | .work => r.phase = .commanding && r.commands.items.isEmpty
  | _ => false

theorem perform_foundNone (t : Transport σ) (a : Act) (s : Stage Relay σ) :
    Task.Ends (perform t a) s fun _ s' =>
      FoundNone s'.self.phase →
        s.self.looksInVain a = true ∨ FoundNone s.self.phase := by
  by_cases ha : a = .work
  · subst ha
    simp only [perform, Task.ends_map]
    refine (step_commands t s).imp fun _ s' h hnone => ?_
    refine (h.2 hnone).imp (fun hlooks => ?_) And.left
    simp [looksInVain, hlooks]
  · have h := perform_turned t a s
    unfold Task.Ends at h ⊢
    obtain ⟨r', hturned, hleaves⟩ := h
    intro hnone
    rw [hleaves.phase, hturned.phase ha] at hnone
    exact .inr hnone

/-- A worker that has found no command does not carry one out. -/
theorem errand_commands_of_foundNone {r : Relay} (h : FoundNone r.phase)
    (a : Act) : (errand r a).commands = [] := by
  cases a with
  | work =>
      rw [errand, workErrand_commands, if_neg]
      intro hphase
      rw [hphase] at h
      exact h
  | _ => rfl

theorem commands_of_looksInVain {r : Relay} {a : Act}
    (h : r.looksInVain a = true) :
    r.commands.items = [] ∧ (errand r a).commands = [] ∧
      ∀ answer, a.commanded answer = [] := by
  cases a with
  | work =>
      rw [looksInVain, Bool.and_eq_true, List.isEmpty_iff] at h
      refine ⟨h.2, ?_, fun _ => rfl⟩
      rw [errand, workErrand_commands, h.2]
      exact ite_self _
  | _ => cases h

end Relay

end Courier
