import Courier.Proofs.Agent.Visits
import Courier.Proofs.Relay.Commands
import Courier.Proofs.Relay.Kill

/-!
# The way out of a worker

A worker that is asleep when it is told to stop sleeps between two iterations
or in the middle of one. Between two it looks for the request next, and
stops. In the middle it holds a message for which there was no room: it tries
to hand this over once more, makes one attempt to send another, as in any
iteration, and then looks.

On neither way does it take anything up. `WayOut` says what has come of all
turns since, and it is kept by every turn of whoever it may be. That nothing
is polled shows on the record, because an errand other than a poll does the
same over a transport that has nothing to poll (`Errand.run_deaf`).
-/

namespace Courier

/-- Does a client take something in by this call, or ask whether it could? -/
def Exchange.takesIn : Exchange → Bool
  | .poll _ | .receive _ => true
  | _ => false

def Exchange.polls (calls : List Exchange) : List Exchange :=
  calls.filter takesIn

theorem polls_push {calls : Array Exchange} {call : Exchange}
    (h : call.takesIn = false) :
    Exchange.polls (calls.push call).toList =
      Exchange.polls calls.toList := by
  simp [Exchange.polls, h]

/-- The transport, if it had nothing to poll and nothing to receive. -/
def Transport.deaf {σ : Type} (t : Transport σ) : Transport σ :=
  { t with
    poll := fun c n => { value := (.ok false, c), net := n }
    receive := fun c n => { value := (.error .nothingWaiting, c), net := n } }

namespace Phase

/-- Where a worker that has been told to stop goes from here, if this is on its
way out. -/
def leave : Phase → Phase
  | .blocked m => .delivering m
  | .delivering _ => .sending true
  | .idling | .sending _ => .checking
  | .checking => .stopped
  | phase => phase

/-- Does a worker take nothing up any more, if it has been told to stop here? -/
def isOnWayOut : Phase → Bool
  | .blocked _ | .delivering _ | .sending true | .checking | .idling
  | .stopped => true
  | _ => false

/-- How many messages a worker on its way out may still attempt to send. -/
def toSend : Phase → Nat
  | .blocked _ | .delivering _ | .sending _ => 1
  | _ => 0

/-- Where a worker that is asleep here goes when it is told to stop, until it
has stopped. -/
def wayOut : Phase → List Phase
  | .blocked m => [.blocked m, .delivering m, .sending true, .checking]
  | .idling => [.idling, .checking]
  | _ => []

theorem leave_wayOut (phase : Phase) (steps : Nat) :
    leave (phase.wayOut[steps]?.getD .stopped) =
      phase.wayOut[steps + 1]?.getD .stopped := by
  cases phase with
  | blocked m => rcases steps with _ | _ | _ | _ | steps <;> rfl
  | idling => rcases steps with _ | _ | steps <;> rfl
  | _ => rfl

theorem isOnWayOut_wayOut (phase : Phase) (steps : Nat) :
    isOnWayOut (phase.wayOut[steps]?.getD .stopped) = true := by
  cases phase with
  | blocked m => rcases steps with _ | _ | _ | _ | steps <;> rfl
  | idling => rcases steps with _ | _ | steps <;> rfl
  | _ => rfl

end Phase

namespace Agent

variable {σ α : Type} (t : Transport σ)

theorem rejoin_deaf (c : Connection) (topics : List String) :
    rejoin t.deaf c topics = rejoin t c topics := by
  induction topics generalizing c with
  | nil => rfl
  | cons topic rest ih =>
      simp only [rejoin, ih]
      rfl

theorem establish_deaf (c : Connection) :
    establish t.deaf c = establish t c := by
  simp only [establish, rejoin_deaf]

theorem connectFrom_deaf (attempt remaining : Nat) :
    connectFrom t.deaf attempt remaining =
      connectFrom t attempt remaining := by
  induction remaining generalizing attempt with
  | zero => rfl
  | succ remaining ih =>
      simp only [connectFrom, ih, establish_deaf]
      rfl

theorem connect_deaf : connect t.deaf = connect t := by
  simp only [connect, connectFrom_deaf]

theorem request_deaf (f : SessionCall σ α) (failed : Fault → Failure) :
    request t.deaf f failed = request t f failed := by
  simp only [request, connect_deaf]
  rfl

theorem disconnect_session (s : Stage Agent σ) :
    Task.Ends (disconnect t) s fun _ s' => s'.self.session = none := by
  refine (disconnect_disconnects s).imp fun _ s' h => ?_
  rw [h.self_eq]

theorem disconnect_record (s : Stage Agent (Recorded σ)) :
    Task.Ends (disconnect (Recorded.transport t)) s fun _ s' =>
      s.site.net.Adds s'.site.net
        (if s.self.isConnected then [.disconnect] else []) := by
  refine (disconnect_disconnects s).imp fun _ s' h => ?_
  cases h with
  | idle hnone =>
      rw [isConnected, hnone]
      exact .refl _
  | ended hsession =>
      rw [isConnected, hsession]
      exact Recorded.adds_push _

end Agent

namespace Relay

variable {σ : Type}

/-! ## Errands that take nothing up -/

/-- Does the errand carry out a command, or poll? -/
def Errand.takesUp : Errand → Bool
  | .subscribe _ | .unsubscribe _ | .poll => true
  | _ => false

theorem Errand.commands_eq_nil {e : Errand} (h : e.takesUp = false) :
    e.commands = [] := by
  cases e <;> first | rfl | cases h

/-- An errand other than a poll does not notice that there is nothing to
poll. -/
theorem Errand.run_deaf (t : Transport σ) {e : Errand}
    (h : e.takesUp = false) : e.run t.deaf = e.run t := by
  cases e with
  | poll | subscribe | unsubscribe => cases h
  | none | setAddress | setClient | disconnect => rfl
  | askAddress => simp only [run, Agent.address, Agent.connect_deaf]
  | send m =>
      simp only [run, Agent.send, Agent.request_deaf]
      rfl

theorem Errand.run_polls (t : Transport σ) {e : Errand}
    (h : e.takesUp = false) (s : Stage Agent (Recorded σ)) :
    Task.Ends (e.run (Recorded.transport t)) s fun _ s' =>
      Exchange.polls s'.site.net.calls.toList =
        Exchange.polls s.site.net.calls.toList := by
  have hkeeps : (Recorded.transport t).deaf.Keeps fun n =>
      Exchange.polls n.calls.toList =
        Exchange.polls s.site.net.calls.toList :=
    { connect := fun _ _ _ hn => (polls_push rfl).trans hn
      join := fun _ _ _ hn => (polls_push rfl).trans hn
      leave := fun _ _ _ hn => (polls_push rfl).trans hn
      multicast := fun _ _ _ _ _ _ hn => (polls_push rfl).trans hn
      poll := fun _ _ hn => hn
      receive := fun _ _ hn => hn
      disconnect := fun _ _ hn => (polls_push rfl).trans hn }
  have hkept := (e.run_covers (Transport.within_covers hkeeps)).keeps
    (s := s) rfl
  rwa [run_deaf _ h] at hkept

theorem Errand.run_topics (t : Transport σ) {e : Errand}
    (h : e.takesUp = false) (s : Stage Agent σ) :
    Task.Ends (e.run t) s fun _ s' => s'.self.topics = s.self.topics := by
  refine Watched.ends_of_covers (e.run_covers (Watched.covers t))
    (P := fun _ agent => agent.topics = s.self.topics) fun s' hself => ?_
  refine (Agent.run_visits e s').imp fun _ s'' hvisits => ?_
  rw [hvisits.1, e.remembered_eq, commands_eq_nil h, hself]
  rfl

/-! ## The last turn of a worker -/

section Turns

variable {r r' : Relay} {a : Act} {answer : Answer} {result : Errand.Result}

theorem delivered_active (m : Message) (now : Nat) :
    (r.delivered m now).phase ≠ .stopped := by
  rw [delivered]
  split
  · simp
  · split
    · simp only
      split <;> simp
    · simp

/-- A worker stops in one kind of step. -/
theorem Worked.stops (h : Worked r result r') (hstopped : r'.phase = .stopped) :
    r.phase = .stopped ∨
      workErrand r = .disconnect ∧ r'.assemblies = .empty := by
  cases h with
  | stop at_ told =>
      rw [workErrand, at_]
      exact .inr ⟨if_pos told, rfl⟩
  | rest at_ => exact .inl at_
  | poll _ _ _ active => exact absurd hstopped active
  | deliver => exact absurd hstopped (delivered_active _ _)
  | @noMessage busy => cases busy <;> cases hstopped
  | _ => cases hstopped

theorem Turned.stops (h : Turned r a answer result r')
    (hactive : r.phase ≠ .stopped) (hstopped : r'.phase = .stopped) :
    errand r a = .disconnect ∧ r'.assemblies = .empty := by
  cases h with
  | work worked => exact (worked.stops hstopped).resolve_left hactive
  | _ => exact absurd hstopped hactive

/-- A worker that stops disconnects its agent, and no message is open any
more. -/
theorem perform_stops (t : Transport σ) (a : Act) {s : Stage Relay σ}
    (hactive : s.self.isStopped = false) :
    Task.Ends (Agent.disconnect t) (atAgent s) fun _ s₁ =>
      Task.Ends (perform t a) s fun _ s' => s'.self.isStopped = true →
        s'.self.assemblies = .empty ∧ s'.self.agent = s₁.self ∧
          s'.site.net = s₁.site.net := by
  have hturned := perform_turned t a s
  unfold Task.Ends at hturned ⊢
  obtain ⟨r', hturned, hleaves⟩ := hturned
  intro hstopped
  rw [hleaves.self] at hstopped
  obtain ⟨herrand, hassemblies⟩ := hturned.stops
    (of_decide_eq_false hactive) (of_decide_eq_true hstopped)
  rw [herrand] at hleaves
  refine ⟨?_, hleaves.agent, hleaves.net⟩
  rw [hleaves.self]
  exact hassemblies

/-- How a worker stops: it forgets what it has open, and ends the session, if
there is one. -/
structure Stops (s s' : Stage Relay (Recorded σ)) : Prop where
  assemblies : s'.self.assemblies = .empty
  session : s'.self.agent.session = none
  calls : s.site.net.Adds s'.site.net
    (if s.self.agent.isConnected then [.disconnect] else [])

theorem Turn.take_stops (t : Transport σ) (turn : Turn σ)
    {s : Stage Relay (Recorded σ)} (hactive : s.self.isStopped = false) :
    Task.Ends (turn.take t) s fun _ s' =>
      s'.self.isStopped = true → Stops s s' := by
  cases turn with
  | elsewhere f =>
      intro hstopped
      exact absurd (hactive.symm.trans hstopped) Bool.false_ne_true
  | act a =>
      have hstops := perform_stops (Recorded.transport t) a hactive
      have hsession := Agent.disconnect_session (Recorded.transport t)
        (atAgent s)
      have hrecord := Agent.disconnect_record t (atAgent s)
      unfold Task.Ends at hstops hsession hrecord ⊢
      intro hstopped
      obtain ⟨hassemblies, hagent, hnet⟩ := hstops hstopped
      exact ⟨hassemblies, hagent ▸ hsession, hnet ▸ hrecord⟩

/-! ## The inbound queue -/

/-- The message that the worker hands over in a turn: the one that it is to
deliver, if the callers are there and the queue has room. -/
def handsOver (r : Relay) : Act → List Message
  | .work =>
    match r.phase with
    | .delivering m => if r.abandoned || r.inbound.isFull then [] else [m]
    | _ => []
  | _ => []

theorem handsOver_eq_nil (ha : a ≠ .work) : r.handsOver a = [] := by
  cases a <;> first | rfl | exact absurd rfl ha

theorem Worked.inbound (h : Worked r result r') :
    r'.inbound.items = r.inbound.items ++ r.handsOver .work := by
  cases h with
  | @deliver m now at_ =>
      rw [handsOver, at_, delivered]
      split
      · next habandoned => simp [habandoned]
      · split
        · next hfull => simp [hfull, inbound_looked]
        · next habandoned hroom => simp [habandoned, hroom]
  | stop at_ | goOn at_ =>
      rw [handsOver, at_]
      exact (congrArg Queue.items r.inbound_looked).trans
        (List.append_nil _).symm
  | start at_ | noCommand at_ | command at_ | poll at_ | retry at_
  | noMessage at_ | send at_ | wake at_ | rest at_ =>
      rw [handsOver, at_]
      exact (List.append_nil _).symm

theorem Turned.inbound (h : Turned r a answer result r') (ha : a ≠ .work) :
    a.received answer ++ r'.inbound.items = r.inbound.items := by
  cases h with
  | work => exact absurd rfl ha
  | received oldest => exact oldest.symm
  | aside _ nothing =>
      rw [nothing]
      rfl
  | _ => rfl

end Turns

/-- What a step of the worker makes of the relay. -/
theorem step_relay (t : Transport σ) (s : Stage Relay σ) :
    Task.Ends (step t) s fun _ s' => ∃ result r', Worked s.self result r' ∧
      s'.self = { r' with agent := s'.self.agent } := by
  have h := step_worked t s
  unfold Task.Ends at h ⊢
  obtain ⟨r', hworked, hleaves⟩ := h
  refine ⟨_, r', hworked, ?_⟩
  rw [hleaves.agent]
  exact hleaves.self

/-- What is received and what is queued afterwards is what was queued and what
the worker hands over. -/
theorem perform_inbound (t : Transport σ) (a : Act) (s : Stage Relay σ) :
    Task.Ends (perform t a) s fun answer s' =>
      a.received answer ++ s'.self.inbound.items =
        s.self.inbound.items ++ s.self.handsOver a := by
  by_cases ha : a = .work
  · subst ha
    simp only [perform, Task.ends_map]
    refine (step_relay t s).imp fun _ s' h => ?_
    obtain ⟨result, r', hworked, hself⟩ := h
    rw [hself]
    exact hworked.inbound
  · have h := perform_turned t a s
    simp only [Task.Ends] at h ⊢
    obtain ⟨r', hturned, hleaves⟩ := h
    rw [hleaves.self, handsOver_eq_nil ha, List.append_nil]
    exact hturned.inbound ha

/-! ## Where the worker goes -/

theorem Decided.told {r : Relay} (h : r.Decided)
    (hactive : r.phase ≠ .stopped) : r.told = true :=
  h.resolve_right fun hstopped => hactive (of_decide_eq_true hstopped)

theorem Worked.leave {r r' : Relay} {result : Errand.Result}
    (h : Worked r result r') (hdecided : r.Decided)
    (hout : r.phase.isOnWayOut = true) : r'.phase = r.phase.leave := by
  cases h with
  | start at_ | noCommand at_ | command at_ | poll at_ =>
      rw [at_] at hout
      cases hout
  | goOn at_ untold =>
      have htold := hdecided.told (by rw [at_]; simp)
      cases htold.symm.trans untold
  | stop at_ | retry at_ | send at_ | wake at_ | rest at_ =>
      rw [at_]
      rfl
  | @noMessage busy at_ =>
      rw [at_] at hout ⊢
      cases busy with
      | false => cases hout
      | true => rfl
  | @deliver m now at_ =>
      have htold := hdecided.told (by rw [at_]; simp)
      rw [at_, delivered]
      split
      · rfl
      · split
        · exact if_pos htold
        · rfl

def Act.works : Act → Bool
  | .work => true
  | _ => false

/-- Where an act takes a worker on its way out. -/
def Act.moves (a : Act) (phase : Phase) : Phase :=
  if a.works then phase.leave else phase

theorem Act.moves_eq_self {a : Act} (ha : a ≠ .work) (phase : Phase) :
    a.moves phase = phase := by
  cases a <;> first | rfl | exact absurd rfl ha

theorem perform_leaves (t : Transport σ) (a : Act) {s : Stage Relay σ}
    (hdecided : s.self.Decided) (hout : s.self.phase.isOnWayOut = true) :
    Task.Ends (perform t a) s fun _ s' =>
      s'.self.phase = a.moves s.self.phase := by
  by_cases ha : a = .work
  · subst ha
    simp only [perform, Task.ends_map]
    refine (step_relay t s).imp fun _ s' h => ?_
    obtain ⟨result, r', hworked, hself⟩ := h
    rw [hself]
    exact hworked.leave hdecided hout
  · have h := perform_turned t a s
    simp only [Task.Ends] at h ⊢
    obtain ⟨r', hturned, hleaves⟩ := h
    rw [hleaves.phase, hturned.phase ha, Act.moves_eq_self ha]

section WayOut

variable {r : Relay} (hout : r.phase.isOnWayOut = true) (a : Act)

include hout

/-- On its way out a worker sends its agent on no errand that takes anything
up. -/
theorem errand_takesUp : (errand r a).takesUp = false := by
  cases a with
  | work =>
      rw [errand, workErrand]
      cases hphase : r.phase with
      | starting | commanding | polling =>
          rw [hphase] at hout
          cases hout
      | checking =>
          simp only
          split <;> rfl
      | sending busy =>
          simp only
          split <;> rfl
      | _ => rfl
  | _ => rfl

theorem tried_add_toSend :
    (errand r a).tried.length + (a.moves r.phase).toSend ≤ r.phase.toSend := by
  by_cases ha : a = .work
  · subst ha
    rw [errand, workErrand, Act.moves]
    cases hphase : r.phase with
    | starting | commanding | polling =>
        rw [hphase] at hout
        cases hout
    | checking =>
        simp only
        split <;> exact Nat.le_refl _
    | sending busy =>
        simp only
        split
        · exact Nat.zero_le _
        · exact Nat.le_refl _
    | _ => exact Nat.le_refl _
  · have hnone : (errand r a).tried = [] := by
      cases a <;> first | rfl | exact absurd rfl ha
    rw [Act.moves_eq_self ha, hnone]
    exact Nat.le_of_eq (Nat.zero_add _)

theorem handsOver_inHand :
    (r.handsOver a ++ (a.moves r.phase).inHand).Sublist r.phase.inHand := by
  by_cases ha : a = .work
  · subst ha
    rw [handsOver, Act.moves]
    cases hphase : r.phase with
    | starting | commanding | polling =>
        rw [hphase] at hout
        cases hout
    | delivering m =>
        simp only
        split
        · exact List.nil_sublist _
        · exact .refl _
    | _ => exact .refl _
  · rw [handsOver_eq_nil ha, Act.moves_eq_self ha]
    exact .refl _

end WayOut

/-! ## Runs -/

def Turn.works : Turn σ → Bool
  | .act a => a.works
  | .elsewhere _ => false

def commandedAt (m : Moment (Stage Relay (Recorded σ)) (Turn σ) Answer) :
    List Command :=
  match m.turn with
  | .act a => a.commanded m.answer
  | .elsewhere _ => []

def handedOverAt (m : Moment (Stage Relay (Recorded σ)) (Turn σ) Answer) :
    List Message :=
  match m.turn with
  | .act a => m.before.self.handsOver a
  | .elsewhere _ => []

namespace History

variable (h : History σ)

/-- How many steps the worker has taken. -/
def steps : Nat :=
  h.past.countP fun m => m.turn.works

/-- The commands that were accepted. -/
def commanded : List Command :=
  h.past.flatMap commandedAt

/-- The messages that the worker has put into the inbound queue. -/
def handedOver : List Message :=
  h.past.flatMap handedOverAt

variable {h} {s : Stage Relay (Recorded σ)}
  {m : Moment (Stage Relay (Recorded σ)) (Turn σ) Answer}

theorem steps_push :
    steps ⟨s, h.past ++ [m]⟩ = h.steps + if m.turn.works then 1 else 0 := by
  rw [steps, List.countP_append, List.countP_singleton]
  rfl

theorem commanded_push :
    commanded ⟨s, h.past ++ [m]⟩ = h.commanded ++ commandedAt m := by
  rw [commanded, List.flatMap_append, List.flatMap_singleton]
  rfl

theorem handedOver_push :
    handedOver ⟨s, h.past ++ [m]⟩ = h.handedOver ++ handedOverAt m := by
  rw [handedOver, List.flatMap_append, List.flatMap_singleton]
  rfl

end History

/-- What a turn does while the worker is on its way out. -/
structure Exits (m : Moment (Stage Relay (Recorded σ)) (Turn σ) Answer) :
    Prop where
  decided : m.after.self.Decided
  phase : m.after.self.phase =
    if m.turn.works then m.before.self.phase.leave else m.before.self.phase
  commands : m.after.self.commands.items =
    m.before.self.commands.items ++ commandedAt m
  topics : m.after.self.agent.topics = m.before.self.agent.topics
  polls : Exchange.polls m.after.site.net.calls.toList =
    Exchange.polls m.before.site.net.calls.toList
  attempts : (attemptsAt m).length + m.after.self.phase.toSend ≤
    m.before.self.phase.toSend
  inbound : receivedAt m ++ m.after.self.inbound.items =
    m.before.self.inbound.items ++ handedOverAt m
  handed : (handedOverAt m ++ m.after.self.phase.inHand).Sublist
    m.before.self.phase.inHand

section Exits

variable (t : Transport σ) {h : History σ}
  (hdecided : h.state.self.Decided)
  (hout : h.state.self.phase.isOnWayOut = true)

include hdecided hout

theorem act_exits (a : Act) : Exits (h.moment (Turn.take t) (.act a)) := by
  have htakesUp := errand_takesUp hout a
  have hturned := perform_turned (Recorded.transport t) a h.state
  have hphase := perform_leaves (Recorded.transport t) a hdecided hout
  have hcommands := perform_commands (Recorded.transport t) a h.state
  have hinbound := perform_inbound (Recorded.transport t) a h.state
  have htopics := Errand.run_topics (Recorded.transport t) htakesUp
    (atAgent h.state)
  have hpolls := Errand.run_polls t htakesUp (atAgent h.state)
  simp only [Task.Ends] at hturned hphase hcommands hinbound htopics hpolls
  obtain ⟨r', -, hleaves⟩ := hturned
  rw [Errand.commands_eq_nil htakesUp, List.nil_append] at hcommands
  rw [← hleaves.agent] at htopics
  rw [← hleaves.net] at hpolls
  refine ⟨Turn.take_decided t (.act a) hdecided, hphase, hcommands.symm,
    htopics, hpolls, ?_, hinbound, ?_⟩
  · have hone : (attemptsAt (h.moment (Turn.take t) (.act a))).length =
        (errand h.state.self a).tried.length := List.length_map ..
    rw [hone]
    exact hphase ▸ tried_add_toSend hout a
  · exact hphase ▸ handsOver_inHand hout a

theorem turn_exits (turn : Turn σ) : Exits (h.moment (Turn.take t) turn) := by
  cases turn with
  | act a => exact act_exits t hdecided hout a
  | elsewhere f =>
      exact ⟨hdecided, rfl, (List.append_nil _).symm, rfl, rfl,
        Nat.le_of_eq (Nat.zero_add _), (List.append_nil _).symm, .refl _⟩

end Exits

/-- What has come of the turns of a run, if the worker was asleep at stage `s`
and was told to stop there. -/
structure WayOut (s : Stage Relay (Recorded σ)) (h : History σ) : Prop where
  decided : h.state.self.Decided
  phase : h.state.self.phase = s.self.phase.wayOut[h.steps]?.getD .stopped
  /-- Commands are queued still, but none is taken out of the queue. -/
  commands : h.state.self.commands.items = s.self.commands.items ++ h.commanded
  topics : h.state.self.agent.topics = s.self.agent.topics
  polls : Exchange.polls h.calls = Exchange.polls s.site.net.calls.toList
  /-- One attempt to send is left to a worker that is held up, and none to one
  that sleeps between two iterations. -/
  attempts : h.attempts.length + h.state.self.phase.toSend ≤
    s.self.phase.toSend
  inbound : h.received ++ h.state.self.inbound.items =
    s.self.inbound.items ++ h.handedOver
  /-- No message is handed over but the one that held the worker up. -/
  handed : (h.handedOver ++ h.state.self.phase.inHand).Sublist
    s.self.phase.inHand

theorem WayOut.take {s : Stage Relay (Recorded σ)} {h : History σ}
    (hway : WayOut s h) (t : Transport σ) (turn : Turn σ) :
    WayOut s (Run.take (Turn.take t) h turn) := by
  have hexits := turn_exits t hway.decided
    (hway.phase ▸ Phase.isOnWayOut_wayOut ..) turn
  obtain ⟨m, hbefore, hm⟩ : ∃ m, m.before = h.state ∧
      m = h.moment (Turn.take t) turn := ⟨_, rfl, rfl⟩
  rw [Run.take, ← hm]
  rw [← hm] at hexits
  obtain ⟨hdecided, hphase, hcommands, htopics, hpolls, hattempts, hinbound,
    hhanded⟩ := hexits
  rw [hbefore] at hphase hcommands htopics hpolls hattempts hinbound hhanded
  refine ⟨hdecided, ?_, ?_, htopics.trans hway.topics,
    hpolls.trans hway.polls, ?_, ?_, ?_⟩
  · rw [hphase, hway.phase, History.steps_push]
    split
    · exact Phase.leave_wayOut ..
    · rfl
  · rw [hcommands, hway.commands, History.commanded_push, List.append_assoc]
  · have hsofar := hway.attempts
    rw [History.attempts_push, List.length_append]
    show _ + (attemptsAt m).length + m.after.self.phase.toSend ≤ _
    omega
  · rw [History.received_push, History.handedOver_push, List.append_assoc,
      hinbound, ← List.append_assoc, hway.inbound, List.append_assoc]
  · rw [History.handedOver_push, List.append_assoc]
    exact (hhanded.append_left h.handedOver).trans hway.handed

theorem kill_relay (s : Stage Relay σ) :
    Task.Ends kill s fun _ s' =>
      ∃ killRequested, s'.self = { s.self with killRequested } ∧
        s'.site.net = s.site.net := by
  simp only [kill, Task.ends_bind, Task.ends_self]
  split
  · exact ⟨_, rfl, rfl⟩
  · exact ⟨_, rfl, rfl⟩

theorem phase_of_asleep {r : Relay} (h : r.sleep?.isSome = true) :
    r.phase.wayOut[0]?.getD .stopped = r.phase := by
  rw [sleep?] at h
  cases hphase : r.phase <;> rw [hphase] at h <;> first | rfl | cases h

/-- A worker that is told to stop while it is asleep is on its way out. -/
theorem wayOut_kill (t : Transport σ) {s : Stage Relay (Recorded σ)}
    (hasleep : s.self.sleep?.isSome = true) (more : List (Turn σ)) :
    WayOut s (Run.of (Turn.take t) s (.act .kill :: more)) := by
  refine Run.invariant_cons ?_ fun h turn _ hway => hway.take t turn
  have hdecided := kill_decided s
  have hkill := kill_relay s
  simp only [Task.Ends] at hdecided hkill
  obtain ⟨killRequested, hself, hnet⟩ := hkill
  refine ⟨hdecided, ?_, ?_, congrArg (·.agent.topics) hself,
    congrArg (fun net => Exchange.polls net.calls.toList) hnet, ?_, ?_, ?_⟩
  · exact (congrArg Relay.phase hself).trans (phase_of_asleep hasleep).symm
  · exact (congrArg (·.commands.items) hself).trans (List.append_nil _).symm
  · refine Nat.le_of_eq ((Nat.zero_add _).trans ?_)
    exact congrArg (·.phase.toSend) hself
  · exact (congrArg (·.inbound.items) hself).trans (List.append_nil _).symm
  · have hhand := congrArg (·.phase.inHand) hself
    exact hhand ▸ .refl _

end Relay

end Courier
