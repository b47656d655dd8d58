import Courier.Proofs.Relay.Inbound
import Courier.Proofs.Relay.WayOut

/-!
# Stopping a relay

While there are callers, a worker stops for one reason: that one of them told
it to. If it is asleep then, what it does yet is bounded, whatever the
transport and the callers do meanwhile. It takes no command out of the queue
and does not poll. If it held a message, it hands this over if there is room
by then, and attempts to send one other. Then it stops.

A relay that has stopped refuses what it is given, and hands out what it has
(`Closed`).

All this is said of the runs that go on from any point of a history, and
`kill_bounds_worker` puts it together.
-/

namespace Courier

namespace Relay

variable {σ : Type}

/-- While there are callers, nothing but a request stops a worker. -/
theorem kill_of_stopped (t : Transport σ) (agent : Agent) (pace : Pace)
    (site : Site σ) (turns : List (Turn σ))
    (hstopped : (history t agent pace site turns).state.self.isStopped = true)
    (hkept : .act .abandon ∉ turns) : .act .kill ∈ turns := by
  by_contra hunasked
  have hcalm : ∀ turn ∈ turns, turn.isCalm = true := by
    rintro (a | f) hturn
    · cases a with
      | kill => exact absurd hturn hunasked
      | abandon => exact absurd hturn hkept
      | _ => rfl
    · rfl
  have hreads := inbound_reads t agent pace site turns hcalm
  exact hreads.calm.active (of_decide_eq_true hstopped)

/-! ## A worker on its way out -/

/-- What a worker has done that was asleep at stage `s` when it was told to
stop. -/
structure WindsDown (s : Stage Relay (Recorded σ)) (h : History σ) : Prop
    extends WayOut s h where
  order : s.self.outbound.items ++ h.accepted =
    h.attempts.map Attempt.message ++ h.state.self.outbound.items
  each : ∀ a ∈ h.attempts, a.IsSent ∨ a.IsFailed
  /-- No message is posted but by its attempts. -/
  postings : Exchange.postings h.calls =
    Exchange.postings s.site.net.calls.toList ++
      h.attempts.flatMap fun a => Exchange.multicasts a.calls
  stops : ∀ m ∈ h.past, m.before.self.isStopped = false →
    m.after.self.isStopped = true → Stops m.before m.after

/-- Where a run goes on from another, messages leave the outbound queue in their
order, each by one attempt, and no other message is posted. -/
theorem Conserves.onwards {pace : Pace} {h h' : History σ}
    (hinv : Conserves pace h)
    (hall : Conserves pace ⟨h'.state, h.past ++ h'.past⟩) :
    h.state.self.outbound.items ++ h'.accepted =
        h'.attempts.map Attempt.message ++ h'.state.self.outbound.items ∧
      (∀ a ∈ h'.attempts, a.IsSent ∨ a.IsFailed) ∧
      Exchange.postings h'.calls = Exchange.postings h.calls ++
        h'.attempts.flatMap fun a => Exchange.multicasts a.calls := by
  have haccepted : History.accepted ⟨h'.state, h.past ++ h'.past⟩ =
      h.accepted ++ h'.accepted := List.flatMap_append
  have hattempts : History.attempts ⟨h'.state, h.past ++ h'.past⟩ =
      h.attempts ++ h'.attempts := List.flatMap_append
  have horder := hall.order
  have heach := hall.each
  have hpostings := hall.postings
  rw [haccepted, hattempts, hinv.order, List.map_append, List.append_assoc,
    List.append_assoc] at horder
  rw [hattempts] at heach
  rw [hattempts, List.flatMap_append, ← hinv.postings] at hpostings
  exact ⟨List.append_cancel_left horder,
    fun a ha => heach a (List.mem_append_right _ ha), hpostings⟩

theorem winds_down (t : Transport σ) (agent : Agent) (pace : Pace)
    (site : Site σ) (turns more : List (Turn σ))
    (hasleep : (history t agent pace site turns).state.self.sleep?.isSome =
      true) :
    WindsDown (history t agent pace site turns).state
      (Run.of (Turn.take t) (history t agent pace site turns).state
        (.act .kill :: more)) := by
  have hall := conserves_history t agent pace site
    (turns ++ .act .kill :: more)
  rw [history, Run.of_append] at hall
  obtain ⟨horder, heach, hpostings⟩ :=
    (conserves_history t agent pace site turns).onwards hall
  refine ⟨wayOut_kill t hasleep more, horder, heach, hpostings, ?_⟩
  refine Run.forall_past (fun h turn hactive => ?_) _ _
  have hstops := turn.take_stops t (s := h.state) hactive
  exact hstops

/-! ## A relay that has stopped -/

def Act.submits (limit : Nat) : Act → Bool
  | .subscribe _ | .unsubscribe _ => true
  | .send m => (m.check limit).isOk
  | _ => false

def Act.receives : Act → Bool
  | .receive => true
  | _ => false

def Turn.receives : Turn σ → Bool
  | .act a => a.receives
  | .elsewhere _ => false

def History.receives (h : History σ) : Nat :=
  h.past.countP fun m => m.turn.receives

theorem History.receives_push {h : History σ} {s : Stage Relay (Recorded σ)}
    {m : Moment (Stage Relay (Recorded σ)) (Turn σ) Answer} :
    receives ⟨s, h.past ++ [m]⟩ =
      h.receives + if m.turn.receives then 1 else 0 := by
  rw [receives, List.countP_append, List.countP_singleton]
  rfl

/-- What has come of the turns of a run that goes on from stage `s`, if the
relay had stopped there and accepts messages up to the limit. -/
structure Closed (limit : Nat) (s : Stage Relay (Recorded σ)) (h : History σ) :
    Prop where
  stopped : h.state.self.isStopped = true
  sameLimit : h.state.self.limit = limit
  refuses : ∀ m ∈ h.past, ∀ a, m.turn = .act a → a.submits limit = true →
    m.answer = .submitted (.refused .stopped)
  queue : h.state.self.inbound.items = s.self.inbound.items.drop h.receives
  /-- What was queued is handed out in its order, and after it nothing. -/
  received : h.answers Turn.receives = (List.range h.receives).map fun k =>
    .received s.self.inbound.items[k]?

section Stopped

variable (t : Transport σ) {s : Stage Relay σ}
  (hstopped : s.self.isStopped = true)

include hstopped

theorem perform_refuses (a : Act) :
    Task.Ends (perform t a) s fun answer _ =>
      a.submits s.self.limit = true →
        answer = .submitted (.refused .stopped) := by
  cases a with
  | subscribe topic | unsubscribe topic =>
      simp only [perform, subscribe, unsubscribe, command, Task.ends_map,
        Task.ends_bind, Task.ends_self, hstopped, if_true]
      exact fun _ => rfl
  | send m =>
      simp only [perform, send, Task.ends_map, Task.ends_bind, Task.ends_self,
        Act.submits]
      cases m.check s.self.limit with
      | error failure => exact fun h => absurd h Bool.false_ne_true
      | ok =>
          simp only [hstopped, if_true]
          exact fun _ => rfl
  | _ => exact fun h => absurd h Bool.false_ne_true

/-- A caller who asks for a message gets the oldest, and nobody else moves the
queue. -/
theorem perform_hands (a : Act) :
    Task.Ends (perform t a) s fun answer s' =>
      if a.receives then
        answer = .received s.self.inbound.items.head? ∧
          s'.self.inbound.items = s.self.inbound.items.tail
      else s'.self.inbound.items = s.self.inbound.items := by
  by_cases ha : a = .receive
  · subst ha
    simp only [perform, receive, Task.ends_map, Task.ends_bind,
      Task.ends_self, Queue.pop?, Act.receives, if_true]
    cases hitems : s.self.inbound.items with
    | nil => exact ⟨rfl, hitems⟩
    | cons m rest => exact ⟨rfl, rfl⟩
  · have hphase : s.self.phase = .stopped := of_decide_eq_true hstopped
    have hnone : s.self.handsOver a = [] := by
      cases a with
      | work => rw [handsOver, hphase]
      | _ => rfl
    refine (perform_inbound t a s).imp fun answer s' hinbound => ?_
    rw [hnone, List.append_nil] at hinbound
    cases a with
    | receive => exact absurd rfl ha
    | _ => exact hinbound

end Stopped

structure Rests (m : Moment (Stage Relay (Recorded σ)) (Turn σ) Answer) :
    Prop where
  stopped : m.after.self.isStopped = true
  sameLimit : m.after.self.limit = m.before.self.limit
  refuses : ∀ a, m.turn = .act a → a.submits m.before.self.limit = true →
    m.answer = .submitted (.refused .stopped)
  hands : if m.turn.receives then
      m.answer = .received m.before.self.inbound.items.head? ∧
        m.after.self.inbound.items = m.before.self.inbound.items.tail
    else m.after.self.inbound.items = m.before.self.inbound.items

theorem turn_rests (t : Transport σ) {h : History σ}
    (hstopped : h.state.self.isStopped = true) (turn : Turn σ) :
    Rests (h.moment (Turn.take t) turn) := by
  cases turn with
  | elsewhere f => exact ⟨hstopped, rfl, (by rintro _ ⟨⟩), rfl⟩
  | act a =>
      have hrefuses := perform_refuses (Recorded.transport t) hstopped a
      have hhands := perform_hands (Recorded.transport t) hstopped a
      have hacted := perform_acted t a h.state
      simp only [Task.Ends] at hrefuses hhands hacted
      obtain ⟨result, calls, hacted⟩ := hacted
      obtain ⟨r', hturned, hself⟩ := hacted.turned
      refine ⟨?_, hacted.outgoing.limit, ?_, hhands⟩
      · refine (congrArg isStopped hself).trans ?_
        exact (hturned.of_stopped hstopped).1
      · rintro _ ⟨⟩
        exact hrefuses

theorem Closed.begin {limit : Nat} {s : Stage Relay (Recorded σ)}
    (hstopped : s.self.isStopped = true) (hlimit : s.self.limit = limit) :
    Closed limit s { state := s } :=
  ⟨hstopped, hlimit, fun _ hm => absurd hm List.not_mem_nil, rfl, rfl⟩

theorem Closed.take {limit : Nat} {s : Stage Relay (Recorded σ)}
    {h : History σ} (hclosed : Closed limit s h) (t : Transport σ)
    (turn : Turn σ) : Closed limit s (Run.take (Turn.take t) h turn) := by
  have hrests := turn_rests t hclosed.stopped turn
  have hanswers := Run.answers_take (Turn.take t) h turn Turn.receives
  obtain ⟨m, hbefore, hturn, hm⟩ : ∃ m, m.before = h.state ∧ m.turn = turn ∧
      m = h.moment (Turn.take t) turn := ⟨_, rfl, rfl, rfl⟩
  rw [← hm] at hrests hanswers
  obtain ⟨hstopped, hlimit, hrefuses, hhands⟩ := hrests
  rw [hbefore] at hlimit hrefuses hhands
  rw [hclosed.sameLimit] at hlimit hrefuses
  rw [Run.take, ← hm] at hanswers ⊢
  refine ⟨hstopped, hlimit, ?_, ?_, ?_⟩
  · intro m' hm'
    rcases List.mem_append.mp hm' with hm' | hm'
    · exact hclosed.refuses m' hm'
    · obtain rfl := List.mem_singleton.mp hm'
      exact hrefuses
  · rw [History.receives_push]
    split at hhands
    · next hreceives =>
        rw [if_pos hreceives, hhands.2, hclosed.queue, List.tail_drop]
    · next hreceives =>
        rw [if_neg hreceives, hhands, hclosed.queue, Nat.add_zero]
  · rw [hanswers, History.receives_push, hclosed.received]
    rw [← hturn]
    split at hhands
    · next hreceives =>
        rw [if_pos hreceives, if_pos hreceives, hhands.1, hclosed.queue,
          List.head?_drop, List.range_succ, List.map_append]
        rfl
    · next hreceives =>
        rw [if_neg hreceives, if_neg hreceives, List.append_nil, Nat.add_zero]

theorem closed_onwards (t : Transport σ) {limit : Nat}
    {s : Stage Relay (Recorded σ)} (hstopped : s.self.isStopped = true)
    (hlimit : s.self.limit = limit) (more : List (Turn σ)) :
    Closed limit s (Run.of (Turn.take t) s more) :=
  Run.invariant (.begin hstopped hlimit) fun _ turn _ hclosed =>
    hclosed.take t turn

/-! ## From any point of a history -/

/-- While there are callers, nothing but a request stops the worker. If it is
told to stop while it is asleep, it takes nothing up any more, hands over one
message at most, attempts to send one at most, and stops. Requests after the
first change nothing. A relay that has stopped refuses what it is given, and
hands out what it has. -/
theorem kill_bounds_worker (t : Transport σ) (agent : Agent) (pace : Pace)
    (site : Site σ) (turns more : List (Turn σ)) :
    let s := (history t agent pace site turns).state
    let onwards := fun turns => (Run.of (Turn.take t) s turns : History σ)
    (s.self.isStopped = true → .act .abandon ∉ turns → .act .kill ∈ turns) ∧
      (s.self.sleep?.isSome = true →
        WindsDown s (onwards (.act .kill :: more))) ∧
      History.Same (onwards (.act .kill :: more))
        (onwards (.act .kill :: more.filter fun turn => !turn.kills)) ∧
      (s.self.isStopped = true →
        Closed agent.profile.limit s (onwards more)) := by
  intro s onwards
  refine ⟨kill_of_stopped t agent pace site turns,
    winds_down t agent pace site turns more, first_kill_decides t s more,
    fun hstopped => ?_⟩
  exact closed_onwards t hstopped (history_limit t agent pace site turns) more

def pouring (m : Message) : Script where
  polls := [{ outcome := .ok true, repeats := true }]
  receives := [{
    outcome := .ok ⟨"#sender#script", m.topic, .normal, m.payload⟩
    repeats := true }]

/-- Callers keep a worker busy until nobody receives what it has read. -/
def busyTurns (m : Message) : List (Turn Script) :=
  [.act (.subscribe "a"), .act (.subscribe "b"), .act (.subscribe "c"),
    .act (.send m), .act (.send m), .act (.send m)] ++
    List.replicate 10 (.act .work)

/-- After a request to stop, callers go on as before, and ask again. -/
def lateTurns (m : Message) : List (Turn Script) :=
  [.act .work, .act .receive, .act .kill, .act (.subscribe "d"), .act .work,
    .act .work, .act (.setClient "crate"), .act .kill, .act .work,
    .act (.subscribe "e"), .act (.send m), .act .kill]

/-- Of three commands and three messages, one each was left when the worker was
told to stop: it held a message up then. This was handed over after all, and
one message was sent. -/
theorem kill_bounds_worker_busy :
    let m : Message := { topic := "news", text := "rain" }
    let agent : Agent := { profile := {} }
    let s := (history Script.transport agent { inbound := 1 }
      { net := pouring m } (busyTurns m)).state
    let h : History Script :=
      Run.of (Turn.take Script.transport) s (.act .kill :: lateTurns m)
    s.self.phase = .blocked m ∧ h.handedOver = [m] ∧
      h.attempts.map Attempt.message = [m] ∧ h.state.self.isStopped = true ∧
      h.state.self.commands.items = [.subscribe "c", .subscribe "d"] ∧
      h.state.self.outbound.items = [m] ∧ WindsDown s h := by
  refine ⟨by decide +kernel, by decide +kernel, by decide +kernel,
    by decide +kernel, by decide +kernel, by decide +kernel, ?_⟩
  refine (kill_bounds_worker _ _ _ _ _ _).2.1 ?_
  decide +kernel

end Relay

end Courier
