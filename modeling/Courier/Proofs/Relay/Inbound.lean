import Courier.Proofs.Relay.History
import Courier.Transport.Script

/-!
# What becomes of deliveries

Every delivery that the transport returned is read, and the messages that
come of it reach callers in the same order, however full the inbound queue
may be and however the keep-alive behind a poll may fare. Until a message is
received it is in the inbound queue or in the worker's hands.

This holds of a calm relay, one that nobody has told to stop:
`inbound_reads` is about all histories without a kill, whatever the
transport does.
-/

namespace Courier

namespace Reading

theorem foldl_take_after (r : Reading) (messages : List Message)
    (deliveries : List Delivery) :
    deliveries.foldl take (r.after messages) =
      (deliveries.foldl take r).after messages := by
  induction deliveries generalizing r with
  | nil => rfl
  | cons d rest ih => rw [List.foldl_cons, take_after, ih, List.foldl_cons]

end Reading

namespace Relay

variable {σ : Type}

/-! ## One turn -/

/-- Nobody has told the relay to stop. -/
structure Calm (r : Relay) : Prop where
  stopping : r.stopping = false
  killRequested : r.killRequested = false
  abandoned : r.abandoned = false
  active : r.phase ≠ .stopped

def Act.isCalm : Act → Bool
  | .kill | .abandon => false
  | _ => true

def Errand.Result.deliveries : Errand.Result → List Delivery
  | .polled result => Agent.polled result
  | _ => []

/-- What a relay has read after the deliveries of an errand, and what messages
have come of them. -/
def readingAfter (r : Relay) (result : Errand.Result) : Reading :=
  result.deliveries.foldl Reading.take r.reading

/-- What a turn does with deliveries and the messages that come of them. -/
structure Incoming (r r' : Relay) (received : List Message)
    (result : Errand.Result) : Prop where
  messages : received ++ r'.inbound.items ++ r'.phase.inHand =
    r.inbound.items ++ r.phase.inHand ++ (r.readingAfter result).messages
  assemblies : r'.assemblies = (r.readingAfter result).assemblies
  errors : r'.counters.protocolErrors = (r.readingAfter result).errors
  capacity : r'.inbound.capacity = r.inbound.capacity
  room : r.inbound.items.length ≤ r.inbound.capacity →
    r'.inbound.items.length ≤ r.inbound.capacity
  calm : Calm r'

/-- A turn that leaves deliveries and the inbound queue alone. -/
theorem Incoming.of_eq {r r' : Relay} {result : Errand.Result}
    (hdeliveries : result.deliveries = [])
    (hinbound : r'.inbound = r.inbound)
    (hhand : r'.phase.inHand = r.phase.inHand)
    (hreading : r'.reading = r.reading) (hcalm : Calm r') :
    Incoming r r' [] result where
  messages := by
    rw [readingAfter, hdeliveries, hinbound, hhand]
    exact (List.append_nil _).symm
  assemblies := by
    rw [readingAfter, hdeliveries]
    exact congrArg Reading.assemblies hreading
  errors := by
    rw [readingAfter, hdeliveries]
    exact congrArg Reading.errors hreading
  capacity := congrArg Queue.capacity hinbound
  room := by
    rw [hinbound]
    exact id
  calm := hcalm

theorem Calm.looked {r : Relay} (h : Calm r) : r.looked = r := by
  have hkill := h.killRequested
  have hstopping := h.stopping
  rw [Relay.looked, h.stopping]
  obtain ⟨⟩ := r
  simp only at hkill hstopping
  subst hkill hstopping
  rfl

theorem Worked.incoming {r r' : Relay} {result : Errand.Result}
    (h : Worked r result r') (hcalm : Calm r) : Incoming r r' [] result := by
  have hlooked := hcalm.looked
  obtain ⟨hstopping, hkill, habandoned, hactive⟩ := hcalm
  cases h with
  | start at_ | noCommand at_ | command at_ | retry at_ | wake at_ =>
      refine .of_eq rfl rfl ?_ rfl ⟨hstopping, hkill, habandoned, by simp⟩
      rw [at_]
      rfl
  | rest at_ => exact absurd at_ hactive
  | stop at_ told =>
      rw [hstopping, hkill] at told
      cases told
  | goOn at_ =>
      rw [hlooked]
      refine .of_eq rfl rfl ?_ rfl ⟨hstopping, hkill, habandoned, by simp⟩
      rw [at_]
      rfl
  | @noMessage busy at_ =>
      refine .of_eq rfl rfl ?_ rfl ⟨hstopping, hkill, habandoned, ?_⟩
      · rw [at_, finished]
        cases busy <;> rfl
      · rw [finished]
        cases busy <;> simp
  | send at_ =>
      refine .of_eq rfl rfl ?_ rfl ⟨hstopping, hkill, habandoned, ?_⟩
      · rw [at_]
        rfl
      · simp [finished]
  | poll at_ reads holds active =>
      subst reads
      refine ⟨?_, rfl, rfl, rfl, id, hstopping, hkill, habandoned, active⟩
      rw [at_, List.nil_append]
      show r.inbound.items ++ _ = r.inbound.items ++ [] ++ _
      rw [holds, List.append_nil]
      rfl
  | @deliver m now at_ =>
      have huntold : ¬(r.stopping || r.killRequested) = true := by
        rw [hstopping, hkill]
        simp
      rw [delivered, if_neg (ne_true_of_eq_false habandoned), hlooked,
        if_neg huntold]
      split
      · refine .of_eq rfl rfl ?_ rfl ⟨hstopping, hkill, habandoned, by simp⟩
        rw [at_]
        rfl
      · next hroom =>
          rw [Bool.not_eq_true] at hroom
          refine ⟨?_, rfl, rfl, rfl, fun _ => Queue.length_push_le hroom m,
            hstopping, hkill, habandoned, by simp⟩
          rw [at_]
          rfl

theorem Turned.incoming {r r' : Relay} {a : Act} {answer : Answer}
    {result : Errand.Result} (h : Turned r a answer result r')
    (ha : a.isCalm = true) (hcalm : Calm r) :
    Incoming r r' (a.received answer) result := by
  have hwork := fun h : Worked r result r' => h.incoming hcalm
  obtain ⟨hstopping, hkill, habandoned, hactive⟩ := hcalm
  cases h with
  | work worked => exact hwork worked
  | queued =>
      exact .of_eq rfl rfl rfl rfl ⟨hstopping, hkill, habandoned, hactive⟩
  | received oldest =>
      refine ⟨?_, rfl, rfl, rfl, fun hroom => ?_,
        hstopping, hkill, habandoned, hactive⟩
      · rw [oldest]
        exact (List.append_nil _).symm
      · rw [oldest] at hroom
        exact Nat.le_of_succ_le hroom
  | killed | abandoned => cases ha
  | aside accepted nothing =>
      rw [nothing]
      exact .of_eq rfl rfl rfl rfl ⟨hstopping, hkill, habandoned, hactive⟩

/-! ## All histories -/

def Turn.isCalm : Turn σ → Bool
  | .act a => a.isCalm
  | .elsewhere _ => true

/-- What holds of deliveries at every point of a history in which nobody has
told the relay to stop. -/
structure Reads (pace : Pace) (h : History σ) : Prop where
  /-- What has been read is received, queued or in the worker's hands. -/
  messages : h.received ++ h.state.self.inbound.items ++
      h.state.self.phase.inHand =
    (Reading.all (Exchange.deliveries h.calls)).messages
  assemblies : h.state.self.assemblies =
    (Reading.all (Exchange.deliveries h.calls)).assemblies
  errors : h.state.self.counters.protocolErrors =
    (Reading.all (Exchange.deliveries h.calls)).errors
  capacity : h.state.self.inbound.capacity = max pace.inbound 1
  bounded : h.state.self.inbound.items.length ≤
    h.state.self.inbound.capacity
  calm : Calm h.state.self

theorem Reads.begin (agent : Agent) (pace : Pace) (site : Site σ) :
    Reads pace { state := begin agent pace site } where
  messages := rfl
  assemblies := rfl
  errors := rfl
  capacity := rfl
  bounded := Nat.zero_le _
  calm := ⟨rfl, rfl, rfl, by simp [Relay.begin, Relay.new]⟩

theorem Errand.Result.Shows.deliveries {limit : Nat} {calls : List Exchange}
    {result : Errand.Result} (h : result.Shows limit calls) :
    Exchange.deliveries calls = result.deliveries := by
  cases result with
  | nothing => exact h.1
  | polled result => exact h.1
  | sent m result => exact h.1

theorem Incoming.withAgent {r r' : Relay} {received : List Message}
    {result : Errand.Result} (h : Incoming r r' received result)
    (agent : Agent) : Incoming r { r' with agent } received result :=
  ⟨h.messages, h.assemblies, h.errors, h.capacity, h.room,
    h.calm.1, h.calm.2, h.calm.3, h.calm.4⟩

theorem Acted.incoming {s s' : Stage Relay (Recorded σ)} {a : Act}
    {answer : Answer} {result : Errand.Result} {calls : List Exchange}
    (h : Acted s a answer s' result calls) (ha : a.isCalm = true)
    (hcalm : Calm s.self) :
    Incoming s.self s'.self (a.received answer) result := by
  obtain ⟨r', hturned, hself⟩ := h.turned
  rw [hself]
  exact (hturned.incoming ha hcalm).withAgent _

/-- A relay that has read everything on record goes on with the deliveries of
its errand. -/
theorem Acted.all_after {s s' : Stage Relay (Recorded σ)} {a : Act}
    {answer : Answer} {result : Errand.Result} {calls : List Exchange}
    (h : Acted s a answer s' result calls)
    (hreading : s.self.reading.after (Reading.all
        (Exchange.deliveries s.site.net.calls.toList)).messages =
      Reading.all (Exchange.deliveries s.site.net.calls.toList)) :
    Reading.all (Exchange.deliveries s'.site.net.calls.toList) =
      (s.self.readingAfter result).after
        (Reading.all (Exchange.deliveries s.site.net.calls.toList)).messages := by
  rw [h.adds, Exchange.deliveries_append, Reading.all_append,
    h.shown.deliveries, readingAfter, ← Reading.foldl_take_after, hreading]

/-- To read on from where a relay stands is to read on from everything that it
has read. -/
theorem Reads.reading_after {pace : Pace} {h : History σ}
    (hinv : Reads pace h) :
    h.state.self.reading.after
        (Reading.all (Exchange.deliveries h.calls)).messages =
      Reading.all (Exchange.deliveries h.calls) := by
  rw [reading, Reading.after, hinv.assemblies, hinv.errors]
  simp

theorem Reads.act {t : Transport σ} {pace : Pace} {h : History σ}
    (hinv : Reads pace h) {a : Act} (ha : a.isCalm = true) :
    Reads pace (Run.take (Turn.take t) h (.act a)) := by
  obtain ⟨m, result, calls, hrun, hbefore, hturn, hacted⟩ := h.take_act t a
  have hreceived : receivedAt m = a.received m.answer := by
    rw [receivedAt, hturn]
  rw [hbefore] at hacted
  have hin := hacted.incoming ha hinv.calm
  have hall := hacted.all_after hinv.reading_after
  rw [hrun]
  refine ⟨?_, ?_, ?_, hin.capacity.trans hinv.capacity, ?_, hin.calm⟩
  · rw [History.received_push, hreceived]
    calc
      _ = h.received ++ (a.received m.answer ++ m.after.self.inbound.items ++
          m.after.self.phase.inHand) := by simp only [List.append_assoc]
      _ = (h.received ++ h.state.self.inbound.items ++
            h.state.self.phase.inHand) ++
          (h.state.self.readingAfter result).messages := by
        rw [hin.messages]
        simp only [List.append_assoc]
      _ = (Reading.all
          (Exchange.deliveries m.after.site.net.calls.toList)).messages := by
        rw [hinv.messages, hall]
        rfl
  · exact hin.assemblies.trans (congrArg Reading.assemblies hall).symm
  · exact hin.errors.trans (congrArg Reading.errors hall).symm
  · rw [hin.capacity]
    exact hin.room hinv.bounded

theorem Reads.elsewhere {t : Transport σ} {pace : Pace} {h : History σ}
    (hinv : Reads pace h) (f : σ → Served σ Unit) :
    Reads pace (Run.take (Turn.take t) h (.elsewhere f)) := by
  refine ⟨?_, hinv.assemblies, hinv.errors, hinv.capacity, hinv.bounded,
    hinv.calm⟩
  have hreceived : History.received (Run.take (Turn.take t) h (.elsewhere f)) =
      h.received := History.received_push.trans (List.append_nil _)
  rw [hreceived]
  exact hinv.messages

/-- In a history without a kill every delivery that the transport returned is
read, in order, and what comes of it is received, queued or in the worker's
hands. -/
theorem inbound_reads (t : Transport σ) (agent : Agent) (pace : Pace)
    (site : Site σ) (turns : List (Turn σ))
    (hcalm : ∀ turn ∈ turns, turn.isCalm = true) :
    Reads pace (history t agent pace site turns) := by
  refine Run.invariant (.begin agent pace site) fun h turn hmem hinv => ?_
  cases turn with
  | act a => exact hinv.act (hcalm _ hmem)
  | elsewhere f => exact hinv.elsewhere f

/-- A daemon that always has the same message to deliver, and that ends the
session on every keep-alive. -/
def flood (m : Message) : Script where
  polls := [{ outcome := .ok true, repeats := true }]
  receives := [{
    outcome := .ok ⟨"#sender#script", m.topic, .normal, m.payload⟩
    repeats := true }]
  multicasts := [{ outcome := .error .closed, repeats := true }]

/-- A caller receives one message while the worker goes on. -/
def floodTurns : List (Turn Script) :=
  List.replicate 10 (.act .work) ++ .act .receive ::
    List.replicate 6 (.act .work)

/-- Three deliveries on three sessions, with room for one message: the first
was received, the second is queued, the third holds the worker up. -/
theorem inbound_reads_flood :
    let m : Message := { topic := "news", text := "rain" }
    let h := history Script.transport { profile := { keepAlive := some 0 } }
      { inbound := 1 } { net := flood m } floodTurns
    h.received = [m] ∧ h.state.self.inbound.items = [m] ∧
      h.state.self.phase.inHand = [m] ∧ Reads { inbound := 1 } h := by
  refine ⟨by decide, by decide, by decide, inbound_reads _ _ _ _ _ ?_⟩
  decide

end Relay

end Courier
