import Courier.Proofs.Relay.Cover
import Courier.Proofs.Run

/-!
# Histories of relays

A history is a run of a relay over a recorded transport: any turns of callers
and worker, and between them whatever others may do on the network. What the
turns have moved through the queues can be compared with what stands on
record.
-/

namespace Courier

/-- What others do on a network is not put on record. -/
def Recorded.elsewhere {σ : Type} (f : σ → Served σ Unit) (r : Recorded σ) :
    Served (Recorded σ) Unit :=
  let s := f r.net
  { value := (), net := { r with net := s.net }, events := s.events }

namespace Relay

variable {σ : Type}

/-! ## What errands show on record -/

/-- What calls on record tell of the result of an errand, if messages up to a
limit are accepted. -/
def Errand.Result.Shows (limit : Nat) (calls : List Exchange) :
    Errand.Result → Prop
  | .nothing => Exchange.Silent calls
  | .polled result =>
    Exchange.deliveries calls = Agent.polled result ∧
      Exchange.postings calls = []
  | .sent m result =>
    Exchange.deliveries calls = [] ∧
      (m.check limit = .ok () → (result = .ok () ∧ m.SentBy calls) ∨
        (∃ failure, result = .error failure) ∧ m.LostBy calls)

theorem Errand.run_record (t : Transport σ) (e : Errand)
    (s : Stage Agent (Recorded σ)) :
    Task.Ends (e.run (Recorded.transport t)) s fun result s' =>
      Agent.Asks s s' fun calls =>
        result.Shows s.self.profile.limit calls := by
  cases e with
  | none => exact Agent.Quiet.of_net rfl rfl
  | setAddress address => exact Agent.setAddress_quiet address s
  | setClient client => exact Agent.setClient_quiet client s
  | askAddress => exact Agent.address_quiet s
  | disconnect => exact Agent.disconnect_quiet s
  | subscribe topic => exact Agent.subscribe_quiet topic s
  | unsubscribe topic => exact Agent.unsubscribe_quiet topic s
  | poll => exact Agent.poll_record s
  | send m =>
      simp only [run, Task.ends_map]
      cases hcheck : s.self.check m with
      | error failure =>
          refine (Agent.send_refused hcheck).imp fun r s' h => ?_
          obtain ⟨-, hs⟩ := h
          refine ⟨⟨[], hs ▸ .refl _, rfl, fun hok => ?_⟩, by rw [hs]⟩
          rw [Agent.check, hok] at hcheck
          cases hcheck
      | ok u =>
          refine (Agent.send_record hcheck).imp fun r s' h => ?_
          obtain ⟨⟨calls, hadds, hdeliveries, hsent⟩, hlimit⟩ := h
          exact ⟨⟨calls, hadds, hdeliveries, fun _ => hsent⟩, hlimit⟩

/-- What an act on a relay shows: what the errand brought back, and the calls
that it put on record. -/
structure Acted (s : Stage Relay (Recorded σ)) (a : Act) (answer : Answer)
    (s' : Stage Relay (Recorded σ)) (result : Errand.Result)
    (calls : List Exchange) : Prop where
  turned : ∃ r', Turned s.self a answer result r' ∧
    s'.self = { r' with agent := s'.self.agent }
  adds : s.site.net.Adds s'.site.net calls
  shown : result.Shows s.self.agent.profile.limit calls
  limit : s'.self.agent.profile.limit = s.self.agent.profile.limit
  tried : result.tried = (errand s.self a).tried

theorem perform_acted (t : Transport σ) (a : Act)
    (s : Stage Relay (Recorded σ)) :
    Task.Ends (perform (Recorded.transport t) a) s fun answer s' =>
      ∃ result calls, Acted s a answer s' result calls := by
  have hturned := perform_turned (Recorded.transport t) a s
  have hrecord := (errand s.self a).run_record t (atAgent s)
  have htried := (errand s.self a).run_tried (Recorded.transport t) (atAgent s)
  unfold Task.Ends at hturned hrecord htried
  obtain ⟨r', hturned, hleaves⟩ := hturned
  obtain ⟨⟨calls, hadds, hshown⟩, hlimit⟩ := hrecord
  refine ⟨_, calls, ⟨r', hturned, ?_⟩, ?_, hshown, ?_, htried⟩
  · rw [hleaves.agent]
    exact hleaves.self
  · rw [hleaves.net]
    exact hadds
  · rw [hleaves.agent]
    exact hlimit

/-! ## Runs -/

/-- A turn at the site of a relay. -/
inductive Turn (σ : Type) where
  | act (a : Act)
  /-- Something that others do on the network. -/
  | elsewhere (f : σ → Served σ Unit)

def Turn.take (t : Transport σ) : Turn σ → Task Relay (Recorded σ) Answer
  | .act a => perform (Recorded.transport t) a
  | .elsewhere f => do
    Task.serve (Recorded.elsewhere f)
    return .done

/-- A new relay over an agent, with nothing on record. -/
def begin (agent : Agent) (pace : Pace) (site : Site σ) :
    Stage Relay (Recorded σ) where
  self := Relay.new agent pace
  site := { site with net := { net := site.net } }

abbrev History (σ : Type) := Run (Stage Relay (Recorded σ)) (Turn σ) Answer

def history (t : Transport σ) (agent : Agent) (pace : Pace) (site : Site σ)
    (turns : List (Turn σ)) : History σ :=
  Run.of (Turn.take t) (begin agent pace site) turns

/-- A turn where nothing is put on record. -/
def Turn.takeUnrecorded (t : Transport σ) : Turn σ → Task Relay σ Answer
  | .act a => perform t a
  | .elsewhere f => do
    Task.serve f
    return .done

theorem Turn.take_covers (t : Transport σ) (turn : Turn σ) :
    Task.Covers Recorded.net (turn.take t) (turn.takeUnrecorded t) := by
  cases turn with
  | act a => exact perform_covers (Recorded.covers t) a
  | elsewhere f => exact .bind (Task.covers_serve fun _ => rfl) fun _ => .pure _

/-- The record changes nothing: without it the same turns give the same answers
and leave the same relay. -/
theorem history_unrecorded (t : Transport σ) (agent : Agent) (pace : Pace)
    (site : Site σ) (turns : List (Turn σ)) :
    Run.of (Turn.takeUnrecorded t) { self := Relay.new agent pace, site } turns =
      (history t agent pace site turns).map (Stage.view Recorded.net) :=
  Run.of_map (fun turn => (Turn.take_covers t turn).run)
    (begin agent pace site) turns

def acceptedAt (m : Moment (Stage Relay (Recorded σ)) (Turn σ) Answer) :
    List Message :=
  match m.turn with
  | .act a => a.accepted m.answer
  | .elsewhere _ => []

def receivedAt (m : Moment (Stage Relay (Recorded σ)) (Turn σ) Answer) :
    List Message :=
  match m.turn with
  | .act a => a.received m.answer
  | .elsewhere _ => []

namespace History

variable (h : History σ)

def calls : List Exchange :=
  h.state.site.net.calls.toList

/-- The messages accepted for sending so far. -/
def accepted : List Message :=
  h.past.flatMap acceptedAt

/-- The messages that callers have received so far. -/
def received : List Message :=
  h.past.flatMap receivedAt

variable {h}

theorem accepted_push {s : Stage Relay (Recorded σ)}
    {m : Moment (Stage Relay (Recorded σ)) (Turn σ) Answer} :
    accepted ⟨s, h.past ++ [m]⟩ = h.accepted ++ acceptedAt m := by
  rw [accepted, List.flatMap_append, List.flatMap_singleton]
  rfl

theorem received_push {s : Stage Relay (Recorded σ)}
    {m : Moment (Stage Relay (Recorded σ)) (Turn σ) Answer} :
    received ⟨s, h.past ++ [m]⟩ = h.received ++ receivedAt m := by
  rw [received, List.flatMap_append, List.flatMap_singleton]
  rfl

variable (h) (t : Transport σ)

/-- An act adds a moment to a history. -/
theorem take_act (a : Act) :
    ∃ m result calls,
      Run.take (Turn.take t) h (.act a) = ⟨m.after, h.past ++ [m]⟩ ∧
        m.before = h.state ∧ m.turn = .act a ∧
        Acted m.before a m.answer m.after result calls := by
  obtain ⟨result, calls, hacted⟩ := perform_acted t a h.state
  exact ⟨h.moment (Turn.take t) (.act a), result, calls, rfl, rfl, rfl, hacted⟩

end History

end Relay

end Courier
