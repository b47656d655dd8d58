import Courier.Proofs.Agent.Cover
import Courier.Proofs.Relay.Turn

/-!
# Relays over covers

Callers and workers of relays do over a transport what they do over the one
that it covers. Most of what they do does not ask the network at all.
-/

namespace Courier

namespace Relay

open Courier.Task (covers_self covers_now covers_change covers_note)

variable {σ τ α : Type} {f : τ → σ} {u : Transport τ} {t : Transport σ}

theorem byAgent_covers {y : Task Agent τ α} {x : Task Agent σ α}
    (h : Task.Covers f y x) : Task.Covers f (byAgent y) (byAgent x) :=
  h.part

/-! ## Callers -/

theorem command_covers (c : Command) :
    Task.Covers f (command c) (command c) := by
  refine .bind covers_self fun r => ?_
  split
  · exact .pure _
  · split
    · exact .pure _
    · exact .bind (covers_change _) fun _ => .pure _

theorem send_covers (m : Message) : Task.Covers f (send m) (send m) := by
  refine .bind covers_self fun r => ?_
  cases m.check r.limit with
  | error failure => exact .pure _
  | ok =>
      simp only
      split
      · exact .pure _
      · split
        · exact .pure _
        · exact .bind (covers_change _) fun _ => .pure _

theorem receive_covers : Task.Covers f receive receive := by
  refine .bind covers_self fun r => ?_
  cases r.inbound.pop? with
  | none => exact .pure _
  | some popped => exact .bind (covers_change _) fun _ => .pure _

theorem kill_covers : Task.Covers f kill kill := by
  refine .bind covers_self fun r => ?_
  split
  · exact .pure _
  · exact .bind (covers_change _) fun _ => covers_note _

theorem rates_covers : Task.Covers f rates rates := by
  refine .bind covers_now fun now => .bind covers_self fun r => ?_
  exact .bind (covers_change _) fun _ => .pure _

/-! ## The worker -/

theorem report_covers (failure : Failure) :
    Task.Covers f (report failure) (report failure) := by
  cases failure <;> exact covers_note _

theorem shouldStop_covers : Task.Covers f shouldStop shouldStop := by
  refine .bind covers_self fun r => ?_
  split
  · exact .pure _
  · exact .bind (covers_change _) fun _ => .pure _

theorem noteAll_covers (events : List AssemblyEvent) :
    Task.Covers (ρ := Relay) f
      (events.forM fun e => Task.note (.assembly e))
      (events.forM fun e => Task.note (.assembly e)) := by
  induction events with
  | nil => exact .pure _
  | cons e rest ih => exact .bind (covers_note _) fun _ => ih

theorem assemble_covers (arrival : Arrival) :
    Task.Covers f (assemble arrival) (assemble arrival) := by
  refine .bind covers_self fun r => .bind (covers_change _) fun _ => ?_
  refine .bind (noteAll_covers _) fun _ => ?_
  split
  · exact .pure _
  · refine .bind (covers_note _) fun _ => ?_
    exact .bind (covers_change _) fun _ => .pure _

theorem classifyOther_covers (d : Delivery) :
    Task.Covers f (classifyOther d) (classifyOther d) := by
  rw [classifyOther, classifyOther]
  split
  · split
    · exact .bind (covers_note _) fun _ => .pure _
    · exact .bind (covers_note _) fun _ => .pure _
  · refine .bind (covers_note _) fun _ => ?_
    exact .bind (covers_change _) fun _ => .pure _

theorem digest_covers (d : Delivery) :
    Task.Covers f (digest d) (digest d) := by
  rw [digest, digest]
  split
  · exact assemble_covers _
  · exact classifyOther_covers d

theorem deliver_covers (m : Message) :
    Task.Covers f (deliver m) (deliver m) := by
  refine .bind covers_self fun r => ?_
  split
  · refine .bind (covers_note _) fun _ => ?_
    exact .bind (covers_change _) fun _ => covers_change _
  · split
    · refine .bind shouldStop_covers fun told => ?_
      split <;> exact covers_change _
    · refine .bind covers_now fun now => ?_
      exact .bind (covers_change _) fun _ => covers_change _

theorem finish_covers (busy : Bool) :
    Task.Covers f (finish busy) (finish busy) :=
  .bind (covers_change _) fun _ => covers_change _

section Transports

variable (h : u.Covers f t)

include h

theorem stop_covers : Task.Covers f (stop u) (stop t) := by
  refine .bind (covers_change _) fun _ => ?_
  refine .bind (byAgent_covers (Agent.disconnect_covers h)) fun _ => ?_
  refine .bind covers_self fun r => .bind (covers_note _) fun _ => ?_
  exact covers_change _

theorem applyCommand_covers :
    Task.Covers f (applyCommand u) (applyCommand t) := by
  refine .bind covers_self fun r => ?_
  cases r.commands.pop? with
  | none => exact covers_change _
  | some popped =>
      obtain ⟨command, commands⟩ := popped
      refine .bind (covers_change _) fun _ => .bind (byAgent_covers ?_) fun result => ?_
      · cases command with
        | subscribe topic => exact Agent.subscribe_covers h topic
        | unsubscribe topic => exact Agent.unsubscribe_covers h topic
      · cases result with
        | ok => exact .bind (covers_note _) fun _ => covers_change _
        | error failure =>
            exact .bind (report_covers failure) fun _ => covers_change _

theorem takeDelivery_covers (busy : Bool) :
    Task.Covers f (takeDelivery u busy) (takeDelivery t busy) := by
  refine .bind (byAgent_covers (Agent.poll_covers h)) fun result => ?_
  split
  · exact .bind (report_covers _) fun _ => covers_change _
  · exact covers_change _
  · refine .bind (digest_covers _) fun m? => ?_
    cases m? <;> exact covers_change _

theorem sendNext_covers (busy : Bool) :
    Task.Covers f (sendNext u busy) (sendNext t busy) := by
  refine .bind covers_self fun r => ?_
  cases r.outbound.pop? with
  | none => exact finish_covers busy
  | some popped =>
      obtain ⟨m, outbound⟩ := popped
      refine .bind (covers_change _) fun _ => ?_
      refine .bind (byAgent_covers (Agent.send_covers h m)) fun result => ?_
      cases result with
      | ok =>
          refine .bind covers_now fun now => ?_
          exact .bind (covers_change _) fun _ => finish_covers true
      | error failure =>
          refine .bind (covers_change _) fun _ => ?_
          exact .bind (report_covers failure) fun _ => finish_covers true

theorem step_covers : Task.Covers f (step u) (step t) := by
  refine .bind covers_self fun r => ?_
  cases r.phase with
  | starting => exact .bind (covers_note _) fun _ => covers_change _
  | checking =>
      refine .bind shouldStop_covers fun told => ?_
      split
      · exact stop_covers h
      · exact covers_change _
  | commanding => exact applyCommand_covers h
  | polling busy => exact takeDelivery_covers h busy
  | delivering m => exact deliver_covers m
  | blocked | idling => exact covers_change _
  | sending busy => exact sendNext_covers h busy
  | stopped => exact .pure _

theorem Errand.run_covers (e : Errand) :
    Task.Covers f (e.run u) (e.run t) := by
  cases e with
  | none => exact .pure _
  | setAddress address => exact .map _ (Agent.setAddress_covers h address)
  | setClient client => exact .map _ (Agent.setClient_covers h client)
  | askAddress => exact .map _ (Agent.address_covers h)
  | disconnect => exact .map _ (Agent.disconnect_covers h)
  | subscribe topic => exact .map _ (Agent.subscribe_covers h topic)
  | unsubscribe topic => exact .map _ (Agent.unsubscribe_covers h topic)
  | poll => exact .map _ (Agent.poll_covers h)
  | send m => exact .map _ (Agent.send_covers h m)

/-- A turn over a transport is the same turn over the one that it covers. -/
theorem perform_covers (a : Act) :
    Task.Covers f (perform u a) (perform t a) := by
  cases a with
  | subscribe | unsubscribe => exact .map _ (command_covers _)
  | send m => exact .map _ (send_covers m)
  | receive => exact .map _ receive_covers
  | setAddress address =>
      exact .map _ (byAgent_covers (Agent.setAddress_covers h address))
  | setClient client =>
      exact .map _ (byAgent_covers (Agent.setClient_covers h client))
  | askAddress => exact .map _ (byAgent_covers (Agent.address_covers h))
  | rates => exact .map _ rates_covers
  | kill => exact .map _ kill_covers
  | abandon => exact .map _ (covers_change _)
  | work => exact .map _ (step_covers h)
  | wait ns => exact fun _ _ => rfl

end Transports

end Relay

end Courier
