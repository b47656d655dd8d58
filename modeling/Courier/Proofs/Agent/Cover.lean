import Courier.Agent.Basic
import Courier.Proofs.Cover

/-!
# Agents over covers

What an agent does over a transport covers what it does over the one that the
transport covers.
-/

namespace Courier

namespace Agent

open Courier.Task (covers_self covers_now covers_change covers_note covers_serve)

variable {σ τ α : Type} {f : τ → σ} {u : Transport τ} {t : Transport σ}
  (h : u.Covers f t)

theorem call_covers {y : SessionCall τ α} {x : SessionCall σ α}
    (hcall : SessionCall.Covers f y x) (c : Connection) :
    Task.Covers f (call c y) (call c x) := by
  refine .bind (covers_serve (hcall c)) fun r => ?_
  exact .bind (covers_change _) fun _ => .pure _

theorem connectFailed_covers (cause : Fault) :
    Task.Covers f (connectFailed cause) (connectFailed cause) := by
  refine .bind covers_self fun a => ?_
  simp only
  split
  · exact .bind (covers_note _) fun _ => .pure _
  · exact .bind (covers_note _) fun _ => .bind (covers_change _) fun _ => .pure _

include h

theorem disconnect_covers : Task.Covers f (disconnect u) (disconnect t) := by
  refine .bind covers_self fun a => ?_
  cases a.session with
  | none => exact .pure ()
  | some c =>
      refine .bind (covers_change _) fun _ => .bind (covers_note _) fun _ => ?_
      exact .bind (covers_serve (h.disconnect c)) fun _ => .pure _

theorem rejoin_covers (topics : List String) (c : Connection) :
    Task.Covers f (rejoin u c topics) (rejoin t c topics) := by
  induction topics generalizing c with
  | nil => exact .pure c
  | cons topic rest ih =>
      refine .bind (covers_serve (h.join topic c)) fun r => ?_
      obtain ⟨result, c'⟩ := r
      cases result with
      | ok => exact ih _
      | error cause => exact .bind (covers_note _) fun _ => ih _

theorem establish_covers (c : Connection) :
    Task.Covers f (establish u c) (establish t c) := by
  refine .bind covers_self fun a => ?_
  refine .bind (rejoin_covers h _ c) fun c' => ?_
  simp only
  split
  all_goals
    refine .bind (covers_note _) fun _ => .bind covers_now fun now => ?_
    exact .bind (covers_change _) fun _ => .pure _

theorem connectFrom_covers (attempt remaining : Nat) :
    Task.Covers f (connectFrom u attempt remaining)
      (connectFrom t attempt remaining) := by
  induction remaining generalizing attempt with
  | zero =>
      refine .bind covers_self fun a => ?_
      exact .bind (connectFailed_covers _) fun _ => .pure _
  | succ remaining ih =>
      refine .bind covers_self fun a => ?_
      refine .bind (covers_serve (h.connect _ _)) fun r => ?_
      split
      · exact .bind (establish_covers h _) fun _ => .pure _
      · exact .bind (covers_note _) fun _ => ih _
      · exact .bind (connectFailed_covers _) fun _ => .pure _

theorem connect_covers : Task.Covers f (connect u) (connect t) := by
  refine .bind covers_self fun a => ?_
  cases a.session with
  | some c => exact .pure _
  | none =>
      refine .bind (connectFrom_covers h 0 maxAttempts) fun r => ?_
      cases r with
      | ok c => exact .bind (covers_change _) fun _ => .pure _
      | error failure => exact .pure _

theorem giveUpAfter_covers (cause : Fault) :
    Task.Covers f (giveUpAfter u cause) (giveUpAfter t cause) := by
  rw [giveUpAfter, giveUpAfter]
  split
  · refine .bind covers_self fun a => .bind (covers_note _) fun _ => ?_
    exact .bind (disconnect_covers h) fun _ => covers_change _
  · exact .pure _

theorem request_covers {y : SessionCall τ α} {x : SessionCall σ α}
    (hcall : SessionCall.Covers f y x) (failed : Fault → Failure) :
    Task.Covers f (request u y failed) (request t x failed) := by
  refine .bind (connect_covers h) fun r => ?_
  cases r with
  | error failure => exact .pure _
  | ok c =>
      refine .bind (call_covers hcall c) fun r => ?_
      cases r with
      | ok a => exact .pure _
      | error cause =>
          exact .bind (giveUpAfter_covers h cause) fun _ => .pure _

theorem subscribe_covers (topic : String) :
    Task.Covers f (subscribe u topic) (subscribe t topic) :=
  .bind (covers_change _) fun _ => request_covers h (h.join topic) _

theorem unsubscribe_covers (topic : String) :
    Task.Covers f (unsubscribe u topic) (unsubscribe t topic) :=
  .bind (covers_change _) fun _ => request_covers h (h.leave topic) _

theorem send_covers (m : Message) :
    Task.Covers f (send u m) (send t m) := by
  refine .bind covers_self fun a => ?_
  cases a.check m with
  | error failure => exact .pure _
  | ok =>
      refine .bind (request_covers h (h.multicast _ _ _ _) _) fun r => ?_
      cases r with
      | error failure => exact .pure _
      | ok sent =>
          simp only
          split <;> exact .pure _

theorem keepAlive_covers : Task.Covers f (keepAlive u) (keepAlive t) := by
  refine .bind covers_self fun a => .bind covers_now fun now => ?_
  split
  · cases a.session with
    | none => exact .pure _
    | some c =>
        refine .bind (call_covers (h.multicast _ _ _ _) c) fun r => ?_
        cases r with
        | ok => exact .bind covers_now fun _ => covers_change _
        | error cause =>
            exact .bind (giveUpAfter_covers h cause) fun _ => covers_note _
  · exact .pure _

theorem receiveIfReady_covers :
    SessionCall.Covers f (receiveIfReady u) (receiveIfReady t) := by
  intro c n
  simp only [receiveIfReady]
  rw [h.poll c n]
  simp only [Served.view]
  split
  · rfl
  · rfl
  · rw [h.receive]
    rfl

theorem poll_covers : Task.Covers f (poll u) (poll t) := by
  refine .bind (request_covers h (receiveIfReady_covers h) _) fun r => ?_
  cases r with
  | error failure => exact .pure _
  | ok d? => exact .bind (keepAlive_covers h) fun _ => .pure _

theorem setAddress_covers (address : String) :
    Task.Covers f (setAddress u address) (setAddress t address) := by
  refine .bind covers_self fun a => ?_
  simp only
  split
  · exact .bind (covers_change _) fun _ => disconnect_covers h
  · exact .pure _

theorem setClient_covers (client : String) :
    Task.Covers f (setClient u client) (setClient t client) := by
  refine .bind covers_self fun a => ?_
  simp only
  split
  · exact .bind (covers_change _) fun _ => disconnect_covers h
  · exact .pure _

theorem address_covers : Task.Covers f (address u) (address t) :=
  .bind (connect_covers h) fun _ => .pure _

end Agent

end Courier
