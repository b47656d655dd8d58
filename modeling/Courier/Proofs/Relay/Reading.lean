import Courier.Proofs.Assembly.Acts
import Courier.Proofs.Task
import Courier.Relay.Worker

/-!
# What a relay reads

The deliveries that a relay takes in are read one after the other: pieces go
through one table of open messages, keep-alives are shown as messages from
their senders, and everything else yields nothing. `Reading.take` says this
without a worker, and `digest_reads` says that the worker does it.
-/

namespace Courier

/-- What has come of the deliveries read so far. -/
structure Reading where
  assemblies : Assemblies := .empty
  messages : List Message := []
  /-- How many were dropped by the table or of unknown kind. -/
  errors : Nat := 0

namespace Reading

/-- Reads a delivery that is neither a message nor a piece of one. -/
def takeOther (r : Reading) (d : Delivery) : Reading :=
  if d.flags = .empty then
    if keepAlivePayload.isPrefixOf d.payload then
      { r with messages := r.messages ++ [⟨keepAliveGroup, d.sender⟩] }
    else r
  else { r with errors := r.errors + 1 }

def take (r : Reading) (d : Delivery) : Reading :=
  match Piece.ofFlags? d.flags with
  | none => r.takeOther d
  | some piece =>
    let outcome := r.assemblies.push ⟨d.sender, piece, d.payload⟩
    match outcome.result with
    | .ok m? =>
      { r with
        assemblies := outcome.assemblies
        messages := r.messages ++ m?.toList }
    | .error _ =>
      { r with assemblies := outcome.assemblies, errors := r.errors + 1 }

/-- Reads deliveries in their order, with no message open at first. -/
def all (deliveries : List Delivery) : Reading :=
  deliveries.foldl take {}

theorem all_append (deliveries more : List Delivery) :
    all (deliveries ++ more) = more.foldl take (all deliveries) :=
  List.foldl_append ..

/-- The same reading, with other messages before its own. -/
def after (r : Reading) (messages : List Message) : Reading :=
  { r with messages := messages ++ r.messages }

theorem take_after (r : Reading) (messages : List Message) (d : Delivery) :
    (r.after messages).take d = (r.take d).after messages := by
  simp only [take, takeOther, after]
  split
  · split
    · split <;> simp
    · rfl
  · split <;> simp

end Reading

namespace Relay

variable {σ : Type}

/-- What a relay has read, but for the messages. -/
def reading (r : Relay) : Reading where
  assemblies := r.assemblies
  errors := r.counters.protocolErrors

/-- The relay with what it has read. -/
def withReading (r : Relay) (reading : Reading) : Relay :=
  { r with
    assemblies := reading.assemblies
    counters := { r.counters with protocolErrors := reading.errors } }

theorem ends_noteAll {ρ : Type} (events : List AssemblyEvent)
    {s : Stage ρ σ} :
    Task.Ends (events.forM fun e => Task.note (.assembly e)) s fun _ s' =>
      s'.self = s.self ∧ s'.site.net = s.site.net := by
  induction events generalizing s with
  | nil => exact ⟨rfl, rfl⟩
  | cons e rest ih =>
      show Task.Ends (Task.note (.assembly e) >>= fun _ => rest.forM _) s _
      exact ih

theorem digest_reads (d : Delivery) (s : Stage Relay σ) :
    Task.Ends (digest d) s fun m? s' =>
      s'.self = s.self.withReading (s.self.reading.take d) ∧
        m?.toList = (s.self.reading.take d).messages ∧
        s'.site.net = s.site.net := by
  simp only [digest, Reading.take]
  cases hpiece : Piece.ofFlags? d.flags with
  | none =>
      simp only [classifyOther, Reading.takeOther]
      split
      · split <;> exact ⟨rfl, rfl, rfl⟩
      · exact ⟨rfl, rfl, rfl⟩
  | some piece =>
      simp only [assemble, Task.ends_bind, Task.ends_self, Task.ends_change]
      refine (ends_noteAll _).imp fun _ s' h => ?_
      obtain ⟨self₁, site₁⟩ := s'
      obtain ⟨rfl, hnet⟩ := h
      split
      · next m? hm? =>
          simp only [reading] at hm? ⊢
          rw [hm?]
          exact ⟨rfl, rfl, hnet⟩
      · next cause hcause =>
          simp only [reading] at hcause ⊢
          rw [hcause]
          exact ⟨rfl, rfl, hnet⟩

end Relay

end Courier
