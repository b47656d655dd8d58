import Courier.Network
import Courier.Proofs.Relay.Cover
import Courier.Proofs.Run

/-!
# Histories of networks

A history of a network is a run in which its relays take turns, in any order:
at each turn one of them, or one of its callers, does something. What a relay
has accepted and what was received from it is told by its own turns.
-/

namespace Courier

namespace Network

section Parties

variable {ρ σ : Type} {n : Network ρ σ} {i : Nat} {party : ρ}

theorem lt_of_party? (h : n.party? i = some party) : i < n.parties.length := by
  by_contra hge
  rw [Nat.not_lt] at hge
  rw [party?, List.getElem?_eq_none hge] at h
  cases h

theorem party?_of_length_le (h : n.parties.length ≤ i) : n.party? i = none := by
  rw [party?, List.getElem?_eq_none h]
  rfl

theorem party?_add (n : Network ρ σ) (party : ρ) (i : Nat) :
    (n.add party).party? i =
      if n.parties.length = i then some party else n.party? i := by
  rw [party?, add, List.getElem?_append]
  split
  · next hlt => rw [if_neg (by omega), party?]
  · next hge =>
      split
      · next heq => simp [heq]
      · next hne =>
          rw [party?, List.getElem?_eq_none (by simp; omega),
            List.getElem?_eq_none (by omega)]

/-- The network after its party did something. -/
def after (n : Network ρ σ) (i : Nat) (s : Stage ρ σ) : Network ρ σ :=
  { n with parties := n.parties.set i (some s.self), site := s.site }

theorem party?_after (h : n.party? i = some party) (s : Stage ρ σ) (j : Nat) :
    (n.after i s).party? j = if i = j then some s.self else n.party? j := by
  rw [party?, after, List.getElem?_set]
  split
  · rw [if_pos (lt_of_party? h)]
    rfl
  · rfl

theorem act_of_party? {α : Type} (h : n.party? i = some party)
    (task : Task ρ σ α) :
    Task.Ends task { self := party, site := n.site } fun a s =>
      n.act i task = some (a, n.after i s) := by
  rw [Task.Ends, act, h]
  rfl

theorem act_of_no_party {α : Type} (h : n.party? i = none)
    (task : Task ρ σ α) : n.act i task = none := by
  rw [act, h]
  rfl

/-- The network whose site is looked at through `f`. -/
def view {τ : Type} (f : τ → σ) (n : Network ρ τ) : Network ρ σ where
  parties := n.parties
  lines := n.lines
  site := n.site.view f

theorem act_view {α τ : Type} {f : τ → σ} {y : Task ρ τ α} {x : Task ρ σ α}
    (h : Task.Covers f y x) (n : Network ρ τ) (i : Nat) :
    (n.view f).act i x = (n.act i y).map fun r => (r.1, r.2.view f) := by
  rw [act, act, Option.map_map]
  refine Option.map_congr fun party _ => ?_
  have hrun := h.run { self := party, site := n.site }
  simp only [Stage.view] at hrun
  simp only [view, hrun, Function.comp_apply]
  rfl

end Parties

variable {σ : Type}

/-- A turn of a network: what is done by a relay, or at it. -/
structure Move where
  party : Nat
  act : Relay.Act

/-- Where there is no relay, nothing is done. -/
def Move.take (t : Transport σ) (move : Move) :
    StateM (Network Relay σ) Relay.Answer :=
  fun n => (n.act move.party (Relay.perform t move.act)).getD (.done, n)

theorem Move.take_view {τ : Type} {f : τ → σ} {u : Transport τ}
    {t : Transport σ} (h : u.Covers f t) (move : Move) (n : Network Relay τ) :
    (move.take t).run (n.view f) =
      (((move.take u).run n).1, ((move.take u).run n).2.view f) := by
  simp only [Move.take, StateT.run]
  rw [act_view (Relay.perform_covers h move.act)]
  cases n.act move.party (Relay.perform u move.act) <;> rfl

abbrev History (σ : Type) := Run (Network Relay σ) Move Relay.Answer

def history (t : Transport σ) (n : Network Relay σ) (moves : List Move) :
    History σ :=
  Run.of (Move.take t) n moves

/-- A history over a transport is one over the transport that it covers. -/
theorem history_view {τ : Type} {f : τ → σ} {u : Transport τ}
    {t : Transport σ} (h : u.Covers f t) (n : Network Relay τ)
    (moves : List Move) :
    history t (n.view f) moves = (history u n moves).map (view f) :=
  Run.of_map (Move.take_view h) n moves

def acceptedAt (i : Nat) (m : Moment (Network Relay σ) Move Relay.Answer) :
    List Message :=
  if m.turn.party = i then m.turn.act.accepted m.answer else []

def receivedAt (i : Nat) (m : Moment (Network Relay σ) Move Relay.Answer) :
    List Message :=
  if m.turn.party = i then m.turn.act.received m.answer else []

namespace History

variable (h : History σ) (i : Nat)

/-- The messages that a relay has accepted so far. -/
def accepted : List Message :=
  h.past.flatMap (acceptedAt i)

/-- The messages that callers have received from a relay so far. -/
def received : List Message :=
  h.past.flatMap (receivedAt i)

theorem accepted_map {τ : Type} (g : Network Relay τ → Network Relay σ)
    (h : History τ) : History.accepted (h.map g) i = h.accepted i := by
  rw [accepted, accepted, Run.map, List.flatMap_map]
  rfl

theorem received_map {τ : Type} (g : Network Relay τ → Network Relay σ)
    (h : History τ) : History.received (h.map g) i = h.received i := by
  rw [received, received, Run.map, List.flatMap_map]
  rfl

variable (t : Transport σ) (move : Move)

theorem accepted_take :
    History.accepted (h.take (Move.take t) move) i =
      h.accepted i ++ acceptedAt i (h.moment (Move.take t) move) := by
  rw [accepted, Run.take, List.flatMap_append, List.flatMap_singleton]
  rfl

theorem received_take :
    History.received (h.take (Move.take t) move) i =
      h.received i ++ receivedAt i (h.moment (Move.take t) move) := by
  rw [received, Run.take, List.flatMap_append, List.flatMap_singleton]
  rfl

variable {h} {t} {move}

theorem moment_of_party? {r : Relay} (hr : h.state.party? move.party = some r) :
    Task.Ends (Relay.perform t move.act) { self := r, site := h.state.site }
      fun answer s => h.moment (Move.take t) move =
        { before := h.state, turn := move, answer,
          after := h.state.after move.party s } := by
  have hact := act_of_party? hr (Relay.perform t move.act)
  unfold Task.Ends at hact ⊢
  simp only [Run.moment, Move.take, StateT.run, hact, Option.getD_some]

/-- Where there is no relay, nothing happens. -/
theorem moment_of_no_party (hr : h.state.party? move.party = none) :
    h.moment (Move.take t) move =
      { before := h.state, turn := move, answer := .done,
        after := h.state } := by
  simp only [Run.moment, Move.take, StateT.run, act_of_no_party hr,
    Option.getD_none]

end History

end Network

end Courier
