import Courier.Lines
import Courier.Relay.Handle
import Courier.Relay.Worker

/-!
# Networks

Parties of one kind, and lines, that share a site. Parties are numbered in the order in which they
came, and a party that has gone leaves its number empty.
-/

namespace Courier

structure Network (ρ σ : Type) where
  parties : List (Option ρ) := []
  lines : Lines := ∅
  site : Site σ

namespace Network

variable {ρ σ α : Type}

/-- The party of a number, if it has not gone. -/
def party? (n : Network ρ σ) (i : Nat) : Option ρ :=
  n.parties[i]?.join

def add (n : Network ρ σ) (party : ρ) : Network ρ σ :=
  { n with parties := n.parties ++ [some party] }

def remove (n : Network ρ σ) (i : Nat) : Network ρ σ :=
  { n with parties := n.parties.set i none }

def act (n : Network ρ σ) (i : Nat) (task : Task ρ σ α) : Option (α × Network ρ σ) :=
  (n.party? i).map fun party =>
    let (a, s) := task.run { self := party, site := n.site }
    (a, { n with parties := n.parties.set i (some s.self), site := s.site })

def onLines (n : Network ρ σ) (task : Task Lines σ α) : α × Network ρ σ :=
  let (a, s) := task.run { self := n.lines, site := n.site }
  (a, { n with lines := s.self, site := s.site })

def advance (n : Network ρ σ) (ns : Nat) : Network ρ σ :=
  { n with site := n.site.advance ns }

def tend (n : Network ρ σ) (f : σ → Served σ α) : Network ρ σ :=
  { n with site := n.site.serve (f n.site.net) }

end Network

def Agent.retire {σ : Type} (t : Transport σ) : Task Agent σ Unit :=
  Agent.disconnect t

def Relay.start {σ : Type} (t : Transport σ) : Task Relay σ Unit :=
  Relay.settle t

def Relay.shutdown {σ : Type} (t : Transport σ) : Task Relay σ Unit := do
  Relay.kill
  Relay.settle t

end Courier
