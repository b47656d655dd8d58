import Courier.Journal

/-!
# Sites

All that runs at one place shares a network, a clock and a journal: its site. Whatever a party
does is a task: it may change the party's own state, call on the network, read the clock and write
into the journal. Time passes only between tasks.
-/

namespace Courier

structure Site (σ : Type) where
  net : σ
  /-- The time in nanoseconds. -/
  clock : Nat := 0
  journal : Journal := #[]

namespace Site

variable {σ : Type}

def advance (s : Site σ) (ns : Nat) : Site σ :=
  { s with clock := s.clock + ns }

def serve {α : Type} (s : Site σ) (call : Served σ α) : Site σ :=
  { s with net := call.net, journal := s.journal ++ call.events.map Event.daemon }

end Site

structure Stage (ρ σ : Type) where
  self : ρ
  site : Site σ

abbrev Task (ρ σ α : Type) := StateM (Stage ρ σ) α

namespace Task

variable {ρ π σ α : Type}

def self : Task ρ σ ρ := do
  return (← get).self

def change (f : ρ → ρ) : Task ρ σ Unit :=
  modify fun s => { s with self := f s.self }

def now : Task ρ σ Nat := do
  return (← get).site.clock

def note (e : Event) : Task ρ σ Unit :=
  modify fun s => { s with site := { s.site with journal := s.site.journal.push e } }

def serve (call : σ → Served σ α) : Task ρ σ α :=
  modifyGet fun s =>
    let served := call s.site.net
    (served.value, { s with site := s.site.serve served })

def part (get : ρ → π) (set : π → ρ → ρ) (task : Task π σ α) : Task ρ σ α :=
  modifyGet fun s =>
    let (a, t) := task.run { self := get s.self, site := s.site }
    (a, { self := set t.self s.self, site := t.site })

end Task

end Courier
