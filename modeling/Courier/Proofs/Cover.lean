import Courier.Site
import Courier.Transport.Record

/-!
# Covers

A transport that keeps a record does what another one does, on a network that
holds more. It covers the other one: whoever looks only at the part of the
network that both know sees the same values, the same events and the same
part afterwards. A task that is done over it covers the task that is done
over the other, so a record changes nothing.

A task only adds to the journal. What it does is the same behind any journal,
and a task that covers another one does so behind any.
-/

namespace Courier

variable {ρ π σ τ α β : Type}

/-- What a call comes to on the part of the network that `f` shows. -/
def Served.view (f : τ → σ) (s : Served τ α) : Served σ α where
  value := s.value
  net := f s.net
  events := s.events

def Site.view (f : τ → σ) (s : Site τ) : Site σ where
  net := f s.net
  clock := s.clock
  journal := s.journal

def Stage.view (f : τ → σ) (s : Stage ρ τ) : Stage ρ σ where
  self := s.self
  site := s.site.view f

/-- The site, with something in the journal before what is there. -/
def Site.behind (s : Site σ) (before : Journal) : Site σ :=
  { s with journal := before ++ s.journal }

def Stage.behind (s : Stage ρ σ) (before : Journal) : Stage ρ σ :=
  { s with site := s.site.behind before }

@[simp]
theorem Stage.behind_empty (s : Stage ρ σ) : s.behind #[] = s := by
  simp [behind, Site.behind]

theorem Site.serve_behind (s : Site σ) (before : Journal)
    (call : Served σ α) :
    (s.behind before).serve call = (s.serve call).behind before := by
  have hjournal : before ++ s.journal ++ call.events.map Event.daemon =
      before ++ (s.journal ++ call.events.map Event.daemon) :=
    Array.ext' (by simp)
  rw [serve, behind, hjournal]
  rfl

def SessionCall.Covers (f : τ → σ) (y : SessionCall τ α)
    (x : SessionCall σ α) : Prop :=
  ∀ c n, x c (f n) = (y c n).view f

/-- `u` does on a network what `t` does on the part that `f` shows. -/
structure Transport.Covers (f : τ → σ) (u : Transport τ) (t : Transport σ) :
    Prop where
  connect : ∀ address client n,
    t.connect address client (f n) = (u.connect address client n).view f
  join : ∀ group, SessionCall.Covers f (u.join group) (t.join group)
  leave : ∀ group, SessionCall.Covers f (u.leave group) (t.leave group)
  multicast : ∀ group flags payload service, SessionCall.Covers f
    (u.multicast group flags payload service)
    (t.multicast group flags payload service)
  poll : SessionCall.Covers f u.poll t.poll
  receive : SessionCall.Covers f u.receive t.receive
  disconnect : ∀ c n, t.disconnect c (f n) = (u.disconnect c n).view f

theorem Recorded.covers (t : Transport σ) :
    Transport.Covers Recorded.net (Recorded.transport t) t where
  connect := fun _ _ _ => rfl
  join := fun _ _ _ => rfl
  leave := fun _ _ _ => rfl
  multicast := fun _ _ _ _ _ _ => rfl
  poll := fun _ _ => rfl
  receive := fun _ _ => rfl
  disconnect := fun _ _ => rfl

namespace Task

/-- `y` does on a stage what `x` does on the stage that `f` shows, behind any
journal. -/
def Covers (f : τ → σ) (y : Task ρ τ α) (x : Task ρ σ α) : Prop :=
  ∀ (s : Stage ρ τ) (before : Journal), x.run ((s.view f).behind before) =
    ((y.run s).1, ((y.run s).2.view f).behind before)

variable {f : τ → σ}

theorem Covers.run {y : Task ρ τ α} {x : Task ρ σ α} (h : Covers f y x)
    (s : Stage ρ τ) : x.run (s.view f) = ((y.run s).1, (y.run s).2.view f) := by
  simpa using h s #[]

/-- A task that covers itself does the same behind any journal. -/
theorem Covers.behind {x : Task ρ σ α} (h : Covers id x x) (s : Stage ρ σ)
    (before : Journal) : x.run (s.behind before) =
      ((x.run s).1, (x.run s).2.behind before) :=
  h s before

theorem Covers.pure (a : α) :
    Covers (ρ := ρ) f (Pure.pure a) (Pure.pure a) :=
  fun _ _ => rfl

theorem Covers.bind {y : Task ρ τ β} {x : Task ρ σ β} {k' : β → Task ρ τ α}
    {k : β → Task ρ σ α} (h : Covers f y x) (hk : ∀ b, Covers f (k' b) (k b)) :
    Covers f (y >>= k') (x >>= k) := by
  intro s before
  show (k (x.run ((s.view f).behind before)).1).run
    (x.run ((s.view f).behind before)).2 = _
  rw [h s before]
  exact hk _ _ before

theorem Covers.map {y : Task ρ τ β} {x : Task ρ σ β} (g : β → α)
    (h : Covers f y x) : Covers f (g <$> y) (g <$> x) := by
  intro s before
  show (g (x.run ((s.view f).behind before)).1,
    (x.run ((s.view f).behind before)).2) = _
  rw [h s before]
  rfl

theorem covers_self : Covers (ρ := ρ) f self self :=
  fun _ _ => rfl

theorem covers_now : Covers (ρ := ρ) f now now :=
  fun _ _ => rfl

theorem covers_change (g : ρ → ρ) : Covers f (change g) (change g) :=
  fun _ _ => rfl

theorem covers_note (e : Event) : Covers (ρ := ρ) f (note e) (note e) := by
  intro s before
  have hjournal : (before ++ s.site.journal).push e =
      before ++ s.site.journal.push e := Array.push_append
  show ((), Stage.mk s.self { s.site.view f with
    journal := (before ++ s.site.journal).push e }) = _
  rw [hjournal]
  rfl

theorem covers_serve {call' : τ → Served τ α} {call : σ → Served σ α}
    (h : ∀ n, call (f n) = (call' n).view f) :
    Covers (ρ := ρ) f (serve call') (serve call) := by
  intro s before
  have hcall : call (s.view f).site.net = (call' s.site.net).view f := h _
  show ((call (s.view f).site.net).value, { s.view f with
    site := ((s.view f).site.behind before).serve
      (call (s.view f).site.net) }) = _
  rw [hcall, Site.serve_behind]
  rfl

theorem Covers.part {get : ρ → π} {set : π → ρ → ρ} {y : Task π τ α}
    {x : Task π σ α} (h : Covers f y x) :
    Covers f (part get set y) (part get set x) := by
  intro s before
  have hpart := h { self := get s.self, site := s.site } before
  simp only [Stage.view, Stage.behind] at hpart
  show ((x.run { self := get s.self, site := (s.site.view f).behind before }).1,
    Stage.mk
      (set (x.run { self := get s.self
                    site := (s.site.view f).behind before }).2.self s.self)
      (x.run { self := get s.self
               site := (s.site.view f).behind before }).2.site) = _
  rw [hpart]
  rfl

end Task

/-! ## What every call keeps -/

section Keeps

variable {I : σ → Prop}

/-- Every call on the network keeps what `I` says of it. -/
structure Transport.Keeps (t : Transport σ) (I : σ → Prop) : Prop where
  connect : ∀ address client n, I n → I (t.connect address client n).net
  join : ∀ group c n, I n → I (t.join group c n).net
  leave : ∀ group c n, I n → I (t.leave group c n).net
  multicast : ∀ group flags payload service c n, I n →
    I (t.multicast group flags payload service c n).net
  poll : ∀ c n, I n → I (t.poll c n).net
  receive : ∀ c n, I n → I (t.receive c n).net
  disconnect : ∀ c n, I n → I (t.disconnect c n).net

/-- What a call comes to, with a proof about the network. -/
def Served.within (s : Served σ α) (h : I s.net) : Served { n // I n } α where
  value := s.value
  net := ⟨s.net, h⟩
  events := s.events

/-- The transport on the networks of which `I` holds. -/
def Transport.within (t : Transport σ) (h : t.Keeps I) :
    Transport { n // I n } where
  name := t.name
  connect address client n :=
    (t.connect address client n.1).within (h.connect _ _ _ n.2)
  join group c n := (t.join group c n.1).within (h.join _ _ _ n.2)
  leave group c n := (t.leave group c n.1).within (h.leave _ _ _ n.2)
  multicast group flags payload service c n :=
    (t.multicast group flags payload service c n.1).within
      (h.multicast _ _ _ _ _ _ n.2)
  poll c n := (t.poll c n.1).within (h.poll _ _ n.2)
  receive c n := (t.receive c n.1).within (h.receive _ _ n.2)
  disconnect c n := (t.disconnect c n.1).within (h.disconnect _ _ n.2)
  backlog n := t.backlog n.1

theorem Transport.within_covers {t : Transport σ} (h : t.Keeps I) :
    (t.within h).Covers Subtype.val t where
  connect := fun _ _ _ => rfl
  join := fun _ _ _ => rfl
  leave := fun _ _ _ => rfl
  multicast := fun _ _ _ _ _ _ => rfl
  poll := fun _ _ => rfl
  receive := fun _ _ => rfl
  disconnect := fun _ _ => rfl

/-- What every call keeps, a task keeps that can be done where it holds. -/
theorem Task.Covers.keeps {y : Task ρ { n // I n } α} {x : Task ρ σ α}
    (h : Task.Covers Subtype.val y x) {s : Stage ρ σ} (hs : I s.site.net) :
    I (x.run s).2.site.net := by
  have hrun := h.run
    { self := s.self, site := { s.site with net := ⟨s.site.net, hs⟩ } }
  rw [show Stage.view Subtype.val _ = s from rfl] at hrun
  rw [hrun]
  exact Subtype.property _

end Keeps

end Courier
