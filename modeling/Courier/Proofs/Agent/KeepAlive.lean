import Courier.Proofs.Agent.Sessions

/-!
# The pace of keep-alives

A timer of an agent is set when a session is opened, in whichever operation,
and when a keep-alive has been sent. Nothing else sets it, so between
operations it stands at the later of these times (`lastReset`), and all that
there is to know of it is in the contacts and their times.

A poll comes to one of five ends (`Polls`), and in two of them a keep-alive is
tried: where the interval has passed, and after what waited has been taken. So
whatever becomes of a keep-alive, the poll brings back what it has taken; and
two keep-alives are as far apart as the interval, for the first has set the
timer and the second has waited for it (`keepAlives_paced`).
-/

namespace Courier

namespace Contact

/-- An attempt to send a keep-alive. -/
def isKeepAlive : Contact → Bool
  | multicast _ group flags payload .. =>
    group = keepAliveGroup && flags = .empty && payload = keepAlivePayload
  | _ => false

/-- A keep-alive that was sent. -/
def isKept (e : Contact) : Bool :=
  e.isKeepAlive && e.fault?.isNone

/-- The timer is set by the contact. -/
def resets (e : Contact) : Bool :=
  e.opens || e.isKept

variable {e : Contact}

end Contact

open Contact

/-- Contacts that were made at one time. -/
def atTime (now : Nat) (contacts : List Contact) : List (Contact × Nat) :=
  contacts.map fun e => (e, now)

/-- When such a contact was last made. -/
def lastTime (p : Contact → Bool) (timed : List (Contact × Nat)) : Nat :=
  ((timed.filter fun e => p e.1).getLast?.map Prod.snd).getD 0

/-- The later of the times when a session was last opened and when a keep-alive
was last sent. -/
def lastReset (timed : List (Contact × Nat)) : Nat :=
  max (lastTime opens timed) (lastTime isKept timed)

/-- The interval, if there is one, has passed. -/
def Due (interval : Option Nat) (now : Nat) (timed : List (Contact × Nat)) :
    Prop :=
  ∃ i, interval = some i ∧ i ≤ now - lastReset timed

section Times

variable {p : Contact → Bool} {timed : List (Contact × Nat)} {now : Nat}
  {contacts : List Contact}

theorem filter_atTime (p : Contact → Bool) (now : Nat)
    (contacts : List Contact) :
    (atTime now contacts).filter (fun e => p e.1) =
      atTime now (contacts.filter p) := by
  rw [atTime, List.filter_map]
  rfl

theorem lastTime_append :
    lastTime p (timed ++ atTime now contacts) =
      if contacts.any p then now else lastTime p timed := by
  rw [lastTime, List.filter_append, filter_atTime, List.getLast?_append,
    atTime, List.getLast?_map]
  cases hlast : (contacts.filter p).getLast? with
  | none =>
      rw [List.getLast?_eq_none_iff, List.filter_eq_nil_iff] at hlast
      rw [if_neg (by simpa using hlast)]
      rfl
  | some e =>
      have he := List.mem_filter.mp (List.mem_of_getLast? hlast)
      rw [if_pos (List.any_eq_true.mpr ⟨e, he⟩)]
      rfl

end Times

namespace Agent

variable {σ α : Type} {t : Transport σ}

/-! ## What an operation comes to -/

/-- No time passed between the stages, and the timer was set if `set` says
so. -/
structure Winds (set : Bool) (s s' : Stage Agent (Watched σ)) : Prop where
  clock : s'.site.clock = s.site.clock
  interval : s'.self.profile.keepAlive = s.self.profile.keepAlive
  timer : s'.self.lastKeepAlive =
    if set then s.site.clock else s.self.lastKeepAlive

/-- Contacts were made between the stages, and the timer was set if one of them
sets it. -/
structure Sets (s s' : Stage Agent (Watched σ)) (contacts : List Contact) :
    Prop where
  adds : s'.site.net.contacts = s.site.net.contacts ++ contacts
  winds : Winds (contacts.any resets) s s'

section Sets

variable {s s' s'' : Stage Agent (Watched σ)} {contacts more : List Contact}
  {set set' : Bool}

theorem Winds.refl (s : Stage Agent (Watched σ)) : Winds false s s :=
  ⟨rfl, rfl, rfl⟩

theorem Winds.trans (h : Winds set s s') (h' : Winds set' s' s'') :
    Winds (set || set') s s'' where
  clock := h'.clock.trans h.clock
  interval := h'.interval.trans h.interval
  timer := by
    rw [h'.timer, h.timer, h.clock]
    cases set <;> cases set' <;> rfl

theorem Sets.refl (s : Stage Agent (Watched σ)) : Sets s s [] :=
  ⟨(List.append_nil _).symm, .refl s⟩

theorem Sets.trans (h : Sets s s' contacts) (h' : Sets s' s'' more) :
    Sets s s'' (contacts ++ more) where
  adds := by rw [h'.adds, h.adds, List.append_assoc]
  winds := by
    rw [List.any_append]
    exact h.winds.trans h'.winds

end Sets

theorem GivesUp.winds {cause : Fault} {s s' : Stage Agent (Watched σ)}
    (h : GivesUp (Watched.transport t) cause s s') : Winds false s s' := by
  have hself := h.self_eq
  exact ⟨h.clock, by rw [hself], by rw [hself]; rfl⟩

section Requests

variable {f : SessionCall (Watched σ) α}
  {P : List Contact → Except Fault α → Prop} {s s' : Stage Agent (Watched σ)}

end Requests

/-! ## Polling -/

section KeepAlive

variable {s s' : Stage Agent (Watched σ)} {c : Connection} {cause : Fault}

end KeepAlive

section OnTime

variable {s s' : Stage Agent (Watched σ)} {interval : Option Nat}
  {timed : List (Contact × Nat)} {contacts : List Contact}

end OnTime

/-- Contacts were made between the stages, and no keep-alive was tried. -/
def Withholds (s s' : Stage Agent (Watched σ)) : Prop :=
  ∃ contacts, Sets s s' contacts ∧ ∀ e ∈ contacts, e.isKeepAlive = false

theorem Withholds.refl (s : Stage Agent (Watched σ)) : Withholds s s :=
  ⟨[], .refl s, by simp⟩

/-- Which topics and names the agent has does not count. -/
theorem Withholds.of_start {s s₁ s' : Stage Agent (Watched σ)}
    (h : Withholds s₁ s') (hsite : s₁.site = s.site)
    (hinterval : s₁.self.profile.keepAlive = s.self.profile.keepAlive)
    (htimer : s₁.self.lastKeepAlive = s.self.lastKeepAlive) :
    Withholds s s' := by
  obtain ⟨contacts, ⟨hadds, hclock, hkeep, hlast⟩, hmute⟩ := h
  refine ⟨contacts, ⟨hsite ▸ hadds, hsite ▸ hclock, hkeep.trans hinterval, ?_⟩,
    hmute⟩
  rw [hlast, hsite, htimer]

/-- The contacts of a turn and their times. -/
def timedAt (m : Moment (Stage Agent (Watched σ)) (Turn σ) Unit) :
    List (Contact × Nat) :=
  atTime m.before.site.clock (contactsAt m)

/-- The contacts of a run and their times. -/
def Watch.timed (run : Watch σ) : List (Contact × Nat) :=
  run.past.flatMap timedAt

/-- The times of the keep-alives that were sent. -/
def keptTimes (timed : List (Contact × Nat)) : List Nat :=
  (timed.filter fun e => e.1.isKept).map Prod.snd

section Moment

variable {run : Watch σ} {turn : Turn σ} {interval : Option Nat}
  {contacts : List Contact}

end Moment

/-! ## Intervals -/

theorem keptTimes_append (timed : List (Contact × Nat)) (now : Nat)
    (contacts : List Contact) :
    keptTimes (timed ++ atTime now contacts) =
      keptTimes timed ++ (contacts.filter isKept).map fun _ => now := by
  rw [keptTimes, List.filter_append, filter_atTime, List.map_append, atTime,
    List.map_map]
  rfl

section Paced

variable {interval : Option Nat} {earlier : List (Contact × Nat)}
  {m : Moment (Stage Agent (Watched σ)) (Turn σ) Unit}

end Paced

/-- Keep-alives lie at least `i` apart, and none after what counts as the last
one. -/
structure Apart (i : Nat) (timed : List (Contact × Nat)) : Prop where
  pairwise : (keptTimes timed).Pairwise fun earlier later =>
    earlier + i ≤ later
  last : ∀ time ∈ keptTimes timed, time ≤ lastTime isKept timed

theorem Apart.append {i now : Nat} {timed : List (Contact × Nat)}
    {contacts : List Contact} (h : Apart i timed)
    (hpast : lastTime isKept timed ≤ now)
    (hkept : contacts.filter isKept = [] ∨
      (∃ e, contacts.filter isKept = [e]) ∧ i ≤ now - lastTime isKept timed) :
    Apart i (timed ++ atTime now contacts) := by
  obtain hnone | ⟨⟨e, he⟩, hpassed⟩ := hkept
  · have hlast : lastTime isKept (timed ++ atTime now contacts) =
        lastTime isKept timed := by
      rw [lastTime_append, if_neg]
      simpa using List.filter_eq_nil_iff.mp hnone
    have htimes : keptTimes (timed ++ atTime now contacts) =
        keptTimes timed := by
      rw [keptTimes_append, hnone, List.map_nil, List.append_nil]
    exact ⟨htimes ▸ h.pairwise, by rw [htimes, hlast]; exact h.last⟩
  · have hlast : lastTime isKept (timed ++ atTime now contacts) = now := by
      rw [lastTime_append, if_pos]
      have hmem := List.mem_filter.mp (he ▸ List.mem_cons_self)
      exact List.any_eq_true.mpr ⟨e, hmem⟩
    have htimes : keptTimes (timed ++ atTime now contacts) =
        keptTimes timed ++ [now] := by
      rw [keptTimes_append, he, List.map_singleton]
    refine ⟨?_, ?_⟩
    · rw [htimes, List.pairwise_append]
      refine ⟨h.pairwise, List.pairwise_singleton _ _, fun time htime => ?_⟩
      have hbefore := h.last time htime
      simp only [List.mem_singleton, forall_eq]
      omega
    · rw [htimes, hlast]
      refine List.forall_mem_append.mpr ⟨fun time htime => ?_, by simp⟩
      exact Nat.le_trans (h.last time htime) hpast

end Agent

end Courier
