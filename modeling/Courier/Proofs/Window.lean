import Mathlib.Algebra.GroupWithZero.Nat
import Mathlib.Data.List.Induction
import Courier.Window

/-!
# What a window counts

Samples that are too old are thrown away at every use of a window, and only
from its front. Nothing is lost by that: time goes on, so what is too old once
is too old for good, and in the order of their times the samples that are too
old stand before all others (`dropWhile_eq_recent`).

`Tracks` is the invariant. A window need not hold all samples that were put in,
nor only recent ones; but at any time that is still to come, the recent ones
among those it holds are the recent ones of all. To ask for the rate is to drop
the others, so the rate is that of the recent samples.
-/

namespace Courier

namespace Window

variable {length now later : Nat} {samples : List Sample} {w : Window}

/-- The samples that are younger than the window is long. -/
def recent (length now : Nat) (samples : List Sample) : List Sample :=
  samples.filter fun s => now - s.time < length

theorem recent_append (more : List Sample) :
    recent length now (samples ++ more) =
      recent length now samples ++ recent length now more :=
  List.filter_append ..

/-- What is recent later is recent now. -/
theorem recent_recent (h : now ≤ later) :
    recent length later (recent length now samples) =
      recent length later samples := by
  rw [recent, recent, List.filter_filter]
  refine List.filter_congr fun s _ => ?_
  rw [← Bool.decide_and, decide_eq_decide]
  omega

theorem dropWhile_eq_recent
    (h : samples.Pairwise fun s t => s.time ≤ t.time) :
    samples.dropWhile (fun s => length ≤ now - s.time) =
      recent length now samples := by
  induction samples with
  | nil => rfl
  | cons s rest ih =>
      obtain ⟨hs, hrest⟩ := List.pairwise_cons.mp h
      by_cases hold : length ≤ now - s.time
      · rw [List.dropWhile_cons_of_pos (by simpa using hold), ih hrest, recent,
          recent, List.filter_cons_of_neg (by simpa using hold)]
      · rw [List.dropWhile_cons_of_neg (by simpa using hold), recent,
          List.filter_eq_self.mpr]
        -- All others are at least as young as the first.
        intro t ht
        have htime : s.time ≤ t.time := by
          obtain rfl | ht := List.mem_cons.mp ht
          · exact Nat.le_refl _
          · exact hs t ht
        rw [decide_eq_true_eq]
        omega

/-! ## One use -/

/-- The window has been used with these samples, and not after this time. -/
structure Tracks (w : Window) (samples : List Sample) (now : Nat) : Prop where
  ordered : w.samples.Pairwise fun s t => s.time ≤ t.time
  past : ∀ s ∈ w.samples, s.time ≤ now
  recent_eq : ∀ later, now ≤ later →
    recent w.length later w.samples = recent w.length later samples

/-- The samples that are left when the window is used are the recent ones. -/
theorem Tracks.samples_expire (h : Tracks w samples now) :
    (w.expire now).samples = recent w.length now samples := by
  rw [← h.recent_eq now (Nat.le_refl _)]
  exact dropWhile_eq_recent h.ordered

theorem Tracks.expire (h : Tracks w samples now) :
    Tracks (w.expire now) samples now := by
  have hsub : (w.expire now).samples.Sublist w.samples :=
    List.dropWhile_sublist _
  refine ⟨h.ordered.sublist hsub, fun s hs => h.past s (hsub.mem hs),
    fun later hlater => ?_⟩
  rw [h.samples_expire]
  exact recent_recent hlater

theorem Tracks.add (h : Tracks w samples now) (bytes : Nat) :
    Tracks (w.add now bytes) (samples ++ [{ time := now, bytes }]) now := by
  obtain ⟨hordered, hpast, hrecent⟩ := h.expire
  refine ⟨?_, ?_, fun later hlater => ?_⟩
  · refine List.pairwise_append.mpr
      ⟨hordered, List.pairwise_singleton .., fun s hs t ht => ?_⟩
    obtain rfl := List.mem_singleton.mp ht
    exact hpast s hs
  · refine List.forall_mem_append.mpr ⟨hpast, fun s hs => ?_⟩
    obtain rfl := List.mem_singleton.mp hs
    exact Nat.le_refl _
  · rw [recent_append]
    exact (recent_append _).trans (congrArg (· ++ _) (hrecent later hlater))

/-! ## All uses -/

/-- The ways to use a window, each at a time. -/
inductive Use where
  | add (time bytes : Nat)
  | rate (time : Nat)

namespace Use

def time : Use → Nat
  | add time _ | rate time => time

/-- The sample that is put in. -/
def sample? : Use → Option Sample
  | add time bytes => some { time, bytes }
  | rate _ => none

def apply (w : Window) : Use → Window
  | add time bytes => w.add time bytes
  | rate time => (w.rate time).2

end Use

/-- A window after some uses, the oldest first. -/
def used (length : Nat) (uses : List Use) : Window :=
  uses.foldl Use.apply { length }

/-- All samples that were put in. -/
def added (uses : List Use) : List Sample :=
  uses.filterMap Use.sample?

theorem Tracks.apply {u : Use} (h : Tracks w samples u.time) :
    Tracks (u.apply w) (samples ++ u.sample?.toList) u.time := by
  cases u with
  | add time bytes => exact h.add bytes
  | rate time =>
      rw [Use.sample?, Option.toList_none, List.append_nil]
      exact h.expire

end Window

end Courier
