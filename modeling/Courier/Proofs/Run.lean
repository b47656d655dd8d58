import Mathlib.Data.List.Induction

/-!
# Runs

What acts more than once in this library acts in turns: it meets a state,
does something, answers, and leaves another state. A run is where a system
stands together with every turn that led there, so a statement about "what
has been accepted so far" is a statement about the past of a run.

Runs grow at the end. An invariant of runs is therefore proved once for the
start and once for a turn, and `Run.invariant` is the only induction that
statements about all runs of a system need.
-/

namespace Courier

/-- One turn of a system: what it met, what was done, what came of it. -/
structure Moment (S T R : Type) where
  before : S
  turn : T
  answer : R
  after : S

/-- The moment of which each state is looked at through `g`. -/
def Moment.map {S S' T R : Type} (g : S' → S) (m : Moment S' T R) :
    Moment S T R where
  before := g m.before
  turn := m.turn
  answer := m.answer
  after := g m.after

/-- Where a system stands, and the turns that led there, oldest first. -/
structure Run (S T R : Type) where
  state : S
  past : List (Moment S T R) := []

namespace Run

variable {S T R : Type} (act : T → StateM S R)

def moment (run : Run S T R) (turn : T) : Moment S T R where
  before := run.state
  turn := turn
  answer := ((act turn).run run.state).1
  after := ((act turn).run run.state).2

def take (run : Run S T R) (turn : T) : Run S T R where
  state := (run.moment act turn).after
  past := run.past ++ [run.moment act turn]

def of (s : S) (turns : List T) : Run S T R :=
  turns.foldl (take act) { state := s }

@[simp]
theorem of_nil (s : S) : of act s [] = { state := s } :=
  rfl

@[simp]
theorem of_concat (s : S) (turns : List T) (turn : T) :
    of act s (turns ++ [turn]) = (of act s turns).take act turn := by
  rw [of, List.foldl_append]
  rfl

variable {act}

/-- What holds at the start and is kept by every turn holds of the run. -/
theorem invariant {P : Run S T R → Prop} {s : S} {turns : List T}
    (start : P { state := s })
    (step : ∀ run turn, turn ∈ turns → P run → P (run.take act turn)) :
    P (of act s turns) := by
  induction turns using List.reverseRecOn with
  | nil => exact start
  | append_singleton turns turn ih =>
      rw [of_concat]
      refine step _ turn (by simp) (ih fun run turn' h hrun => ?_)
      exact step run turn' (by simp [h]) hrun

theorem invariant_cons {P : Run S T R → Prop} {s : S} {turn : T}
    {turns : List T} (start : P (Run.take act { state := s } turn))
    (step : ∀ run turn', turn' ∈ turns → P run → P (run.take act turn')) :
    P (of act s (turn :: turns)) := by
  induction turns using List.reverseRecOn with
  | nil => exact start
  | append_singleton turns last ih =>
      rw [← List.cons_append, of_concat]
      refine step _ last (by simp) (ih fun run turn' h hrun => ?_)
      exact step run turn' (by simp [h]) hrun

/-- The run goes on from its state as a run of its own. -/
theorem of_append (s : S) (turns more : List T) :
    of act s (turns ++ more) =
      { state := (of act (of act s turns).state more).state
        past := (of act s turns).past ++
          (of act (of act s turns).state more).past } := by
  induction more using List.reverseRecOn with
  | nil => simp
  | append_singleton more turn ih =>
      rw [← List.append_assoc, of_concat, of_concat, ih]
      simp only [take, moment, List.append_assoc]

/-- What holds of every turn and the turns before it, if an invariant does, holds
wherever the past of a run is split. -/
theorem forall_split {P : Run S T R → Prop}
    {Q : List (Moment S T R) → Moment S T R → Prop} {s : S} {turns : List T}
    (start : P { state := s })
    (step : ∀ run turn, P run →
      P (run.take act turn) ∧ Q run.past (moment act run turn)) :
    ∀ before m after, (of act s turns).past = before ++ m :: after →
      Q before m := by
  refine (invariant (P := fun run => P run ∧ ∀ before m after,
    run.past = before ++ m :: after → Q before m) ⟨start, by simp⟩
    fun run turn _ hrun => ?_).2
  obtain ⟨hrun, hpast⟩ := hrun
  obtain ⟨hnext, hturn⟩ := step run turn hrun
  refine ⟨hnext, fun before m after hsplit => ?_⟩
  obtain rfl | ⟨after, last, rfl⟩ := List.eq_nil_or_concat after
  · obtain ⟨rfl, hm⟩ := List.append_inj' hsplit rfl
    exact List.singleton_inj.mp hm ▸ hturn
  · rw [List.concat_eq_append, ← List.cons_append, ← List.append_assoc]
      at hsplit
    exact hpast _ _ _ (List.append_inj' hsplit rfl).1

/-- What holds of every turn holds of all turns that a run has taken. -/
theorem forall_past {Q : Moment S T R → Prop}
    (h : ∀ run turn, Q (moment act run turn)) (s : S) (turns : List T) :
    ∀ m ∈ (of act s turns).past, Q m := by
  refine invariant (P := fun run => ∀ m ∈ run.past, Q m)
    (fun m hm => by cases hm) fun run turn _ hrun m hm => ?_
  rcases List.mem_append.mp hm with hm | hm
  · exact hrun m hm
  · obtain rfl := List.mem_singleton.mp hm
    exact h run turn

/-- The run of which each state is looked at through `g`. -/
def map {S' : Type} (g : S' → S) (run : Run S' T R) : Run S T R where
  state := g run.state
  past := run.past.map (Moment.map g)

/-- What takes the same turns through `g` has the same run through it. -/
theorem of_map {S' : Type} {g : S' → S} {act' : T → StateM S' R}
    (h : ∀ turn s, (act turn).run (g s) =
      (((act' turn).run s).1, g ((act' turn).run s).2))
    (s : S') (turns : List T) : of act (g s) turns = (of act' s turns).map g := by
  induction turns using List.reverseRecOn with
  | nil => rfl
  | append_singleton turns turn ih =>
      rw [of_concat, of_concat, ih]
      simp only [take, moment, map, Moment.map, h, List.map_append,
        List.map_cons, List.map_nil]

variable (act)

def answers (run : Run S T R) (asked : T → Bool) : List R :=
  (run.past.filter fun m => asked m.turn).map Moment.answer

@[simp]
theorem answers_start (s : S) (asked : T → Bool) :
    answers ({ state := s } : Run S T R) asked = [] :=
  rfl

theorem answers_take (run : Run S T R) (turn : T) (asked : T → Bool) :
    (run.take act turn).answers asked =
      run.answers asked ++
        if asked turn then [(run.moment act turn).answer] else [] := by
  simp only [answers, take, List.filter_append, List.map_append]
  cases h : asked turn <;> simp [moment, h]

end Run

end Courier
