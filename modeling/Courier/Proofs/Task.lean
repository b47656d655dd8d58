import Courier.Site

/-!
# Reasoning about tasks

A task is a function of its stage, and `Ends task s post` says what it comes
to: begun at stage `s`, it ends with a value and a stage of which `post`
holds. The rules below take a task apart as it was put together, so that what
is left of a goal about a task is a goal about stages.

A task that is used by others gets one statement of this form. Where it is
used, the statement is applied by `Ends.imp`, and its definition is not
looked at again.
-/

namespace Courier

@[simp]
theorem mapError_ok {ε ε' α : Type} (f : ε → ε') (a : α) :
    Except.mapError f (.ok a) = .ok a :=
  rfl

namespace Task

variable {ρ π σ α β : Type}

/-- The task, begun at stage `s`, ends with what `post` says. -/
def Ends (task : Task ρ σ α) (s : Stage ρ σ)
    (post : α → Stage ρ σ → Prop) : Prop :=
  post (task.run s).1 (task.run s).2

variable {s : Stage ρ σ} {post : α → Stage ρ σ → Prop}

@[simp]
theorem ends_pure (a : α) : Ends (pure a) s post ↔ post a s :=
  Iff.rfl

@[simp]
theorem ends_bind (x : Task ρ σ β) (f : β → Task ρ σ α) :
    Ends (x >>= f) s post ↔ Ends x s fun b s' => Ends (f b) s' post :=
  Iff.rfl

@[simp]
theorem ends_map (f : β → α) (x : Task ρ σ β) :
    Ends (f <$> x) s post ↔ Ends x s fun b s' => post (f b) s' :=
  Iff.rfl

@[simp]
theorem ends_self {post : ρ → Stage ρ σ → Prop} :
    Ends self s post ↔ post s.self s :=
  Iff.rfl

@[simp]
theorem ends_now {post : Nat → Stage ρ σ → Prop} :
    Ends now s post ↔ post s.site.clock s :=
  Iff.rfl

@[simp]
theorem ends_change (f : ρ → ρ) {post : Unit → Stage ρ σ → Prop} :
    Ends (change f) s post ↔ post () { s with self := f s.self } :=
  Iff.rfl

@[simp]
theorem ends_note (e : Event) {post : Unit → Stage ρ σ → Prop} :
    Ends (note e) s post ↔
      post () { s with
        site := { s.site with journal := s.site.journal.push e } } :=
  Iff.rfl

@[simp]
theorem ends_serve (call : σ → Served σ α) :
    Ends (serve call) s post ↔
      post (call s.site.net).value
        { s with site := s.site.serve (call s.site.net) } :=
  Iff.rfl

theorem Ends.imp {task : Task ρ σ α} {post' : α → Stage ρ σ → Prop}
    (h : Ends task s post) (himp : ∀ a s', post a s' → post' a s') :
    Ends task s post' :=
  himp _ _ h

/-- What is known of a task in two ways holds together where it ends. -/
theorem Ends.and {task : Task ρ σ α} {post' : α → Stage ρ σ → Prop}
    (h : Ends task s post) (h' : Ends task s post') :
    Ends task s fun a s' => post a s' ∧ post' a s' :=
  ⟨h, h'⟩

/-- Tasks that run alike end alike. -/
theorem Ends.of_run_eq {task task' : Task ρ σ α} {s' : Stage ρ σ}
    (h : Ends task' s' post) (hrun : task.run s = task'.run s') :
    Ends task s post := by
  rw [Ends, hrun]
  exact h

/-- A task that is begun twice at one stage ends twice in the same way. -/
theorem Ends.twice {task : Task ρ σ α}
    {post : α → Stage ρ σ → α → Stage ρ σ → Prop}
    (h : ∀ a s', post a s' a s') :
    Ends task s fun a s' => Ends task s (post a s') :=
  h _ _

end Task

end Courier
