/-!
# Bounded queues

What comes in first goes out first, and what finds the queue full does not come in.
-/

namespace Courier

structure Queue (α : Type) where
  capacity : Nat
  items : List α := []

namespace Queue

variable {α : Type}

def withCapacity (capacity : Nat) : Queue α :=
  { capacity := max capacity 1 }

def isFull (q : Queue α) : Bool :=
  q.capacity ≤ q.items.length

def room (q : Queue α) : Nat :=
  q.capacity - q.items.length

/-- Puts an item at the end, whether or not there is room. -/
def push (q : Queue α) (a : α) : Queue α :=
  { q with items := q.items ++ [a] }

def pop? (q : Queue α) : Option (α × Queue α) :=
  match q.items with
  | [] => none
  | a :: rest => some (a, { q with items := rest })

@[simp]
theorem items_push (q : Queue α) (a : α) : (q.push a).items = q.items ++ [a] :=
  rfl

theorem length_push_le {q : Queue α} (h : q.isFull = false) (a : α) :
    (q.push a).items.length ≤ q.capacity := by
  simp only [isFull, decide_eq_false_iff_not, Nat.not_le] at h
  simp only [items_push, List.length_append, List.length_singleton]
  exact h

end Queue

end Courier
