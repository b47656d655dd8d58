import Courier.Flags

/-!
# Pieces

A delivery is either a complete message or one piece of a message that was sent in several
payloads. Which it is can be read off its flags.
-/

namespace Courier

inductive Piece where
  | single
  | first
  | middle
  | last
  deriving DecidableEq, Repr

namespace Piece

def named : List (String × Piece) :=
  [("Single", single), ("First", first), ("Middle", middle), ("Last", last)]

def name : Piece → String
  | single => "Single"
  | first => "First"
  | middle => "Middle"
  | last => "Last"

/-- The piece that flags announce; none for keep-alives and unknown kinds. -/
def ofFlags? (f : Flags) : Option Piece :=
  if f.contains .normal then some single
  else if f.contains .multiStart then some first
  else if f.contains .multi then
    if f.contains .multiEnd then some last else some middle
  else none

def flags : Piece → Flags
  | single => .normal
  | first => .multiStart
  | middle => .multi
  | last => Flags.multi.union .multiEnd

def carriesTopic : Piece → Bool
  | single | first => true
  | middle | last => false

@[simp]
theorem ofFlags?_flags (p : Piece) : ofFlags? p.flags = some p := by
  cases p <;> decide

end Piece

end Courier
