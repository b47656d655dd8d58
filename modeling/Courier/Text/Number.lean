import Courier.Text.Hex

/-!
# Numbers in text

Unsigned numbers of a limited width, in decimal or to another base that is a power of two.
-/

namespace Courier.Text

def decimal? (digits : List Char) : Option Nat :=
  if digits ≠ [] ∧ digits.all Char.isDigit then
    some (digits.foldl (fun n c => 10 * n + (c.toNat - 48)) 0)
  else
    none

def below64? (n : Nat) : Option Nat :=
  if n < UInt64.size then some n else none

def unsigned : List Char → List Char
  | '+' :: digits => digits
  | digits => digits

/-- The number below 2^64 that decimal digits write, with or without a plus sign before them. -/
def word? (s : String) : Option Nat :=
  (decimal? (unsigned s.toList)).bind below64?

/-- The number below 2^64 that digits to the base `base` write, which is at most sixteen. -/
def wordInBase? (base : Nat) (digits : List Char) : Option Nat := do
  let values ← digits.mapM hexValue?
  if values.isEmpty || values.any (base ≤ ·) then none
  below64? (values.foldl (fun n v => base * n + v) 0)

end Courier.Text
