import Courier.Text.Fraction
import Courier.Window

/-!
# Lengths of time

Lengths of time are numbers of nanoseconds. For a developer they are shown in the largest unit of
which they have at least one, as a decimal fraction.
-/

namespace Courier.Duration

/-- A length of time as a developer reads it: `1.5s`, `20ms`, `0ns`. -/
def describe (ns : Nat) : String :=
  if second ≤ ns then Text.fraction 9 ns ++ "s"
  else if millisecond ≤ ns then Text.fraction 6 ns ++ "ms"
  else if 1000 ≤ ns then Text.fraction 3 ns ++ "µs"
  else ns.repr ++ "ns"

end Courier.Duration
