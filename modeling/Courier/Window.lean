/-!
# Sliding windows

A window counts the messages of the last few seconds and their bytes. Samples stand in the order
of their times, so those that are too old are at the front; they are dropped whenever the window
is used. A sample is too old as soon as it is as old as the window is long.

Times and lengths of time are in nanoseconds.
-/

namespace Courier

def second : Nat := 1000000000

def millisecond : Nat := 1000000

structure Sample where
  time : Nat
  bytes : Nat
  deriving DecidableEq, Repr

structure Rate where
  messages : Float
  bytes : Float

/-- The samples of the last `length` nanoseconds, oldest first. -/
structure Window where
  length : Nat := 5 * second
  samples : List Sample := []
  deriving DecidableEq, Repr

namespace Window

def expire (w : Window) (now : Nat) : Window :=
  { w with samples := w.samples.dropWhile fun s => w.length ≤ now - s.time }

def add (w : Window) (now bytes : Nat) : Window :=
  let w := w.expire now
  { w with samples := w.samples ++ [{ time := now, bytes }] }

def count (w : Window) : Nat :=
  w.samples.length

/-- The bytes of all samples. They were sent or received within the length of the window, so they
stay below 2^64. -/
def total (w : Window) : Nat :=
  w.samples.foldr (fun s n => s.bytes + n) 0

def toSeconds (ns : Nat) : Float :=
  Float.ofNat (ns / second) + Float.ofNat (ns % second) / Float.ofNat second

def spread (w : Window) : Rate :=
  { messages := Float.ofNat w.count / toSeconds w.length
    bytes := Float.ofNat w.total / toSeconds w.length }

def rate (w : Window) (now : Nat) : Rate × Window :=
  let w := w.expire now
  (w.spread, w)

end Window

end Courier
