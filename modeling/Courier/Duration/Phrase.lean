import Courier.Duration
import Courier.Text.Blank
import Courier.Text.Number

/-!
# Phrases for lengths of time

People write a length of time as a sequence of parts, each a number with a unit: `1h 30m`, `250ms`,
`1.5s`. Blanks may stand before a part and inside its number. A single zero needs no unit.

Whole numbers are counted in nanoseconds below the second and in seconds above, and no count may
reach 2^64. A fraction of a part must come out even in the smaller unit that is left for it.
-/

namespace Courier.Duration

structure Measure where
  names : List String
  length : Nat
  /-- In what a whole number of the unit is counted. -/
  grain : Nat
  /-- In what a fraction of the unit is counted, if there may be one. -/
  fineGrain? : Option Nat
  deriving DecidableEq, Repr

def hour : Nat := 3600 * second

def day : Nat := 24 * hour

/-- A month, which has 30.44 days. -/
def month : Nat := 2630016 * second

/-- A year, which has 365.25 days. -/
def year : Nat := 31557600 * second

def measures : List Measure := [
  ⟨["ns", "nsec", "nanos"], 1, 1, none⟩,
  ⟨["us", "usec", "µs"], 1000, 1, some 1⟩,
  ⟨["ms", "msec", "millis"], millisecond, 1, some 1⟩,
  ⟨["s", "sec", "secs", "second", "seconds"], second, second, some 1⟩,
  ⟨["m", "min", "mins", "minute", "minutes"], 60 * second, second, some 1⟩,
  ⟨["h", "hr", "hrs", "hour", "hours"], hour, second, some second⟩,
  ⟨["d", "day", "days"], day, second, some second⟩,
  ⟨["w", "wk", "wks", "week", "weeks"], 7 * day, second, some second⟩,
  ⟨["M", "month", "months"], month, second, some second⟩,
  ⟨["y", "yr", "yrs", "year", "years"], year, second, some second⟩]

/-- A fraction as it is written: the digits behind the point, and a one with as many zeros. -/
structure Places where
  digits : Nat := 0
  scale : Nat := 1
  deriving DecidableEq, Repr

def add? (grain total extra : Nat) : Option Nat :=
  if grain < second ∧ UInt64.size ≤ total % second + extra then none
  else if UInt64.size ≤ (total + extra) / second then none
  else some (total + extra)

def addWhole? (m : Measure) (total n : Nat) : Option Nat := do
  let count ← Text.below64? (n * (m.length / m.grain))
  add? m.grain total (count * m.grain)

def addPlaces? (m : Measure) (total : Nat) (p : Places) : Option Nat := do
  let grain ← m.fineGrain?
  let count ← Text.below64? (p.digits * (m.length / grain))
  if count % p.scale = 0 then add? grain total (count / p.scale * grain) else none

def addPart? (total whole : Nat) (places? : Option Places) (unit : List Char) : Option Nat := do
  let m ← measures.find? fun m => m.names.contains (String.ofList unit)
  let total ← addWhole? m total whole
  match places? with
  | none => return total
  | some p => addPlaces? m total p

/-- How far a phrase has been read. `total` is the length of the parts that are complete. -/
inductive Reading where
  /-- Before a part; there is no total before the first one. -/
  | between (total? : Option Nat)
  | whole (total n : Nat)
  | places (total n : Nat) (p : Places)
  | unit (total n : Nat) (places? : Option Places) (name : List Char)
  deriving DecidableEq, Repr

namespace Reading

def isUnitLetter (c : Char) : Bool :=
  c.isAlpha || c = 'µ'

def shift? (n : Nat) (c : Char) : Option Nat :=
  Text.below64? (10 * n + (c.toNat - 48))

def step (r : Reading) (c : Char) : Option Reading :=
  match r with
  | between total? =>
    if c.isDigit then some (whole (total?.getD 0) (c.toNat - 48))
    else if Text.isBlank c then some r
    else none
  | whole total n =>
    if c.isDigit then (shift? n c).map (whole total)
    else if Text.isBlank c then some r
    else if isUnitLetter c then some (unit total n none [c])
    else if c = '.' then some (places total n {})
    else none
  | places total n p =>
    if c.isDigit then do
      return places total n { digits := ← shift? p.digits c, scale := ← shift? p.scale '0' }
    else if Text.isBlank c then some r
    else if isUnitLetter c && 1 < p.scale then some (unit total n (some p) [c])
    else none
  | unit total n places? name =>
    if isUnitLetter c then some (unit total n places? (name ++ [c]))
    else if c.isDigit then
      (addPart? total n places? name).map fun total => whole total (c.toNat - 48)
    else if Text.isBlank c then (addPart? total n places? name).map fun total => between total
    else none

def finish? : Reading → Option Nat
  | between total? => total?
  | whole .. | places .. => none
  | unit total n places? name => addPart? total n places? name

end Reading

def ofPhrase? (s : String) : Option Nat :=
  if s = "0" then some 0
  else (s.toList.foldlM Reading.step (.between none)).bind Reading.finish?

def item (unit : String) (n : Nat) : Option String :=
  if n = 0 then none else some (n.repr ++ unit)

def pluralItem (unit : String) (n : Nat) : Option String :=
  item (if 1 < n then unit ++ "s" else unit) n

def phrase (ns : Nat) : String :=
  let items := [
    pluralItem "year" (ns / year),
    pluralItem "month" (ns % year / month),
    pluralItem "day" (ns % year % month / day),
    item "h" (ns % year % month % day / hour),
    item "m" (ns % year % month % day % hour / (60 * second)),
    item "s" (ns % year % month % day % (60 * second) / second),
    item "ms" (ns % second / millisecond),
    item "us" (ns % millisecond / 1000),
    item "ns" (ns % 1000)]
  if ns = 0 then "0s" else " ".intercalate (items.filterMap id)

end Courier.Duration
