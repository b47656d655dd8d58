import Std.Data.ExtTreeMap
import Courier.Site

/-!
# Lines

Connections that are used directly, without an agent. Each is held under the name of its line. A
connection that is given up is disconnected first.
-/

namespace Courier

abbrev Lines := Std.ExtTreeMap String Connection

namespace Lines

variable {σ α : Type}

/-- Opens a session on a line. A connection that the line held before is given up afterwards. -/
def connect (t : Transport σ) (line address client : String) :
    Task Lines σ (Except Fault Connection) := do
  match ← Task.serve (t.connect address client) with
  | .error fault => return .error fault
  | .ok c =>
    let before := (← Task.self)[line]?
    Task.change (·.insert line c)
    if let some c := before then
      let _ ← Task.serve (t.disconnect c)
    return .ok c

def call (line : String) (f : SessionCall σ α) : Task Lines σ (Option (Except Fault α)) := do
  match (← Task.self)[line]? with
  | none => return none
  | some c =>
    let (result, c) ← Task.serve (f c)
    Task.change (·.insert line c)
    return some result

/-- Ends the session of a line, which keeps its connection. Tells whether it has one. -/
def disconnect (t : Transport σ) (line : String) : Task Lines σ Bool := do
  match (← Task.self)[line]? with
  | none => return false
  | some c =>
    let c ← Task.serve (t.disconnect c)
    Task.change (·.insert line c)
    return true

def drop (t : Transport σ) (line : String) : Task Lines σ Bool := do
  match (← Task.self)[line]? with
  | none => return false
  | some c =>
    Task.change (·.erase line)
    let _ ← Task.serve (t.disconnect c)
    return true

end Lines

end Courier
