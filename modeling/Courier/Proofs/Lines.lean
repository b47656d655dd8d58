import Courier.Lines
import Courier.Proofs.Hub.Groups
import Courier.Proofs.Task

/-!
# Lines on a hub

Whatever is done on a line touches no client but the one that the line's own
connection carries. If the connection is given up, its client goes, unless the
hub has forgotten it before. A line that connects anew holds two connections
for a moment, and the one that goes may take the client of the other with it:
both may carry the same name.
-/

namespace Courier

namespace Lines

variable {α : Type} {s s' : Stage Lines Hub} {line : String}

/-- What is done on a line. -/
inductive Act where
  | connect (address client : String)
  | join (group : String)
  | leave (group : String)
  | multicast (group : String) (flags : Flags) (payload : Bytes)
    (service : Service)
  | poll
  | receive
  | disconnect
  | drop

def perform (line : String) : Act → Task Lines Hub Unit
  | .connect address client =>
    (fun _ => ()) <$> connect Hub.transport line address client
  | .join group => (fun _ => ()) <$> call line (Hub.transport.join group)
  | .leave group => (fun _ => ()) <$> call line (Hub.transport.leave group)
  | .multicast group flags payload service => (fun _ => ()) <$>
    call line (Hub.transport.multicast group flags payload service)
  | .poll => (fun _ => ()) <$> call line Hub.transport.poll
  | .receive => (fun _ => ()) <$> call line Hub.transport.receive
  | .disconnect => (fun _ => ()) <$> disconnect Hub.transport line
  | .drop => (fun _ => ()) <$> drop Hub.transport line

/-- The private group that the connection of a line carries. -/
def own? (ls : Lines) (line : String) : Option String :=
  ls[line]?.bind Connection.carried?

/-- Between the stages something was done on a line. -/
structure Tended (line : String) (s s' : Stage Lines Hub) : Prop where
  others : ∀ other, line ≠ other → s'.self[other]? = s.self[other]?
  spares : s.site.net.Spares s'.site.net (s.self.own? line)
    (s'.self.own? line)

theorem Tended.refl (line : String) (s : Stage Lines Hub) : Tended line s s :=
  ⟨fun _ _ => rfl, .of_same (fun _ => rfl) _⟩

theorem own?_of_connection {ls : Lines} {c : Connection}
    (h : ls[line]? = some c) : ls.own? line = c.carried? := by
  rw [own?, h, Option.bind_some]

theorem own?_insert (ls : Lines) (c : Connection) :
    own? (ls.insert line c) line = c.carried? :=
  own?_of_connection Std.ExtTreeMap.getElem?_insert_self

theorem Tended.of_insert {c : Connection}
    (hself : s'.self = s.self.insert line c)
    (hspares : s.site.net.Spares s'.site.net (s.self.own? line) c.carried?) :
    Tended line s s' where
  others := fun other hne => by
    rw [hself, Std.ExtTreeMap.getElem?_insert, if_neg]
    simpa using hne
  spares := by
    rw [hself, own?_insert]
    exact hspares

theorem call_tended {f : SessionCall Hub α} {change : Groups → Groups}
    (hf : Hub.Handles f change) (line : String) (s : Stage Lines Hub) :
    Task.Ends (call line f) s fun _ s' => Tended line s s' := by
  simp only [call, Task.ends_bind, Task.ends_self]
  split
  · exact .refl line s
  · next c hc =>
      refine Tended.of_insert rfl ?_
      rw [own?_of_connection hc]
      exact hf.spares c s.site.net

theorem disconnect_tended (line : String) (s : Stage Lines Hub) :
    Task.Ends (disconnect Hub.transport line) s fun _ s' =>
      Tended line s s' := by
  simp only [disconnect, Task.ends_bind, Task.ends_self]
  split
  · exact .refl line s
  · next c hc =>
      have hspares := Hub.spares_disconnect c s.site.net
      rw [← Connection.carried?_of_closed (Hub.isOpen_disconnect c s.site.net)]
        at hspares
      refine Tended.of_insert rfl ?_
      rw [own?_of_connection hc]
      exact hspares

theorem drop_tended (line : String) (s : Stage Lines Hub) :
    Task.Ends (drop Hub.transport line) s fun _ s' => Tended line s s' := by
  simp only [drop, Task.ends_bind, Task.ends_self]
  split
  · exact .refl line s
  · next c hc =>
      have hnone : own? (s.self.erase line) line = none := by
        rw [own?, Std.ExtTreeMap.getElem?_erase_self, Option.bind_none]
      refine ⟨fun other hne => ?_, ?_⟩
      · refine Std.ExtTreeMap.getElem?_erase.trans (if_neg ?_)
        simpa using hne
      · rw [own?_of_connection hc]
        refine (?_ : Hub.Spares _ _ _ (own? (s.self.erase line) line))
        rw [hnone]
        exact Hub.spares_disconnect c s.site.net

/-- A new session, and the end of one that was held before it. -/
theorem spares_renewal {h h₁ : Hub} {c c' : Connection} (hopen : c.isOpen = true)
    (hgroups : ∀ x, h₁.groups? x =
      if c.address = x then some ∅ else h.groups? x) :
    h.Spares (Hub.disconnect c' h₁).net c'.carried? c.carried? := by
  intro x hx
  rw [Connection.carried?_of_open hopen, Ne, Option.some.injEq] at hx
  rw [Hub.groups?_disconnect]
  split
  · exact .inl rfl
  · next hother =>
      rw [hgroups, if_neg hx]
      exact .inr ⟨rfl, hother⟩

theorem connect_tended (address client : String) (line : String)
    (s : Stage Lines Hub) :
    Task.Ends (connect Hub.transport line address client) s fun _ s' =>
      Tended line s s' := by
  simp only [connect, Task.ends_bind, Task.ends_serve, Hub.transport]
  obtain ⟨fault, hvalue, hnet⟩ | ⟨c, hvalue, hopen, -, hgroups⟩ :=
    Hub.groups?_connect address client s.site.net
  · rw [hvalue]
    refine ⟨fun _ _ => rfl, ?_⟩
    simp only [Site.serve, hnet]
    exact .of_same (fun _ => rfl) _
  · rw [hvalue]
    simp only [Task.ends_bind, Task.ends_self, Task.ends_change]
    cases hbefore : s.self[line]? with
    | some c' =>
        refine Tended.of_insert rfl ?_
        rw [own?_of_connection hbefore]
        exact spares_renewal hopen hgroups
    | none =>
        refine Tended.of_insert rfl ?_
        rw [own?, hbefore]
        exact Hub.spares_opening hopen fun x hx =>
          (hgroups x).trans (if_neg hx)

theorem perform_tended (a : Act) (line : String) (s : Stage Lines Hub) :
    Task.Ends (perform line a) s fun _ s' => Tended line s s' := by
  cases a with
  | connect address client => exact connect_tended address client line s
  | join group => exact call_tended (Hub.join_handles group) line s
  | leave group => exact call_tended (Hub.leave_handles group) line s
  | multicast group flags payload service =>
      exact call_tended (Hub.multicast_handles group flags payload service) line s
  | poll => exact call_tended Hub.poll_handles line s
  | receive => exact call_tended Hub.receive_handles line s
  | disconnect => exact disconnect_tended line s
  | drop => exact drop_tended line s

end Lines

end Courier
