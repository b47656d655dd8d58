import Courier.Proofs.Cover
import Courier.Proofs.Task

/-!
# Contacts

A contact is a call on a transport, kept with the connection on which it was
made and the connection as the call left it. A watched transport does what
another one does and keeps its contacts, in their order.

Contacts are linked if each of them was made on the connection that the one
before it had left: a connect where there was none, and any other call where
there was one. In linked contacts sessions do not overlap. A session goes from
the connect that opened it through the calls on it to the one disconnect that
ends it, and only then can there be another connect.
-/

namespace Courier

inductive Contact where
  | connect (address client : String) (outcome : Except Fault Connection)
  | join (found : Connection) (group : String) (outcome : Except Fault Unit)
    (left : Connection)
  | leave (found : Connection) (group : String) (outcome : Except Fault Unit)
    (left : Connection)
  | multicast (found : Connection) (group : String) (flags : Flags)
    (payload : Bytes) (service : Service) (outcome : Except Fault Nat)
    (left : Connection)
  | poll (found : Connection) (outcome : Except Fault Bool) (left : Connection)
  | receive (found : Connection) (outcome : Except Fault Delivery)
    (left : Connection)
  | disconnect (found : Connection)

/-- The fault of a call, if it ended in one. -/
def faultOf {α : Type} : Except Fault α → Option Fault
  | .ok _ => none
  | .error fault => some fault

theorem faultOf_map {α β : Type} (f : α → β) (r : Except Fault α) :
    faultOf (r.map f) = faultOf r := by
  cases r <;> rfl

namespace Contact

/-- The connection on which a call was made. -/
def found? : Contact → Option Connection
  | connect .. => none
  | join found .. | leave found .. | multicast found .. | poll found ..
  | receive found .. | disconnect found => some found

/-- The connection that there was after a call. -/
def left? : Contact → Option Connection
  | connect _ _ outcome => outcome.toOption
  | join _ _ _ left | leave _ _ _ left | multicast _ _ _ _ _ _ left
  | poll _ _ left | receive _ _ left => some left
  | disconnect _ => none

def opens : Contact → Bool
  | connect _ _ (.ok _) => true
  | _ => false

/-- The address at which a session was opened by a call. -/
def reached? : Contact → Option String
  | connect address _ (.ok _) => some address
  | _ => none

/-- A connect that failed. -/
def isRefusal : Contact → Bool
  | connect _ _ (.error _) => true
  | _ => false

def closes : Contact → Bool
  | disconnect _ => true
  | _ => false

/-- A call on a session that does not end it. -/
def isUse : Contact → Bool
  | connect .. | disconnect _ => false
  | _ => true

/-- The group that was to be joined. -/
def joined? : Contact → Option String
  | join _ group .. => some group
  | _ => none

/-- The fault of a call on a session. -/
def fault? : Contact → Option Fault
  | join _ _ outcome _ | leave _ _ outcome _ => faultOf outcome
  | multicast _ _ _ _ _ outcome _ => faultOf outcome
  | poll _ outcome _ => faultOf outcome
  | receive _ outcome _ => faultOf outcome
  | connect .. | disconnect _ => none

/-- A call on a session that showed that the session is over. -/
def isFatal (e : Contact) : Bool :=
  e.fault?.any Fault.endsSession

variable {e : Contact}

theorem isUse_of_joined {group : String} (h : e.joined? = some group) :
    e.isUse = true := by
  cases e <;> first | rfl | cases h

theorem not_closes_of_isUse (h : e.isUse = true) : e.closes = false := by
  cases e <;> first | rfl | cases h

theorem found?_of_isUse (h : e.isUse = true) : e.found?.isSome = true := by
  cases e <;> first | rfl | cases h

theorem not_opens_of_isUse (h : e.isUse = true) : e.opens = false := by
  cases e <;> first | rfl | cases h

theorem not_opens_of_closes (h : e.closes = true) : e.opens = false := by
  cases e <;> first | rfl | cases h

theorem not_closes_of_isRefusal (h : e.isRefusal = true) :
    e.closes = false := by
  cases e <;> first | rfl | cases h

theorem found?_of_isRefusal (h : e.isRefusal = true) : e.found? = none := by
  cases e <;> first | rfl | cases h

theorem not_opens_of_isRefusal (h : e.isRefusal = true) : e.opens = false := by
  cases e with
  | connect _ _ outcome =>
      cases outcome with
      | ok c => cases h
      | error fault => rfl
  | _ => rfl

theorem not_isRefusal_of_isUse (h : e.isUse = true) : e.isRefusal = false := by
  cases e <;> first | rfl | cases h

theorem not_isRefusal_of_closes (h : e.closes = true) :
    e.isRefusal = false := by
  cases e <;> first | rfl | cases h

theorem not_isUse_of_isRefusal (h : e.isRefusal = true) : e.isUse = false := by
  cases e <;> first | rfl | cases h

theorem reached?_of_not_opens (h : e.opens = false) : e.reached? = none := by
  cases e with
  | connect _ _ outcome => cases outcome <;> first | rfl | cases h
  | _ => rfl

theorem reached?_eq_nil {contacts : List Contact}
    (h : ∀ e ∈ contacts, e.opens = false) :
    contacts.filterMap reached? = [] :=
  List.filterMap_eq_nil_iff.mpr fun e he => reached?_of_not_opens (h e he)

/-- A call opens a session, ends one, or leaves it at what there was. -/
theorem isSome_left? (e : Contact) :
    e.left?.isSome = ((e.found?.isSome || e.opens) && !e.closes) := by
  cases e with
  | connect _ _ outcome => cases outcome <;> rfl
  | _ => rfl

theorem balance (e : Contact) :
    e.found?.isSome.toNat + (if e.opens then 1 else 0) =
      (if e.closes then 1 else 0) + e.left?.isSome.toNat := by
  cases e with
  | connect _ _ outcome => cases outcome <;> rfl
  | _ => rfl

end Contact

open Contact

/-! ## Linked contacts -/

/-- The contacts lead from one connection, or none, to another. -/
def Linked : Option Connection → List Contact → Option Connection → Prop
  | x, [], y => x = y
  | x, e :: rest, y => e.found? = x ∧ Linked e.left? rest y

/-- The session that is open at first is used, and then ended by one call, or
used and held to the end. -/
def EndsOnce (contacts : List Contact) (y : Option Connection) : Prop :=
  ∃ uses rest, contacts = uses ++ rest ∧ (∀ e ∈ uses, e.isUse = true) ∧
    (rest = [] ∧ y.isSome = true ∨
      ∃ c more, rest = .disconnect c :: more ∧ Linked none more y)

theorem EndsOnce.cons {e : Contact} {contacts : List Contact}
    {y : Option Connection} (huse : e.isUse = true) (h : EndsOnce contacts y) :
    EndsOnce (e :: contacts) y := by
  obtain ⟨uses, rest, rfl, huses, hend⟩ := h
  exact ⟨e :: uses, rest, rfl, List.forall_mem_cons.mpr ⟨huse, huses⟩, hend⟩

namespace Linked

variable {x y z : Option Connection} {contacts more : List Contact}

theorem nil (x : Option Connection) : Linked x [] x :=
  rfl

theorem single (e : Contact) : Linked e.found? [e] e.left? :=
  ⟨rfl, rfl⟩

theorem append_iff :
    Linked x (contacts ++ more) z ↔
      ∃ y, Linked x contacts y ∧ Linked y more z := by
  induction contacts generalizing x with
  | nil => simp [Linked]
  | cons e rest ih =>
      simp only [List.cons_append, Linked, ih]
      constructor
      · rintro ⟨hfound, y, hrest, hmore⟩
        exact ⟨y, ⟨hfound, hrest⟩, hmore⟩
      · rintro ⟨y, ⟨hfound, hrest⟩, hmore⟩
        exact ⟨hfound, y, hrest, hmore⟩

theorem append (h : Linked x contacts y) (h' : Linked y more z) :
    Linked x (contacts ++ more) z :=
  append_iff.mpr ⟨y, h, h'⟩

/-- Sessions that were opened have been ended, but for one that is held. -/
theorem balance (h : Linked x contacts y) :
    x.isSome.toNat + contacts.countP opens =
      contacts.countP closes + y.isSome.toNat := by
  induction contacts generalizing x with
  | nil =>
      obtain rfl : x = y := h
      simp
  | cons e rest ih =>
      obtain ⟨rfl, hrest⟩ := h
      have hone := e.balance
      have hrest := ih hrest
      rw [List.countP_cons, List.countP_cons]
      omega

/-- Where no session is ended, there is one afterwards if there was one before
or one was opened. -/
theorem isSome_eq (h : Linked x contacts y)
    (hopen : ∀ e ∈ contacts, e.closes = false) :
    y.isSome = (x.isSome || contacts.any opens) := by
  induction contacts generalizing x with
  | nil =>
      obtain rfl : x = y := h
      simp
  | cons e rest ih =>
      obtain ⟨rfl, hrest⟩ := h
      rw [ih hrest fun e' he' => hopen e' (List.mem_cons_of_mem _ he'),
        isSome_left?, hopen e List.mem_cons_self, Bool.not_false,
        Bool.and_true, List.any_cons, Bool.or_assoc]

/-- A session that is open goes on until it is ended. -/
theorem endsOnce {c : Connection} (h : Linked (some c) contacts y) :
    EndsOnce contacts y := by
  induction contacts generalizing c with
  | nil =>
      obtain rfl : some c = y := h
      exact ⟨[], [], rfl, by simp, .inl ⟨rfl, rfl⟩⟩
  | cons e rest ih =>
      obtain ⟨hfound, hrest⟩ := h
      cases e with
      | connect => cases hfound
      | disconnect c' =>
          exact ⟨[], _, rfl, by simp, .inr ⟨c', rest, rfl, hrest⟩⟩
      | join | leave | multicast | poll | receive => exact (ih hrest).cons rfl

end Linked

/-! ## Watched transports -/

structure Watched (σ : Type) where
  net : σ
  contacts : List Contact := []

namespace Watched

variable {σ α : Type}

def keep (w : Watched σ) (s : Served σ (Except Fault α × Connection))
    (contact : Except Fault α → Connection → Contact) :
    Served (Watched σ) (Except Fault α × Connection) where
  value := s.value
  net :=
    { net := s.net
      contacts := w.contacts ++ [contact s.value.1 s.value.2] }
  events := s.events

def transport (t : Transport σ) : Transport (Watched σ) where
  name := t.name
  connect address client w :=
    let s := t.connect address client w.net
    { value := s.value
      net :=
        { net := s.net
          contacts := w.contacts ++ [.connect address client s.value] }
      events := s.events }
  join group c w := w.keep (t.join group c w.net) (.join c group)
  leave group c w := w.keep (t.leave group c w.net) (.leave c group)
  multicast group flags payload service c w :=
    w.keep (t.multicast group flags payload service c w.net)
      (.multicast c group flags payload service)
  poll c w := w.keep (t.poll c w.net) (.poll c)
  receive c w := w.keep (t.receive c w.net) (.receive c)
  disconnect c w :=
    let s := t.disconnect c w.net
    { value := s.value
      net := { net := s.net, contacts := w.contacts ++ [.disconnect c] }
      events := s.events }
  backlog w := t.backlog w.net

/-- What others do on a network is no contact. -/
def elsewhere (f : σ → Served σ Unit) (w : Watched σ) :
    Served (Watched σ) Unit :=
  let s := f w.net
  { value := (), net := { w with net := s.net }, events := s.events }

theorem covers (t : Transport σ) :
    Transport.Covers Watched.net (Watched.transport t) t where
  connect := fun _ _ _ => rfl
  join := fun _ _ _ => rfl
  leave := fun _ _ _ => rfl
  multicast := fun _ _ _ _ _ _ => rfl
  poll := fun _ _ => rfl
  receive := fun _ _ => rfl
  disconnect := fun _ _ => rfl

/-- What becomes of whoever is watched becomes of him unwatched. -/
theorem ends_of_covers {ρ : Type} {y : Task ρ (Watched σ) α} {x : Task ρ σ α}
    (h : Task.Covers Watched.net y x) {s : Stage ρ σ} {P : α → ρ → Prop}
    (hy : ∀ s' : Stage ρ (Watched σ), s'.self = s.self →
      Task.Ends y s' fun a s'' => P a s''.self) :
    Task.Ends x s fun a s' => P a s'.self := by
  let watched : Stage ρ (Watched σ) :=
    { self := s.self, site := { s.site with net := { net := s.site.net } } }
  have hrun := h.run watched
  have hends := hy watched rfl
  unfold Task.Ends at hends ⊢
  rw [show s = watched.view Watched.net from rfl, hrun]
  exact hends

end Watched

end Courier
