import Courier.Hub
import Courier.Proofs.Hub.Chronicle

/-!
# Who is in which group

Of the clients of a hub only the groups count here (`Hub.groups?`). A
connection reaches the client of its name, whoever opened the session, and no
other: what a call does to groups is one function on the groups of one client
(`Hub.Handles`). A call on a connection whose client has gone changes nothing,
and closes the connection.

A holder of a connection therefore leaves alone every client but its own
(`Hub.Spares`). If it gives up an open connection, its client goes as well.
-/

namespace Courier

/-- The private group that a connection acts for, as long as it is open. -/
def Connection.carried? (c : Connection) : Option String :=
  if c.isOpen then some c.address else none

theorem Connection.carried?_of_open {c : Connection} (h : c.isOpen = true) :
    c.carried? = some c.address := by
  rw [carried?, if_pos h]

theorem Connection.carried?_of_closed {c : Connection}
    (h : c.isOpen = false) : c.carried? = none := by
  rw [carried?, h]
  rfl

theorem Connection.carried?_eq_some_iff {c : Connection} {x : String} :
    c.carried? = some x ↔ c.isOpen = true ∧ c.address = x := by
  rw [carried?]
  split
  · next h => simp [h]
  · next h => simp [h]

namespace Hub

/-- The groups of a client that the hub has. -/
def groups? (h : Hub) (x : String) : Option Groups :=
  h.clients[x]?.map Client.groups

variable {α : Type} {h h' h'' : Hub} {c : Connection} {x : String}

theorem groups?_of_client {client : Client} (hx : h.clients[x]? = some client) :
    h.groups? x = some client.groups := by
  rw [groups?, hx]
  rfl

theorem groups?_of_no_client (hx : h.clients[x]? = none) :
    h.groups? x = none := by
  rw [groups?, hx]
  rfl

theorem exists_groups?_iff :
    (∃ groups, h.groups? x = some groups) ↔ x ∈ h.clients := by
  rw [Std.ExtTreeMap.mem_iff_isSome_getElem?, ← Option.isSome_iff_exists,
    groups?, Option.isSome_map]

theorem mem_members_iff {group : String} :
    x ∈ h.members group ↔ ∃ groups, h.groups? x = some groups ∧
      group ∈ groups := by
  rw [mem_members, groups?]
  cases h.clients[x]? <;> simp

theorem groups?_update (client : Client) :
    (h.update c client).groups? x =
      if c.address = x then some client.groups else h.groups? x := by
  rw [groups?, update, Std.ExtTreeMap.getElem?_insert]
  by_cases hx : c.address = x
  · simp [hx]
  · simp [hx, groups?]

@[simp]
theorem groups?_pass (d : Delivery) : (h.pass d).groups? x = h.groups? x := by
  rw [groups?, pass, Std.ExtTreeMap.getElem?_map, Option.map_map]
  refine Option.map_congr fun client _ => ?_
  simp only [Function.comp_apply, Client.take]
  split <;> rfl

@[simp]
theorem groups?_dropAll : h.dropAll.net.groups? x = none :=
  groups?_of_no_client Std.ExtTreeMap.getElem?_empty

theorem groups?_disconnect :
    (disconnect c h).net.groups? x =
      if c.carried? = some x then none else h.groups? x := by
  simp only [disconnect, Connection.carried?_eq_some_iff]
  by_cases hopen : c.isOpen
  · simp only [hopen, if_true, true_and, groups?, Std.ExtTreeMap.getElem?_erase]
    by_cases hx : c.address = x
    · simp [hx]
    · simp [hx]
  · simp [hopen]

theorem isOpen_disconnect (c : Connection) (h : Hub) :
    (disconnect c h).value.isOpen = false := by
  rw [disconnect]
  split
  · rfl
  · next hclosed => exact Bool.not_eq_true _ ▸ hclosed

/-- A connect is refused, or gives an open connection to a new client, which
is in no group. -/
theorem groups?_connect (daemon client : String) (h : Hub) :
    (∃ fault, (connect daemon client h).value = .error fault ∧
        (connect daemon client h).net = h) ∨
      ∃ c, (connect daemon client h).value = .ok c ∧
        c.isOpen = true ∧ h.groups? c.address = none ∧
        ∀ x, (connect daemon client h).net.groups? x =
          if c.address = x then some ∅ else h.groups? x := by
  simp only [connect]
  split
  · exact .inl ⟨_, rfl, rfl⟩
  · split
    · exact .inl ⟨_, rfl, rfl⟩
    · split
      · exact .inl ⟨_, rfl, rfl⟩
      · next hnew =>
          refine .inr ⟨_, rfl, rfl, groups?_of_no_client ?_, fun x => ?_⟩
          · exact Std.ExtTreeMap.getElem?_eq_none hnew
          · exact groups?_update (c := { address := h.address client }) {}

/-! ## Calls on a connection -/

/-- The call was answered, and changed the groups of the connection's client
at most. -/
structure Reached (change : Groups → Groups) (c : Connection) (h : Hub)
    (s : Served Hub (Except Fault α × Connection)) : Prop where
  connection : s.value.2 = c
  harmless : ∀ cause, s.value.1 = .error cause → cause.endsSession = false
  groups : ∀ x, s.net.groups? x =
    if c.carried? = some x then (h.groups? x).map change else h.groups? x

/-- The call found no client. -/
structure Missed (c : Connection) (h : Hub)
    (s : Served Hub (Except Fault α × Connection)) : Prop where
  value : s.value = (.error .closed, { c with isOpen := false })
  groups : ∀ x, s.net.groups? x = h.groups? x
  gone : c.isOpen = true → h.groups? c.address = none

/-- What a call does to groups. -/
def Handles (f : SessionCall Hub α) (change : Groups → Groups) : Prop :=
  ∀ c h, Reached change c h (f c h) ∨ Missed c h (f c h)

theorem Reached.of_same {s : Served Hub (Except Fault α × Connection)}
    (hconnection : s.value.2 = c)
    (hharmless : ∀ cause, s.value.1 = .error cause →
      cause.endsSession = false)
    (hgroups : ∀ x, s.net.groups? x = h.groups? x) : Reached id c h s :=
  ⟨hconnection, hharmless, fun x => by rw [hgroups, Option.map_id, id, ite_self]⟩

theorem Reached.same {s : Served Hub (Except Fault α × Connection)}
    (hreached : Reached id c h s) (x : String) :
    s.net.groups? x = h.groups? x := by
  rw [hreached.groups, Option.map_id, id, ite_self]

theorem withClient_cases {change : Groups → Groups}
    {f : Client → Except Fault α × Hub}
    (hharmless : ∀ client cause, (f client).1 = .error cause →
      cause.endsSession = false)
    (hf : ∀ client, h.clients[c.address]? = some client →
      ∀ x, (f client).2.groups? x =
        if c.address = x then some (change client.groups) else h.groups? x) :
    Reached change c h (withClient c h f) ∨ Missed c h (withClient c h f) := by
  rw [withClient]
  split
  · next hopen =>
    split
    · next client hclient =>
        refine .inl ⟨rfl, hharmless client, fun x => ?_⟩
        simp only [hf client hclient, Connection.carried?_eq_some_iff, hopen,
          true_and]
        split
        · next hx => rw [← hx, groups?_of_client hclient, Option.map_some]
        · rfl
    · next hnone =>
        exact .inr ⟨rfl, fun _ => rfl, fun _ => groups?_of_no_client hnone⟩
  · next hclosed =>
      obtain ⟨address, isOpen⟩ := c
      obtain rfl := Bool.not_eq_true _ ▸ hclosed
      refine .inr ⟨rfl, fun _ => rfl, ?_⟩
      rintro ⟨⟩

/-- A call that leaves groups alone. -/
theorem withClient_same {f : Client → Except Fault α × Hub}
    (hharmless : ∀ client cause, (f client).1 = .error cause →
      cause.endsSession = false)
    (hf : ∀ client, h.clients[c.address]? = some client →
      ∀ x, (f client).2.groups? x = h.groups? x) :
    Reached id c h (withClient c h f) ∨ Missed c h (withClient c h f) := by
  refine withClient_cases hharmless fun client hclient x => ?_
  rw [hf client hclient]
  split
  · next hx =>
      rw [← hx]
      exact groups?_of_client hclient
  · rfl

theorem legalGroup_iff {group : String} :
    legalGroup group = true ↔
      1 ≤ group.utf8ByteSize ∧ group.utf8ByteSize ≤ 32 := by
  rw [legalGroup, Bool.and_eq_true, decide_eq_true_eq, decide_eq_true_eq, Ne,
    ← String.utf8ByteSize_eq_zero_iff, Nat.one_le_iff_ne_zero]
  rfl

/-- The groups of a client after it has joined another, if that can be a group
at all. -/
def joined (group : String) (groups : Groups) : Groups :=
  if legalGroup group then groups.insert group else groups

theorem mem_joined {group g : String} {groups : Groups} :
    g ∈ joined group groups ↔
      g = group ∧ legalGroup g = true ∨ g ∈ groups := by
  rw [joined]
  split
  · next hlegal =>
      rw [Std.ExtTreeSet.mem_insert, Std.LawfulEqCmp.compare_eq_iff_eq]
      refine or_congr ⟨fun hg => ?_, fun hg => hg.1.symm⟩ Iff.rfl
      rw [← hg]
      exact ⟨rfl, hlegal⟩
  · next hillegal =>
      refine ⟨.inr, fun hg => hg.resolve_left ?_⟩
      rintro ⟨rfl, hlegal⟩
      exact hillegal hlegal

theorem join_handles (group : String) : Handles (join group) (joined group) := by
  intro c h
  rw [join]
  split
  · next hlegal =>
      refine withClient_cases (fun _ _ h => by cases h) fun client _ x => ?_
      rw [joined, if_pos hlegal]
      exact groups?_update _
  · next hillegal =>
      have hsame : joined group = id :=
        funext fun groups => by rw [joined, if_neg hillegal, id]
      rw [hsame]
      refine .inl (.of_same rfl (fun cause hcause => ?_) fun _ => rfl)
      cases hcause
      rfl

theorem leave_handles (group : String) :
    Handles (leave group) (·.erase group) := by
  intro c h
  refine withClient_cases (fun _ _ h => by cases h) fun client _ x => ?_
  exact groups?_update _

theorem multicast_handles (group : String) (flags : Flags) (payload : Bytes)
    (service : Service) :
    Handles (multicast group flags payload service) id := by
  intro c h
  rw [multicast]
  split
  · refine .inl (.of_same rfl (fun cause hcause => ?_) fun _ => rfl)
    cases hcause
    rfl
  · split
    · refine .inl (.of_same rfl (fun cause hcause => ?_) fun _ => rfl)
      cases hcause
      rfl
    · refine withClient_same (fun _ _ h => by cases h) fun client _ x => ?_
      exact groups?_pass _

theorem poll_handles : Handles poll id := fun _ _ =>
  withClient_same (fun _ _ h => by cases h) fun _ _ _ => rfl

theorem receive_handles : Handles receive id := by
  intro c h
  refine withClient_same (fun client cause hcause => ?_) fun client hclient x => ?_
  · split at hcause <;> cases hcause
    rfl
  · split
    · rfl
    · rw [groups?_update]
      split
      · next hx => rw [← hx, groups?_of_client hclient]
      · rfl

/-! ## Leaving other clients alone -/

/-- What is done between two hubs by the holder of a connection, which carries
the private group `own` before and `own'` afterwards. A client that is not the
holder's afterwards has gone, or was not the holder's before and is in the
groups that it was in. -/
def Spares (h h' : Hub) (own own' : Option String) : Prop :=
  ∀ x, own' ≠ some x →
    h'.groups? x = none ∨ h'.groups? x = h.groups? x ∧ own ≠ some x

theorem Spares.of_same (hgroups : ∀ x, h'.groups? x = h.groups? x)
    (own : Option String) : Spares h h' own own :=
  fun x hx => .inr ⟨hgroups x, hx⟩

theorem Spares.trans {own own' own'' : Option String}
    (h₁ : Spares h h' own own') (h₂ : Spares h' h'' own' own'') :
    Spares h h'' own own'' := by
  intro x hx
  obtain hgone | ⟨hsame, hx'⟩ := h₂ x hx
  · exact .inl hgone
  · rw [hsame]
    exact h₁ x hx'

theorem spares_disconnect (c : Connection) (h : Hub) :
    Spares h (disconnect c h).net c.carried? none := by
  intro x _
  rw [groups?_disconnect]
  split
  · exact .inl rfl
  · next hother => exact .inr ⟨rfl, hother⟩

theorem spares_opening (hopen : c.isOpen = true)
    (hothers : ∀ x, c.address ≠ x → h'.groups? x = h.groups? x) :
    Spares h h' none c.carried? := by
  intro x hx
  rw [Connection.carried?_of_open hopen, Ne, Option.some.injEq] at hx
  exact .inr ⟨hothers x hx, nofun⟩

theorem Handles.spares {f : SessionCall Hub α} {change : Groups → Groups}
    (hf : Handles f change) (c : Connection) (h : Hub) :
    Spares h (f c h).net c.carried? (f c h).value.2.carried? := by
  obtain hreached | hmissed := hf c h
  · rw [hreached.connection]
    intro x hx
    rw [hreached.groups, if_neg hx]
    exact .inr ⟨rfl, hx⟩
  · intro x _
    rw [hmissed.groups]
    by_cases hx : c.carried? = some x
    · obtain ⟨hopen, rfl⟩ := Connection.carried?_eq_some_iff.mp hx
      exact .inl (hmissed.gone hopen)
    · exact .inr ⟨rfl, hx⟩

end Hub

end Courier
