import Courier.Proofs.Agent.Course
import Courier.Transport.Record

/-!
# What an agent asks of its transport

Over a recorded transport every operation of an agent adds calls at the end
of the record. Two kinds of call move something: a `receive` that returns a
delivery, and a multicast. Connecting, joining, leaving and disconnecting are
silent.

Most operations are silent altogether. `poll_record` and `send_record` are
about the two that are not: polling takes in exactly what it returns, however
the keep-alive behind it fares, and sending either multicasts the message
once, or ends with a connect that failed and multicasts nothing.
-/

namespace Courier

/-- A multicast that was asked for, and what came of it. -/
structure Multicast where
  group : String
  service : Service
  flags : Flags
  payload : Bytes
  outcome : Except Fault Nat

/-- What was asked for. -/
def Multicast.request (p : Multicast) : String × Service × Flags × Bytes :=
  (p.group, p.service, p.flags, p.payload)

/-- Was the whole payload taken? -/
def Multicast.isComplete (p : Multicast) : Bool :=
  match p.outcome with
  | .ok sent => sent = p.payload.length
  | .error _ => false

/-- What is asked for when a message is sent. -/
def Message.request (m : Message) : String × Service × Flags × Bytes :=
  (m.topic, .fifo, .normal, m.payload)

/-- The multicast of a message. -/
def Message.multicast (m : Message) (outcome : Except Fault Nat) :
    Multicast where
  group := m.topic
  service := .fifo
  flags := .normal
  payload := m.payload
  outcome := outcome

namespace Exchange

/-- The delivery that a call returned. -/
def delivery? : Exchange → Option Delivery
  | receive (.ok d) => some d
  | _ => none

def multicast? : Exchange → Option Multicast
  | @multicast service group flags payload outcome =>
    some { group, service, flags, payload, outcome }
  | _ => none

def deliveries (calls : List Exchange) : List Delivery :=
  calls.filterMap delivery?

def multicasts (calls : List Exchange) : List Multicast :=
  calls.filterMap multicast?

/-- The multicasts that carry a message. -/
def postings (calls : List Exchange) : List Multicast :=
  (multicasts calls).filter fun p => p.flags = .normal

/-- Nothing is moved by these calls. -/
def Silent (calls : List Exchange) : Prop :=
  deliveries calls = [] ∧ multicasts calls = []

/-- The calls end with a connect that failed. -/
def EndUnconnected (calls : List Exchange) : Prop :=
  ∃ earlier address client fault,
    calls = earlier ++ [connect address client (.error fault)]

variable {calls more : List Exchange}

@[simp]
theorem deliveries_append :
    deliveries (calls ++ more) = deliveries calls ++ deliveries more :=
  List.filterMap_append ..

@[simp]
theorem multicasts_append :
    multicasts (calls ++ more) = multicasts calls ++ multicasts more :=
  List.filterMap_append ..

@[simp]
theorem postings_append :
    postings (calls ++ more) = postings calls ++ postings more := by
  rw [postings, multicasts_append, List.filter_append]
  rfl

theorem Silent.nil : Silent [] :=
  ⟨rfl, rfl⟩

theorem Silent.append (h : Silent calls) (h' : Silent more) :
    Silent (calls ++ more) := by
  rw [Silent, deliveries_append, multicasts_append, h.1, h.2, h'.1, h'.2]
  exact ⟨rfl, rfl⟩

theorem postings_of_silent (h : Silent calls) : postings calls = [] := by
  rw [postings, h.2, List.filter_nil]

theorem EndUnconnected.append_left (h : EndUnconnected more) :
    EndUnconnected (calls ++ more) := by
  obtain ⟨earlier, address, client, fault, rfl⟩ := h
  exact ⟨calls ++ earlier, address, client, fault, by simp⟩

end Exchange

namespace Message

/-- The message was multicast once, and all of it was taken. -/
def SentBy (m : Message) (calls : List Exchange) : Prop :=
  Exchange.multicasts calls = [m.multicast (.ok m.payload.length)]

/-- The message was not multicast for want of a session, or it was multicast
once and failed, or was not taken as a whole. -/
def LostBy (m : Message) (calls : List Exchange) : Prop :=
  (Exchange.multicasts calls = [] ∧ Exchange.EndUnconnected calls) ∨
    ∃ outcome, outcome ≠ .ok m.payload.length ∧
      Exchange.multicasts calls = [m.multicast outcome]

end Message

namespace Recorded

variable {σ : Type} {r r' r'' : Recorded σ} {calls more : List Exchange}

/-- The record `r'` is the record `r` and the given calls. -/
def Adds (r r' : Recorded σ) (calls : List Exchange) : Prop :=
  r'.calls.toList = r.calls.toList ++ calls

theorem Adds.refl (r : Recorded σ) : r.Adds r [] :=
  (List.append_nil _).symm

theorem Adds.trans (h : r.Adds r' calls) (h' : r'.Adds r'' more) :
    r.Adds r'' (calls ++ more) := by
  rw [Adds, h', h, List.append_assoc]

/-- The new calls are what the record has behind the old ones. -/
theorem Adds.drop_eq (h : r.Adds r' calls) :
    r'.calls.toList.drop r.calls.toList.length = calls := by
  rw [h, List.drop_left]

theorem adds_push {net : σ} (call : Exchange) :
    r.Adds { net, calls := r.calls.push call } [call] :=
  Array.toList_push ..

end Recorded

namespace Agent

open Exchange

variable {σ α : Type} {t : Transport σ}

/-! ## Silent operations -/

/-- Between the stages calls were made of which `P` holds, and the agent
accepts messages of the same size as before. -/
structure Asks (s s' : Stage Agent (Recorded σ)) (P : List Exchange → Prop) :
    Prop where
  calls : ∃ calls, s.site.net.Adds s'.site.net calls ∧ P calls
  limit : s'.self.profile.limit = s.self.profile.limit

def Quiet (s s' : Stage Agent (Recorded σ)) : Prop :=
  Asks s s' Silent

/-- Calls were made between the stages, and the last of them is a connect that
failed. -/
def Refused (s s' : Stage Agent (Recorded σ)) : Prop :=
  ∃ calls, s.site.net.Adds s'.site.net calls ∧ EndUnconnected calls

section Quiet

variable {s s' s'' : Stage Agent (Recorded σ)}

/-- What is not a call makes no noise. -/
theorem Quiet.of_net (hnet : s'.site.net = s.site.net)
    (hlimit : s'.self.profile.limit = s.self.profile.limit) : Quiet s s' :=
  ⟨⟨[], hnet ▸ .refl _, .nil⟩, hlimit⟩

theorem Quiet.of_call (call : Exchange) {net : σ} (hsilent : Silent [call])
    (hnet : s'.site.net = { net, calls := s.site.net.calls.push call })
    (hlimit : s'.self.profile.limit = s.self.profile.limit) : Quiet s s' :=
  ⟨⟨[call], hnet ▸ Recorded.adds_push call, hsilent⟩, hlimit⟩

theorem Quiet.trans (h : Quiet s s') (h' : Quiet s' s'') : Quiet s s'' := by
  obtain ⟨calls, hadds, hsilent⟩ := h.calls
  obtain ⟨more, hadds', hsilent'⟩ := h'.calls
  exact ⟨⟨_, hadds.trans hadds', hsilent.append hsilent'⟩,
    h'.limit.trans h.limit⟩

theorem Refused.of_quiet (h : Quiet s s') (h' : Refused s' s'') :
    Refused s s'' := by
  obtain ⟨calls, hadds, -⟩ := h.calls
  obtain ⟨more, hadds', hend⟩ := h'
  exact ⟨_, hadds.trans hadds', hend.append_left⟩

theorem Quiet.of_connect {address client : String}
    (hnet : s'.site.net =
      ((Recorded.transport t).connect address client s.site.net).net)
    (hlimit : s'.self.profile.limit = s.self.profile.limit) : Quiet s s' :=
  .of_call (.connect address client _) ⟨rfl, rfl⟩ hnet hlimit

theorem Refused.of_connect {address client : String} {fault : Fault}
    (hvalue : ((Recorded.transport t).connect address client
      s.site.net).value = .error fault)
    (hnet : s'.site.net =
      ((Recorded.transport t).connect address client s.site.net).net) :
    Refused s s' := by
  refine ⟨[.connect address client (.error fault)], ?_, [], _, _, _, rfl⟩
  rw [hnet, ← hvalue]
  exact Recorded.adds_push _

end Quiet

theorem Rejoins.quiet {topics : List String} {c c' : Connection}
    {site site' : Site (Recorded σ)}
    (h : Rejoins (Recorded.transport t) topics c site c' site') (a : Agent) :
    Quiet { self := a, site } { self := a, site := site' } := by
  induction h with
  | nil => exact .of_net rfl rfl
  | @cons topic _ _ _ _ _ _ ih =>
      refine .trans ?_ ih
      exact .of_call (.join topic _) ⟨rfl, rfl⟩ (rejoinedOn_net ..) rfl

/-- A search for a free name that fails ends with the refusal of the last
name that was tried. -/
theorem Searches.quiet {a : Agent} {attempt remaining : Nat}
    {site : Site (Recorded σ)} {r : Except Failure Connection}
    {s' : Stage Agent (Recorded σ)}
    (h : Searches (Recorded.transport t) a attempt remaining site r s') :
    Quiet { self := a, site } s' ∧ ∀ failure, r = .error failure →
      (∃ address cause, failure = .connecting address cause) ∧
        (Refused { self := a, site } s' ∨
          remaining = 0 ∧ s'.site.net = site.net) := by
  induction h with
  | exhausted =>
      refine ⟨.of_net rfl rfl, ?_⟩
      rintro _ ⟨⟩
      exact ⟨⟨_, _, rfl⟩, .inr ⟨rfl, rfl⟩⟩
  | accepted hconnect hrejoins =>
      refine ⟨.trans ?_ ((hrejoins.quiet a).trans (.of_net rfl rfl)),
        by rintro _ ⟨⟩⟩
      exact .of_connect rfl rfl
  | taken hconnect hrest ih =>
      obtain ⟨hquiet, hfailed⟩ := ih
      refine ⟨.trans ?_ hquiet, fun failure hr => ?_⟩
      · exact .of_connect rfl rfl
      obtain ⟨hfailure, hrefused | ⟨-, hnet⟩⟩ := hfailed failure hr
      · refine ⟨hfailure, .inl (.of_quiet ?_ hrefused)⟩
        exact .of_connect rfl rfl
      · exact ⟨hfailure, .inl (.of_connect hconnect hnet)⟩
  | refused hconnect =>
      refine ⟨.of_connect rfl rfl, ?_⟩
      rintro _ ⟨⟩
      exact ⟨⟨_, _, rfl⟩, .inl (.of_connect hconnect rfl)⟩

section Tasks

variable {s s' : Stage Agent (Recorded σ)}

theorem Connects.quiet {r : Except Failure Connection}
    (h : Connects (Recorded.transport t) s r s') :
    Quiet s s' ∧ ∀ failure, r = .error failure →
      (∃ address cause, failure = .connecting address cause) ∧
        Refused s s' := by
  cases h with
  | held => exact ⟨.of_net rfl rfl, by rintro _ ⟨⟩⟩
  | opened _ hsearch =>
      exact ⟨hsearch.quiet.1.trans (.of_net rfl rfl), by rintro _ ⟨⟩⟩
  | failed _ hsearch =>
      obtain ⟨hquiet, hfailed⟩ := hsearch.quiet
      refine ⟨hquiet, fun failure hr => ?_⟩
      obtain ⟨hfailure, hrefused | ⟨hnone, -⟩⟩ := hfailed failure hr
      · exact ⟨hfailure, hrefused⟩
      · cases hnone

theorem Disconnects.quiet (h : Disconnects (Recorded.transport t) s s') :
    Quiet s s' := by
  cases h with
  | idle => exact .of_net rfl rfl
  | ended => exact .of_call .disconnect ⟨rfl, rfl⟩ rfl rfl

theorem GivesUp.quiet {cause : Fault}
    (h : GivesUp (Recorded.transport t) cause s s') : Quiet s s' := by
  cases h with
  | harmless => exact .of_net rfl rfl
  | fatal _ hdisconnects =>
      refine .trans ?_ (hdisconnects.quiet.trans (.of_net rfl rfl))
      exact .of_net rfl rfl

end Tasks

theorem disconnect_quiet (s : Stage Agent (Recorded σ)) :
    Task.Ends (disconnect (Recorded.transport t)) s fun _ s' => Quiet s s' :=
  (disconnect_disconnects s).imp fun _ _ h => h.quiet

theorem setAddress_quiet (address : String) (s : Stage Agent (Recorded σ)) :
    Task.Ends (setAddress (Recorded.transport t) address) s fun _ s' =>
      Quiet s s' := by
  simp only [setAddress, Task.ends_bind, Task.ends_self]
  split
  · simp only [Task.ends_bind, Task.ends_change]
    refine (disconnect_quiet _).imp fun _ s' hquiet => .trans ?_ hquiet
    exact .of_net rfl rfl
  · exact .of_net rfl rfl

theorem setClient_quiet (client : String) (s : Stage Agent (Recorded σ)) :
    Task.Ends (setClient (Recorded.transport t) client) s fun _ s' =>
      Quiet s s' := by
  simp only [setClient, Task.ends_bind, Task.ends_self]
  split
  · simp only [Task.ends_bind, Task.ends_change]
    refine (disconnect_quiet _).imp fun _ s' hquiet => .trans ?_ hquiet
    exact .of_net rfl rfl
  · exact .of_net rfl rfl

theorem address_quiet (s : Stage Agent (Recorded σ)) :
    Task.Ends (address (Recorded.transport t)) s fun _ s' => Quiet s s' :=
  (connect_connects s).imp fun _ _ h => h.quiet.1

/-! ## Calls on a session -/

/-- What moves something between the stages is a request's own calls. -/
def Requested (s s' : Stage Agent (Recorded σ)) (own : List Exchange) : Prop :=
  Asks s s' fun calls =>
    deliveries calls = deliveries own ∧ multicasts calls = multicasts own

theorem Requested.of_quiet {f : SessionCall (Recorded σ) α} {c : Connection}
    {s s₁ s' : Stage Agent (Recorded σ)} {own : List Exchange} (h : Quiet s s₁)
    (hown : s₁.site.net.Adds (f c s₁.site.net).net own)
    (h' : Quiet (calledOn c f s₁) s') : Requested s s' own := by
  obtain ⟨before, hadds, hdeliveries, hmulticasts⟩ := h.calls
  obtain ⟨after, hadds', hdeliveries', hmulticasts'⟩ := h'.calls
  refine ⟨⟨before ++ own ++ after, (hadds.trans hown).trans hadds', ?_, ?_⟩, ?_⟩
  · simp [hdeliveries, hdeliveries']
  · simp [hmulticasts, hmulticasts']
  · exact h'.limit.trans h.limit

/-- A request fails for want of a session, or makes its own call between
silent ones. -/
theorem request_record {f : SessionCall (Recorded σ) α}
    {P : Except Fault α → List Exchange → Prop}
    (hf : ∀ c r, ∃ own, r.Adds (f c r).net own ∧ P (f c r).value.1 own)
    (failed : Fault → Failure) (s : Stage Agent (Recorded σ)) :
    Task.Ends (request (Recorded.transport t) f failed) s fun r s' =>
      (Quiet s s' ∧ Refused s s' ∧
          ∃ address cause, r = .error (.connecting address cause)) ∨
        ∃ outcome own, P outcome own ∧ Requested s s' own ∧
          r = outcome.mapError failed := by
  refine (request_requests f failed s).imp fun r s' h => ?_
  cases h with
  | unconnected hconnects =>
      obtain ⟨hquiet, hfailed⟩ := hconnects.quiet
      obtain ⟨⟨address, cause, rfl⟩, hrefused⟩ := hfailed _ rfl
      exact .inl ⟨hquiet, hrefused, address, cause, rfl⟩
  | @answered c s₁ x hconnects hanswer =>
      obtain ⟨own, hadds, hown⟩ := hf c s₁.site.net
      rw [hanswer] at hown
      refine .inr ⟨.ok x, own, hown, ?_, rfl⟩
      exact .of_quiet hconnects.quiet.1 hadds (.of_net rfl rfl)
  | @refused c s₁ _ cause hconnects hfault hgivesUp =>
      obtain ⟨own, hadds, hown⟩ := hf c s₁.site.net
      rw [hfault] at hown
      refine .inr ⟨.error cause, own, hown, ?_, rfl⟩
      exact .of_quiet hconnects.quiet.1 hadds hgivesUp.quiet

/-! ## Subscriptions -/

/-- A request whose own call is silent is quiet. -/
theorem request_quiet {f : SessionCall (Recorded σ) α}
    (hf : ∀ c (r : Recorded σ), ∃ own, r.Adds (f c r).net own ∧ Silent own)
    (failed : Fault → Failure) (s : Stage Agent (Recorded σ)) :
    Task.Ends (request (Recorded.transport t) f failed) s fun _ s' =>
      Quiet s s' := by
  refine (request_record (P := fun _ => Silent) hf failed s).imp fun r s' h => ?_
  obtain ⟨hquiet, -⟩ | ⟨outcome, own, hown, hrequested, -⟩ := h
  · exact hquiet
  · obtain ⟨calls, hadds, hdeliveries, hmulticasts⟩ := hrequested.calls
    exact ⟨⟨calls, hadds, hdeliveries.trans hown.1, hmulticasts.trans hown.2⟩,
      hrequested.limit⟩

theorem subscribe_quiet (topic : String) (s : Stage Agent (Recorded σ)) :
    Task.Ends (subscribe (Recorded.transport t) topic) s fun _ s' =>
      Quiet s s' := by
  simp only [subscribe, Task.ends_bind, Task.ends_change]
  refine (request_quiet (fun c r => ?_) _ _).imp fun _ s' hquiet => ?_
  · exact ⟨[.join topic _], Recorded.adds_push _, rfl, rfl⟩
  · refine .trans ?_ hquiet
    exact .of_net rfl rfl

theorem unsubscribe_quiet (topic : String) (s : Stage Agent (Recorded σ)) :
    Task.Ends (unsubscribe (Recorded.transport t) topic) s fun _ s' =>
      Quiet s s' := by
  simp only [unsubscribe, Task.ends_bind, Task.ends_change]
  refine (request_quiet (fun c r => ?_) _ _).imp fun _ s' hquiet => ?_
  · exact ⟨[.leave topic _], Recorded.adds_push _, rfl, rfl⟩
  · refine .trans ?_ hquiet
    exact .of_net rfl rfl

/-! ## Polling -/

/-- The delivery that a poll returned, if it returned one. -/
def polled {ε : Type} : Except ε (Option Delivery) → List Delivery
  | .ok d? => d?.toList
  | .error _ => []

theorem deliveries_receive (outcome : Except Fault Delivery) :
    deliveries [.receive outcome] = polled (outcome.map some) := by
  cases outcome <;> rfl

theorem receiveIfReady_record (c : Connection) (r : Recorded σ) :
    ∃ own,
      r.Adds (receiveIfReady (Recorded.transport t) c r).net own ∧
        deliveries own =
          polled (receiveIfReady (Recorded.transport t) c r).value.1 ∧
        multicasts own = [] := by
  simp only [receiveIfReady]
  split
  · next cause c' h =>
      exact ⟨[.poll _], Recorded.adds_push _, rfl, rfl⟩
  · next c' h =>
      exact ⟨[.poll _], Recorded.adds_push _, rfl, rfl⟩
  · next c' h =>
      refine ⟨[.poll _, .receive _],
        (Recorded.adds_push _).trans (Recorded.adds_push _), ?_, rfl⟩
      exact deliveries_receive _

/-- A keep-alive moves no delivery, and posts no message. -/
theorem keepAlive_record (s : Stage Agent (Recorded σ)) :
    Task.Ends (keepAlive (Recorded.transport t)) s fun _ s' =>
      Asks s s' fun calls => deliveries calls = [] ∧ postings calls = [] := by
  have hcall : ∀ c, s.site.net.Adds
      (calledOn c (keepAliveCall (Recorded.transport t)) s).site.net
        [@Exchange.multicast .fifo keepAliveGroup .empty keepAlivePayload
          (keepAliveCall (Recorded.transport t) c s.site.net).value.1] :=
    fun _ => Recorded.adds_push _
  refine (keepAlive_keepsAlive s).imp fun _ s' h => ?_
  cases h with
  | early | alone => exact ⟨⟨[], .refl _, rfl, rfl⟩, rfl⟩
  | @sent c => exact ⟨⟨_, hcall c, rfl, rfl⟩, rfl⟩
  | @failed c _ _ _ _ _ hgivesUp =>
      obtain ⟨⟨more, hadds, hsilent⟩, hlimit⟩ := hgivesUp.quiet
      refine ⟨⟨_, (hcall c).trans hadds, ?_, ?_⟩, hlimit⟩
      · rw [deliveries_append, hsilent.1, List.append_nil]
        rfl
      · rw [postings_append, postings_of_silent hsilent, List.append_nil]
        rfl

/-- A poll takes in the delivery that it returns and no other, and posts no
message. -/
theorem poll_record (s : Stage Agent (Recorded σ)) :
    Task.Ends (poll (Recorded.transport t)) s fun r s' =>
      Asks s s' fun calls =>
        deliveries calls = polled r ∧ postings calls = [] := by
  simp only [poll, Task.ends_bind]
  refine (request_record (P := fun outcome own => deliveries own =
    polled outcome ∧ multicasts own = []) (receiveIfReady_record ·)
    _ s).imp fun r s₁ h => ?_
  obtain ⟨hquiet, -, address, cause, rfl⟩ |
    ⟨outcome, own, ⟨hdeliveries, hmulticasts⟩, hrequested, rfl⟩ := h
  · obtain ⟨calls, hadds, hsilent⟩ := hquiet.calls
    exact ⟨⟨calls, hadds, hsilent.1, postings_of_silent hsilent⟩, hquiet.limit⟩
  · obtain ⟨calls, hadds, hdeliveries', hmulticasts'⟩ := hrequested.calls
    have hpostings : postings calls = [] := by
      rw [postings, hmulticasts', hmulticasts, List.filter_nil]
    cases outcome with
    | error cause =>
        exact ⟨⟨calls, hadds, hdeliveries'.trans hdeliveries, hpostings⟩,
          hrequested.limit⟩
    | ok delivery? =>
        simp only [mapError_ok, Task.ends_bind, Task.ends_pure]
        refine (keepAlive_record s₁).imp fun _ s' h => ?_
        obtain ⟨⟨more, hadds', hnone, hnone'⟩, hlimit⟩ := h
        refine ⟨⟨calls ++ more, hadds.trans hadds', ?_, ?_⟩,
          hlimit.trans hrequested.limit⟩
        · rw [deliveries_append, hnone, List.append_nil, hdeliveries',
            hdeliveries]
          rfl
        · rw [postings_append, hpostings, hnone', List.append_nil]

/-! ## Sending -/

theorem multicast_record (m : Message) (c : Connection) (r : Recorded σ) :
    ∃ own,
      r.Adds ((Recorded.transport t).multicast m.topic .normal m.payload .fifo
        c r).net own ∧
      own = [@Exchange.multicast .fifo m.topic .normal m.payload
        ((Recorded.transport t).multicast m.topic .normal m.payload .fifo
          c r).value.1] :=
  ⟨_, Recorded.adds_push _, rfl⟩

theorem send_refused {t : Transport σ} {m : Message} {s : Stage Agent σ}
    {failure : Failure} (hcheck : s.self.check m = .error failure) :
    Task.Ends (send t m) s fun r s' => r = .error failure ∧ s' = s := by
  simp only [send, Task.ends_bind, Task.ends_self, hcheck]
  exact ⟨rfl, rfl⟩

/-- A message that the agent accepts is sent by one multicast of it, or lost
where the attempt fails. -/
theorem send_record {m : Message} {s : Stage Agent (Recorded σ)}
    (hcheck : s.self.check m = .ok ()) :
    Task.Ends (send (Recorded.transport t) m) s fun r s' =>
      Asks s s' fun calls => deliveries calls = [] ∧
        ((r = .ok () ∧ m.SentBy calls) ∨
          (∃ failure, r = .error failure) ∧ m.LostBy calls) := by
  simp only [send, Task.ends_bind, Task.ends_self, hcheck]
  refine (request_record (P := fun outcome own => own =
    [@Exchange.multicast .fifo m.topic .normal m.payload outcome])
    (multicast_record m) _ s).imp fun r s' h => ?_
  obtain ⟨hquiet, hrefused, address, cause, rfl⟩ |
    ⟨outcome, own, rfl, hrequested, rfl⟩ := h
  · obtain ⟨calls, hadds, hsilent⟩ := hquiet.calls
    obtain ⟨calls', hadds', hend⟩ := hrefused
    obtain rfl : calls = calls' := hadds.drop_eq ▸ hadds'.drop_eq
    exact ⟨⟨calls, hadds, hsilent.1,
      .inr ⟨⟨_, rfl⟩, .inl ⟨hsilent.2, hend⟩⟩⟩, hquiet.limit⟩
  · obtain ⟨calls, hadds, hdeliveries, hmulticasts⟩ := hrequested.calls
    have hone : multicasts calls = [m.multicast outcome] := hmulticasts
    cases outcome with
    | error cause =>
        refine ⟨⟨calls, hadds, hdeliveries, .inr ⟨⟨_, rfl⟩, ?_⟩⟩,
          hrequested.limit⟩
        exact .inr ⟨.error cause, by simp, hone⟩
    | ok sent =>
        simp only [mapError_ok]
        split
        · next hsent =>
            refine ⟨⟨calls, hadds, hdeliveries, .inl ⟨rfl, ?_⟩⟩,
              hrequested.limit⟩
            rw [Message.SentBy, hone, hsent]
        · next hsent =>
            refine ⟨⟨calls, hadds, hdeliveries, .inr ⟨⟨_, rfl⟩, ?_⟩⟩,
              hrequested.limit⟩
            exact .inr ⟨.ok sent, fun h => hsent (Except.ok.inj h), hone⟩

end Agent

end Courier
