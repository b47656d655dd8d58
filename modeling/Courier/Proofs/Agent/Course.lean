import Courier.Agent.Basic
import Courier.Proofs.Task

/-!
# What the tasks of an agent come to

The operations of an agent are made of a few tasks. For each task there is a
relation here that says all it comes to, over any transport: its value, and the
stage at its end. A relation has one constructor for each way that the task can
take, and the two tasks that are loops have relations that are inductive.

What is to be known of an agent over some transport follows by cases on these
relations, or by induction on them. The tasks are not taken apart again.
-/

namespace Courier

/-- The site when an agent has noted something. -/
def Site.noting {σ : Type} (site : Site σ) (e : AgentEvent) : Site σ :=
  { site with journal := site.journal.push (.agent e) }

namespace Agent

variable {σ α : Type} {t : Transport σ} {a : Agent} {s s' : Stage Agent σ}

/-! ## Connecting -/

/-- What an agent notes when it could not connect. -/
def complaint (a : Agent) (cause : Fault) : AgentEvent :=
  if a.outage then .stillUnreachable a.profile.address cause
  else .unreachable a.profile.address cause

/-- What an agent notes when it has connected. -/
def greeting (a : Agent) (c : Connection) : AgentEvent :=
  if a.outage then .restored a.profile.address c.address
  else .connected a.profile.address c.address

def unconnected (a : Agent) (cause : Fault) (site : Site σ) :
    Stage Agent σ where
  self := { a with outage := true }
  site := site.noting (a.complaint cause)

def connected (a : Agent) (c : Connection) (site : Site σ) : Stage Agent σ where
  self := { a with outage := false, lastKeepAlive := site.clock }
  site := site.noting (a.greeting c)

theorem connectFailed_unconnected (cause : Fault) (s : Stage Agent σ) :
    Task.Ends (connectFailed cause) s fun failure s' =>
      failure = .connecting s.self.profile.address cause ∧
        s' = s.self.unconnected cause s.site := by
  simp only [connectFailed, note, Task.ends_bind, Task.ends_self, unconnected,
    complaint]
  split
  · next houtage =>
      -- The flag is not written here, for it is set.
      have hsame : s.self = { s.self with outage := true } := by
        rw [← houtage]
      exact ⟨rfl, congrArg (Stage.mk · _) hsame⟩
  · exact ⟨rfl, rfl⟩

/-- The site when a topic has been joined anew, or has been passed over. -/
def rejoinedOn (t : Transport σ) (topic : String) (c : Connection)
    (site : Site σ) : Site σ :=
  match (t.join topic c site.net).value.1 with
  | .ok _ => site.serve (t.join topic c site.net)
  | .error cause =>
    (site.serve (t.join topic c site.net)).noting (.rejoinFailed topic cause)

@[simp]
theorem rejoinedOn_net (topic : String) (c : Connection) (site : Site σ) :
    (rejoinedOn t topic c site).net = (t.join topic c site.net).net := by
  unfold rejoinedOn
  split <;> rfl

@[simp]
theorem rejoinedOn_clock (topic : String) (c : Connection) (site : Site σ) :
    (rejoinedOn t topic c site).clock = site.clock := by
  unfold rejoinedOn
  split <;> rfl

/-- Topics are joined one after the other, each on the connection that the one
before has left. -/
inductive Rejoins (t : Transport σ) :
    List String → Connection → Site σ → Connection → Site σ → Prop
  | nil {c : Connection} {site : Site σ} : Rejoins t [] c site c site
  | cons {topic : String} {topics : List String} {c c' : Connection}
    {site site' : Site σ}
    (rest : Rejoins t topics (t.join topic c site.net).value.2
      (rejoinedOn t topic c site) c' site') :
    Rejoins t (topic :: topics) c site c' site'

theorem Rejoins.clock {topics : List String} {c c' : Connection}
    {site site' : Site σ} (h : Rejoins t topics c site c' site') :
    site'.clock = site.clock := by
  induction h with
  | nil => rfl
  | cons _ ih => rw [ih, rejoinedOn_clock]

theorem rejoin_rejoins (c : Connection) (topics : List String)
    (s : Stage Agent σ) :
    Task.Ends (rejoin t c topics) s fun c' s' =>
      s'.self = s.self ∧ Rejoins t topics c s.site c' s'.site := by
  induction topics generalizing c s with
  | nil => exact ⟨rfl, .nil⟩
  | cons topic rest ih =>
      simp only [rejoin, note, Task.ends_bind, Task.ends_serve]
      -- However the join went, the rest goes on from the site it has left.
      have hrest : Task.Ends (rejoin t (t.join topic c s.site.net).value.2 rest)
          { s with site := rejoinedOn t topic c s.site } fun c' s' =>
            s'.self = s.self ∧ Rejoins t (topic :: rest) c s.site c' s'.site :=
        (ih _ _).imp fun c' s' h => ⟨h.1, .cons h.2⟩
      rw [rejoinedOn] at hrest
      split at hrest
      all_goals
        next hjoined =>
          simp only [hjoined]
          exact hrest

/-- The call that is made to connect under the name of an attempt. -/
abbrev attemptOn (t : Transport σ) (a : Agent) (attempt : Nat)
    (site : Site σ) : Served σ (Except Fault Connection) :=
  t.connect a.profile.address (ClientName.candidate a.profile.client attempt)
    site.net

/-- Names are tried until one is accepted, or connecting fails. -/
inductive Searches (t : Transport σ) (a : Agent) : Nat → Nat → Site σ →
    Except Failure Connection → Stage Agent σ → Prop
  | exhausted {attempt : Nat} {site : Site σ} :
    Searches t a attempt 0 site
      (.error (.connecting a.profile.address (.nameTaken a.profile.client)))
      (a.unconnected (.nameTaken a.profile.client) site)
  | accepted {attempt remaining : Nat} {site site' : Site σ}
    {c c' : Connection} (connect : (attemptOn t a attempt site).value = .ok c)
    (rejoins : Rejoins t a.topics.toList c
      (site.serve (attemptOn t a attempt site)) c' site') :
    Searches t a attempt (remaining + 1) site (.ok c') (a.connected c' site')
  | taken {attempt remaining : Nat} {site : Site σ} {name : String}
    {r : Except Failure Connection} {s' : Stage Agent σ}
    (connect : (attemptOn t a attempt site).value = .error (.nameTaken name))
    (rest : Searches t a (attempt + 1) remaining
      ((site.serve (attemptOn t a attempt site)).noting (.nameTaken name)) r s') :
    Searches t a attempt (remaining + 1) site r s'
  | refused {attempt remaining : Nat} {site : Site σ} {cause : Fault}
    (connect : (attemptOn t a attempt site).value = .error cause)
    (other : ∀ name, cause ≠ .nameTaken name) :
    Searches t a attempt (remaining + 1) site
      (.error (.connecting a.profile.address cause))
      (a.unconnected cause (site.serve (attemptOn t a attempt site)))

theorem establish_rejoins (c : Connection) (s : Stage Agent σ) :
    Task.Ends (establish t c) s fun c' s' => ∃ site,
      Rejoins t s.self.topics.toList c s.site c' site ∧
        s' = s.self.connected c' site := by
  simp only [establish, note, Task.ends_bind, Task.ends_self]
  refine (rejoin_rejoins c _ s).imp fun c' s' h => ?_
  obtain ⟨hself, hrejoins⟩ := h
  split <;>
  · next houtage =>
      simp only [Task.ends_bind, Task.ends_note, Task.ends_now,
        Task.ends_change, Task.ends_pure]
      refine ⟨s'.site, hrejoins, ?_⟩
      simp only [connected, greeting, houtage, hself]
      rfl

theorem connectFrom_searches (attempt remaining : Nat) (s : Stage Agent σ) :
    Task.Ends (connectFrom t attempt remaining) s
      (Searches t s.self attempt remaining s.site) := by
  induction remaining generalizing attempt s with
  | zero =>
      simp only [connectFrom, Task.ends_bind, Task.ends_self, Task.ends_pure]
      refine (connectFailed_unconnected _ s).imp fun failure s' h => ?_
      obtain ⟨rfl, rfl⟩ := h
      exact .exhausted
  | succ remaining ih =>
      simp only [connectFrom, note, Task.ends_bind, Task.ends_self,
        Task.ends_serve]
      split
      · next c hc =>
          simp only [Task.ends_bind, Task.ends_pure]
          refine (establish_rejoins c _).imp fun c' s' h => ?_
          obtain ⟨site, hrejoins, rfl⟩ := h
          exact .accepted hc hrejoins
      · next name hname =>
          simp only [Task.ends_bind, Task.ends_note]
          exact (ih (attempt + 1) _).imp fun r s' h => .taken hname h
      · next cause hother hcause =>
          simp only [Task.ends_bind, Task.ends_pure]
          refine (connectFailed_unconnected cause _).imp fun failure s' h => ?_
          obtain ⟨rfl, rfl⟩ := h
          exact .refused hcause hother

/-- A search leaves the session to its caller. -/
theorem Searches.leaves {attempt remaining : Nat} {site : Site σ}
    {r : Except Failure Connection}
    (h : Searches t a attempt remaining site r s') :
    s'.site.clock = site.clock ∧
      s'.self = { a with
        outage := !r.isOk
        lastKeepAlive := if r.isOk then site.clock else a.lastKeepAlive } := by
  induction h with
  | exhausted => exact ⟨rfl, rfl⟩
  | @accepted attempt remaining site site' c c' hconnect hrejoins =>
      have hclock : site'.clock = site.clock := hrejoins.clock
      refine ⟨hclock, ?_⟩
      rw [← hclock]
      rfl
  | taken _ _ ih => exact ih
  | refused => exact ⟨rfl, rfl⟩

/-- There is a session, or one is sought. -/
inductive Connects (t : Transport σ) (s : Stage Agent σ) :
    Except Failure Connection → Stage Agent σ → Prop
  | held {c : Connection} (session : s.self.session = some c) :
    Connects t s (.ok c) s
  | opened {c : Connection} {s' : Stage Agent σ}
    (session : s.self.session = none)
    (search : Searches t s.self 0 maxAttempts s.site (.ok c) s') :
    Connects t s (.ok c) { s' with self := { s'.self with session := some c } }
  | failed {failure : Failure} {s' : Stage Agent σ}
    (session : s.self.session = none)
    (search : Searches t s.self 0 maxAttempts s.site (.error failure) s') :
    Connects t s (.error failure) s'

theorem connect_connects (s : Stage Agent σ) :
    Task.Ends (connect t) s (Connects t s) := by
  simp only [connect, Task.ends_bind, Task.ends_self]
  cases hsession : s.self.session with
  | some c => exact .held hsession
  | none =>
      simp only [Task.ends_bind]
      refine (connectFrom_searches 0 maxAttempts s).imp fun r s' h => ?_
      cases r with
      | ok c => exact .opened hsession h
      | error failure => exact .failed hsession h

theorem Connects.eq_of_session {r : Except Failure Connection} {c : Connection}
    (h : Connects t s r s') (hsession : s.self.session = some c) :
    r = .ok c ∧ s' = s := by
  cases h with
  | held hsession' =>
      rw [hsession] at hsession'
      cases hsession'
      exact ⟨rfl, rfl⟩
  | opened hnone | failed hnone =>
      rw [hsession] at hnone
      cases hnone

theorem Connects.self_of_none {r : Except Failure Connection}
    (h : Connects t s r s') (hnone : s.self.session = none) :
    s'.self = { s.self with
      session := r.toOption
      outage := !r.isOk
      lastKeepAlive :=
        if r.isOk then s.site.clock else s.self.lastKeepAlive } := by
  cases h with
  | held hsession => cases hnone.symm.trans hsession
  | opened _ hsearch =>
      rw [hsearch.leaves.2]
      rfl
  | failed _ hsearch =>
      rw [hsearch.leaves.2, hnone]
      rfl

theorem Connects.session {r : Except Failure Connection}
    (h : Connects t s r s') : s'.self.session = r.toOption := by
  cases hsession : s.self.session with
  | some c =>
      obtain ⟨rfl, rfl⟩ := h.eq_of_session hsession
      exact hsession
  | none => rw [h.self_of_none hsession]

theorem Connects.clock {r : Except Failure Connection}
    (h : Connects t s r s') : s'.site.clock = s.site.clock := by
  cases h with
  | held => rfl
  | opened _ hsearch | failed _ hsearch => exact hsearch.leaves.1

/-! ## Using a session and giving it up -/

/-- The stage after a call on a session, whatever has come of it. -/
def calledOn (c : Connection) (f : SessionCall σ α) (s : Stage Agent σ) :
    Stage Agent σ where
  self := { s.self with session := some (f c s.site.net).value.2 }
  site := s.site.serve (f c s.site.net)

theorem call_calledOn (c : Connection) (f : SessionCall σ α)
    (s : Stage Agent σ) :
    Task.Ends (call c f) s fun r s' =>
      r = (f c s.site.net).value.1 ∧ s' = calledOn c f s :=
  ⟨rfl, rfl⟩

inductive Disconnects (t : Transport σ) (s : Stage Agent σ) :
    Stage Agent σ → Prop
  | idle (session : s.self.session = none) : Disconnects t s s
  | ended {c : Connection} (session : s.self.session = some c) :
    Disconnects t s
      { self := { s.self with session := none }
        site := (s.site.noting (.disconnecting c.address)).serve
          (t.disconnect c s.site.net) }

theorem Disconnects.self_eq (h : Disconnects t s s') :
    s'.self = { s.self with session := none } := by
  cases h with
  | idle hnone => rw [← hnone]
  | ended => rfl

theorem Disconnects.clock (h : Disconnects t s s') :
    s'.site.clock = s.site.clock := by
  cases h <;> rfl

theorem disconnect_disconnects (s : Stage Agent σ) :
    Task.Ends (disconnect t) s fun _ s' => Disconnects t s s' := by
  simp only [disconnect, note, Task.ends_bind, Task.ends_self]
  cases hsession : s.self.session with
  | none => exact .idle hsession
  | some c => exact .ended hsession

/-- A fault makes the agent give its session up, or is no reason to. -/
inductive GivesUp (t : Transport σ) (cause : Fault) (s : Stage Agent σ) :
    Stage Agent σ → Prop
  | harmless (keeps : cause.endsSession = false) : GivesUp t cause s s
  | fatal {s' : Stage Agent σ} (ends : cause.endsSession = true)
    (disconnects : Disconnects t
      { s with site :=
          s.site.noting (.sessionLost s.self.profile.address cause) } s') :
    GivesUp t cause s { s' with self := { s'.self with outage := true } }

theorem giveUpAfter_givesUp (cause : Fault) (s : Stage Agent σ) :
    Task.Ends (giveUpAfter t cause) s fun _ s' => GivesUp t cause s s' := by
  simp only [giveUpAfter, note]
  split
  · next hends =>
      simp only [Task.ends_bind, Task.ends_self, Task.ends_note,
        Task.ends_change]
      exact (disconnect_disconnects _).imp fun _ s' h => .fatal hends h
  · next hkeeps => exact .harmless (Bool.eq_false_iff.mpr hkeeps)

section GivesUp

variable {cause : Fault}

theorem GivesUp.eq_of_harmless (h : GivesUp t cause s s')
    (hkeeps : cause.endsSession = false) : s' = s := by
  cases h with
  | harmless => rfl
  | fatal hends => cases hkeeps.symm.trans hends

theorem GivesUp.self_eq (h : GivesUp t cause s s') :
    s'.self = { s.self with
      session := if cause.endsSession then none else s.self.session
      outage := s.self.outage || cause.endsSession } := by
  cases h with
  | harmless hkeeps => simp [hkeeps]
  | fatal hends hdisconnects => simp [hends, hdisconnects.self_eq]

theorem GivesUp.clock (h : GivesUp t cause s s') :
    s'.site.clock = s.site.clock := by
  cases h with
  | harmless => rfl
  | fatal _ hdisconnects => exact hdisconnects.clock

theorem GivesUp.net_of_ends {c : Connection} (h : GivesUp t cause s s')
    (hends : cause.endsSession = true) (hsession : s.self.session = some c) :
    s'.site.net = (t.disconnect c s.site.net).net := by
  cases h with
  | harmless hkeeps => cases hkeeps.symm.trans hends
  | fatal _ hdisconnects =>
      cases hdisconnects with
      | idle hnone => cases hsession.symm.trans hnone
      | ended hheld =>
          cases hsession.symm.trans hheld
          rfl

end GivesUp

/-- A call is made on a session, if there is one or one could be opened. -/
inductive Requests (t : Transport σ) (f : SessionCall σ α)
    (failed : Fault → Failure) (s : Stage Agent σ) :
    Except Failure α → Stage Agent σ → Prop
  | unconnected {failure : Failure} {s' : Stage Agent σ}
    (connects : Connects t s (.error failure) s') :
    Requests t f failed s (.error failure) s'
  | answered {c : Connection} {s₁ : Stage Agent σ} {x : α}
    (connects : Connects t s (.ok c) s₁)
    (answer : (f c s₁.site.net).value.1 = .ok x) :
    Requests t f failed s (.ok x) (calledOn c f s₁)
  | refused {c : Connection} {s₁ s' : Stage Agent σ} {cause : Fault}
    (connects : Connects t s (.ok c) s₁)
    (fault : (f c s₁.site.net).value.1 = .error cause)
    (givesUp : GivesUp t cause (calledOn c f s₁) s') :
    Requests t f failed s (.error (failed cause)) s'

theorem request_requests (f : SessionCall σ α) (failed : Fault → Failure)
    (s : Stage Agent σ) :
    Task.Ends (request t f failed) s (Requests t f failed s) := by
  simp only [request, Task.ends_bind]
  refine (connect_connects s).imp fun r s₁ hconnects => ?_
  cases r with
  | error failure => exact .unconnected hconnects
  | ok c =>
      simp only [Task.ends_bind]
      refine (call_calledOn c f s₁).imp fun r s₂ h => ?_
      obtain ⟨hr, rfl⟩ := h
      cases r with
      | ok x => exact .answered hconnects hr.symm
      | error cause =>
          simp only [Task.ends_bind, Task.ends_pure]
          exact (giveUpAfter_givesUp cause _).imp fun _ s' h =>
            .refused hconnects hr.symm h

/-- Where there is a session, the call is all that counts. -/
theorem Requests.of_session {f : SessionCall σ α} {failed : Fault → Failure}
    {r : Except Failure α} {c : Connection} (h : Requests t f failed s r s')
    (hsession : s.self.session = some c) :
    (∃ x, (f c s.site.net).value.1 = .ok x ∧ r = .ok x ∧ s' = calledOn c f s) ∨
      ∃ cause, (f c s.site.net).value.1 = .error cause ∧
        r = .error (failed cause) ∧ GivesUp t cause (calledOn c f s) s' := by
  cases h with
  | unconnected hconnects => cases (hconnects.eq_of_session hsession).1
  | answered hconnects hanswer =>
      obtain ⟨hr, rfl⟩ := hconnects.eq_of_session hsession
      cases hr
      exact .inl ⟨_, hanswer, rfl, rfl⟩
  | refused hconnects hfault hgivesUp =>
      obtain ⟨hr, rfl⟩ := hconnects.eq_of_session hsession
      cases hr
      exact .inr ⟨_, hfault, rfl, hgivesUp⟩

/-! ## Keep-alives -/

abbrev keepAliveCall (t : Transport σ) : SessionCall σ Nat :=
  t.multicast keepAliveGroup .empty keepAlivePayload .fifo

/-- A keep-alive is tried if it is due. -/
inductive KeepsAlive (t : Transport σ) (s : Stage Agent σ) :
    Stage Agent σ → Prop
  | early (early : s.self.keepAliveDue s.site.clock = false) : KeepsAlive t s s
  | alone (session : s.self.session = none) : KeepsAlive t s s
  | sent {c : Connection} {n : Nat}
    (due : s.self.keepAliveDue s.site.clock = true)
    (session : s.self.session = some c)
    (sent : (keepAliveCall t c s.site.net).value.1 = .ok n) :
    KeepsAlive t s
      { calledOn c (keepAliveCall t) s with
        self := { (calledOn c (keepAliveCall t) s).self with
          lastKeepAlive := s.site.clock } }
  | failed {c : Connection} {cause : Fault} {s' : Stage Agent σ}
    (due : s.self.keepAliveDue s.site.clock = true)
    (session : s.self.session = some c)
    (fault : (keepAliveCall t c s.site.net).value.1 = .error cause)
    (givesUp : GivesUp t cause (calledOn c (keepAliveCall t) s) s') :
    KeepsAlive t s
      { s' with site := s'.site.noting (.keepAliveFailed cause) }

theorem keepAliveDue_of_none (h : a.profile.keepAlive = none) (now : Nat) :
    a.keepAliveDue now = false := by
  rw [keepAliveDue, h]

theorem KeepsAlive.eq_of_early (h : KeepsAlive t s s')
    (hearly : s.self.keepAliveDue s.site.clock = false) : s' = s := by
  cases h with
  | early | alone => rfl
  | sent hdue | failed hdue =>
      rw [hearly] at hdue
      cases hdue

theorem keepAlive_keepsAlive (s : Stage Agent σ) :
    Task.Ends (keepAlive t) s fun _ s' => KeepsAlive t s s' := by
  simp only [keepAlive, Task.ends_bind, Task.ends_self, Task.ends_now]
  split
  · next hdue =>
      cases hsession : s.self.session with
      | none => exact .alone hsession
      | some c =>
          simp only [Task.ends_bind]
          refine (call_calledOn c (keepAliveCall t) s).imp fun r s₁ h => ?_
          obtain ⟨hr, rfl⟩ := h
          cases r with
          | ok n => exact .sent hdue hsession hr.symm
          | error cause =>
              simp only [note, Task.ends_bind, Task.ends_note]
              exact (giveUpAfter_givesUp cause _).imp fun _ s' h =>
                .failed hdue hsession hr.symm h
  · next hearly => exact .early (Bool.eq_false_iff.mpr hearly)

end Agent

end Courier
