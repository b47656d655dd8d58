import Courier.Proofs.Agent.Course
import Courier.Proofs.Hub.Chronicle
import Courier.Proofs.Payload

/-!
# What an agent does on a hub

An agent whose session the hub has, or that has none yet, and that sends no
keep-alives, keeps its session in whatever it does but end it. A connect may
fail, which leaves the agent in an outage. If it does not, subscriptions move
nothing, a poll takes the oldest delivery out of the agent's own inbox, and
a message is passed on as a whole.
-/

namespace Courier

/-- A message as it is delivered. -/
def Message.sentFrom (m : Message) (sender : String) : Delivery :=
  { sender, group := m.topic, flags := .normal, payload := m.payload }

namespace Agent

variable {α : Type} {s s' : Stage Agent Chronicle}

/-- The hub has the agent's session, if there is one, and no keep-alives are
sent. -/
structure Settled (s : Stage Agent Chronicle) : Prop where
  has : ∀ c, s.self.session = some c → s.site.net.hub.Has c
  keepAlive : s.self.profile.keepAlive = none

/-! ## Connecting -/

theorem Rejoins.onHub {topics : List String} {c c' : Connection}
    {site site' : Site Chronicle}
    (h : Rejoins Chronicle.transport topics c site c' site')
    (hc : site.net.hub.Has c) : c' = c ∧ site.net.Kept site'.net := by
  induction h with
  | nil => exact ⟨rfl, .refl _⟩
  | @cons topic _ c _ site _ _ ih =>
      obtain ⟨hsame, hkept, -⟩ := Chronicle.join_harmless hc topic
      rw [hsame, rejoinedOn_net] at ih
      obtain ⟨rfl, hkept'⟩ := ih (hkept.has hc)
      exact ⟨rfl, hkept.trans hkept'⟩

/-- A search for a free name ends in an outage, or with the session of a client
that the hub did not have before. -/
theorem Searches.onHub {a : Agent} {attempt remaining : Nat}
    {site : Site Chronicle} {r : Except Failure Connection}
    (h : Searches Chronicle.transport a attempt remaining site r s') :
    ((∃ failure, r = .error failure) ∧ s'.self.outage = true) ∨
      ∃ c, r = .ok c ∧ c.address ∉ site.net.hub.clients ∧
        s'.self.profile = a.profile ∧ site.net.Kept s'.site.net ∧
        s'.site.net.hub.Has c := by
  induction h with
  | exhausted => exact .inl ⟨⟨_, rfl⟩, rfl⟩
  | refused => exact .inl ⟨⟨_, rfl⟩, rfl⟩
  | @accepted attempt _ site site' c c' hconnect hrejoins =>
      obtain ⟨fault, hvalue, -⟩ | ⟨c₁, hvalue, hnew, hkept, hhas⟩ :=
        Chronicle.connect_cases a.profile.address
          (ClientName.candidate a.profile.client attempt) site.net
      · rw [hvalue] at hconnect
        cases hconnect
      · rw [hvalue, Except.ok.injEq] at hconnect
        obtain rfl := hconnect
        obtain ⟨rfl, hkept'⟩ := hrejoins.onHub hhas
        exact .inr ⟨c', rfl, hnew, rfl, hkept.trans hkept', hkept'.has hhas⟩
  | @taken attempt _ site name _ _ hconnect _ ih =>
      obtain ⟨fault, -, hnet⟩ | ⟨c, hvalue, -⟩ :=
        Chronicle.connect_cases a.profile.address
          (ClientName.candidate a.profile.client attempt) site.net
      · rw [← hnet]
        exact ih
      · rw [hvalue] at hconnect
        cases hconnect

/-- The agent has the session of `c`, which it had before or which is that of
a new client. -/
structure Opened (s s' : Stage Agent Chronicle) (c : Connection) : Prop where
  profile : s'.self.profile = s.self.profile
  session : s'.self.session = some c
  before : s.self.session = some c ∨
    s.self.session = none ∧ c.address ∉ s.site.net.hub.clients
  has : s'.site.net.hub.Has c
  kept : s.site.net.Kept s'.site.net

theorem Connects.onHub {r : Except Failure Connection} (hs : Settled s)
    (h : Connects Chronicle.transport s r s') :
    ((∃ failure, r = .error failure) ∧ s'.self.outage = true) ∨
      ∃ c, r = .ok c ∧ Opened s s' c := by
  cases h with
  | @held c hsession =>
      exact .inr ⟨c, rfl, rfl, hsession, .inl hsession, hs.has c hsession,
        .refl _⟩
  | @opened c _ hnone hsearch =>
      obtain ⟨⟨_, hr⟩, -⟩ | ⟨c', hr, hnew, hprofile, hkept, hhas⟩ := hsearch.onHub
      · cases hr
      · cases hr
        exact .inr ⟨c, rfl, hprofile, rfl, .inr ⟨hnone, hnew⟩, hhas, hkept⟩
  | failed _ hsearch =>
      obtain houtage | ⟨c, hr, -⟩ := hsearch.onHub
      · exact .inl houtage
      · cases hr

/-! ## Calls on a session -/

/-- The private group of the agent's session. -/
def own (a : Agent) : String :=
  match a.session with
  | some c => c.address
  | none => ""

theorem own_eq {a : Agent} {c : Connection} (h : a.session = some c) :
    a.own = c.address := by
  rw [own, h]

/-- Between the stages the agent took deliveries out of its inbox and had
payloads passed on. A session that there was is still there. -/
structure OnHub (s s' : Stage Agent Chronicle) (taken : List Delivery)
    (passed : List Passage) : Prop where
  profile : s'.self.profile = s.self.profile
  kept : ∀ c, s.self.session = some c → s'.self.session = some c
  new : ∀ c, s.self.session = none → s'.self.session = some c →
    c.address ∉ s.site.net.hub.clients
  has : ∀ c, s'.self.session = some c → s'.site.net.hub.Has c
  idle : s'.self.session = none → taken = [] ∧ passed = []
  shift : s.site.net.Shift s'.site.net s'.self.own taken passed

theorem OnHub.refl (hs : Settled s) : OnHub s s [] [] where
  profile := rfl
  kept := fun _ => id
  new := fun c hnone hsome => by rw [hnone] at hsome; cases hsome
  has := hs.has
  idle := fun _ => ⟨rfl, rfl⟩
  shift := .of_kept (.refl _) _

theorem OnHub.of_opened {s₁ : Stage Agent Chronicle} {c : Connection}
    {taken : List Delivery} {passed : List Passage} (h : Opened s s₁ c)
    (hprofile : s'.self.profile = s₁.self.profile)
    (hsession : s'.self.session = some c)
    (hshift : s₁.site.net.Shift s'.site.net c.address taken passed) :
    OnHub s s' taken passed where
  profile := hprofile.trans h.profile
  kept := fun c' hc' => by
    obtain hbefore | ⟨hnone, -⟩ := h.before
    · rw [hsession, ← hbefore, hc']
    · rw [hnone] at hc'
      cases hc'
  new := fun c' hnone hc' => by
    obtain hbefore | ⟨-, hnew⟩ := h.before
    · rw [hnone] at hbefore
      cases hbefore
    · rw [hsession, Option.some.injEq] at hc'
      exact hc' ▸ hnew
  has := fun c' hc' => by
    rw [hsession, Option.some.injEq] at hc'
    exact hc' ▸ hshift.has h.has
  idle := fun hnone => by
    rw [hsession] at hnone
    cases hnone
  shift := by
    rw [own_eq hsession]
    exact .after_kept h.kept hshift

/-- What is asked of a call on a session that the hub has: it keeps the
session, and does so of which `P` holds. -/
def Keeps (f : SessionCall Chronicle α)
    (P : Connection → Except Fault α → Chronicle → Chronicle → Prop)
    (limit : Nat) : Prop :=
  ∀ c n, n.hub.Has c → n.hub.limit = limit → (f c n).value.2 = c ∧
    (∀ cause, (f c n).value.1 = .error cause → cause.endsSession = false) ∧
    P c (f c n).value.1 n (f c n).net

theorem request_onHub {f : SessionCall Chronicle α}
    {P : Connection → Except Fault α → Chronicle → Chronicle → Prop}
    (hs : Settled s) (hf : Keeps f P s.site.net.hub.limit)
    (failed : Fault → Failure) :
    Task.Ends (request Chronicle.transport f failed) s fun r s' =>
      ((∃ failure, r = .error failure) ∧ s'.self.outage = true) ∨
        ∃ c s₁ outcome, Opened s s₁ c ∧
          s'.self.profile = s₁.self.profile ∧ s'.self.session = some c ∧
          P c outcome s₁.site.net s'.site.net ∧
          r = outcome.mapError failed := by
  refine (request_requests f failed s).imp fun r s' h => ?_
  cases h with
  | unconnected hconnects =>
      obtain ⟨-, houtage⟩ | ⟨c, hr, -⟩ := hconnects.onHub hs
      · exact .inl ⟨⟨_, rfl⟩, houtage⟩
      · cases hr
  | @answered c s₁ x hconnects hanswer =>
      obtain ⟨⟨_, hr⟩, -⟩ | ⟨_, hr, hopened⟩ := hconnects.onHub hs
      · cases hr
      cases hr
      obtain ⟨hsame, -, hP⟩ := hf c s₁.site.net hopened.has hopened.kept.limit
      rw [hanswer] at hP
      exact .inr ⟨c, s₁, _, hopened, rfl, congrArg some hsame, hP, rfl⟩
  | @refused c s₁ _ cause hconnects hfault hgivesUp =>
      obtain ⟨⟨_, hr⟩, -⟩ | ⟨_, hr, hopened⟩ := hconnects.onHub hs
      · cases hr
      cases hr
      obtain ⟨hsame, hharmless, hP⟩ :=
        hf c s₁.site.net hopened.has hopened.kept.limit
      obtain rfl := hgivesUp.eq_of_harmless (hharmless cause hfault)
      rw [hfault] at hP
      exact .inr ⟨c, s₁, _, hopened, rfl, congrArg some hsame, hP, rfl⟩

/-! ## Subscriptions and polling -/

theorem request_harmless {f : SessionCall Chronicle α} (hs : Settled s)
    (hf : ∀ c (n : Chronicle), n.hub.Has c → n.Harmless c (f c n))
    (failed : Fault → Failure) :
    Task.Ends (request Chronicle.transport f failed) s fun _ s' =>
      s'.self.outage = true ∨ OnHub s s' [] [] := by
  have hkeeps : Keeps f (fun _ _ n n' => n.Kept n') s.site.net.hub.limit :=
    fun c n hc _ => ⟨(hf c n hc).1, (hf c n hc).2.2, (hf c n hc).2.1⟩
  refine (request_onHub hs hkeeps failed).imp fun r s' h => ?_
  obtain ⟨-, houtage⟩ | ⟨c, s₁, _, hopened, hprofile, hsession, hkept, -⟩ := h
  · exact .inl houtage
  · exact .inr (.of_opened hopened hprofile hsession (.of_kept hkept _))

/-- A change of what the agent remembers does not count. -/
theorem OnHub.of_self {s₁ : Stage Agent Chronicle} {taken : List Delivery}
    {passed : List Passage} (h : OnHub s₁ s' taken passed)
    (hprofile : s₁.self.profile = s.self.profile)
    (hsession : s₁.self.session = s.self.session)
    (hsite : s₁.site = s.site) : OnHub s s' taken passed := by
  obtain ⟨hprofile', hkept, hnew, hhas, hidle, hshift⟩ := h
  rw [hsession, hsite] at *
  exact ⟨hprofile'.trans hprofile, hkept, hnew, hhas, hidle, hshift⟩

theorem OnHub.of_end {s₁ : Stage Agent Chronicle} {taken : List Delivery}
    {passed : List Passage} (h : OnHub s s₁ taken passed)
    (hself : s'.self = s₁.self) (hnet : s'.site.net = s₁.site.net) :
    OnHub s s' taken passed := by
  obtain ⟨hprofile, hkept, hnew, hhas, hidle, hshift⟩ := h
  rw [← hself, ← hnet] at *
  exact ⟨hprofile, hkept, hnew, hhas, hidle, hshift⟩

theorem subscribe_onHub (hs : Settled s) (topic : String) :
    Task.Ends (subscribe Chronicle.transport topic) s fun _ s' =>
      s'.self.outage = true ∨ OnHub s s' [] [] := by
  simp only [subscribe, Task.ends_bind, Task.ends_change]
  refine (request_harmless ?_ (fun c n hc => ?_) _).imp fun _ s' h => ?_
  · exact ⟨hs.has, hs.keepAlive⟩
  · exact Chronicle.join_harmless hc topic
  · exact h.imp_right fun h => h.of_self rfl rfl rfl

theorem unsubscribe_onHub (hs : Settled s) (topic : String) :
    Task.Ends (unsubscribe Chronicle.transport topic) s fun _ s' =>
      s'.self.outage = true ∨ OnHub s s' [] [] := by
  simp only [unsubscribe, Task.ends_bind, Task.ends_change]
  refine (request_harmless ?_ (fun c n hc => ?_) _).imp fun _ s' h => ?_
  · exact ⟨hs.has, hs.keepAlive⟩
  · exact Chronicle.leave_harmless hc topic
  · exact h.imp_right fun h => h.of_self rfl rfl rfl

theorem address_onHub (hs : Settled s) :
    Task.Ends (address Chronicle.transport) s fun _ s' =>
      s'.self.outage = true ∨ OnHub s s' [] [] := by
  simp only [address, Task.ends_bind, Task.ends_pure]
  refine (connect_connects s).imp fun r s' h => ?_
  obtain ⟨-, houtage⟩ | ⟨c, -, hopened⟩ := h.onHub hs
  · exact .inl houtage
  · exact .inr (.of_opened hopened rfl hopened.session (.of_kept (.refl _) _))

theorem receiveIfReady_keeps (limit : Nat) :
    Keeps (receiveIfReady Chronicle.transport) (fun c outcome n n' =>
      ∃ d?, outcome = .ok d? ∧ n.Shift n' c.address d?.toList []) limit := by
  intro c n hc _
  simp only [receiveIfReady]
  rw [Chronicle.poll_has hc]
  cases hinbox : n.hub.inbox c.address with
  | nil =>
      refine ⟨rfl, ?_, none, rfl, .of_kept (.refl n) _⟩
      rintro _ ⟨⟩
  | cons d rest =>
      obtain ⟨hvalue, hshift⟩ := Chronicle.receive_has hc hinbox
      simp only [List.isEmpty_cons, Bool.not_false, hvalue]
      refine ⟨trivial, ?_, some d, rfl, hshift⟩
      rintro _ ⟨⟩

/-- A poll returns what it took out of the agent's inbox. -/
theorem poll_onHub (hs : Settled s) :
    Task.Ends (poll Chronicle.transport) s fun r s' =>
      s'.self.outage = true ∨ ∃ d?, r = .ok d? ∧ OnHub s s' d?.toList [] := by
  simp only [poll, Task.ends_bind]
  refine (request_onHub hs (receiveIfReady_keeps _) _).imp fun r s₁ h => ?_
  obtain ⟨⟨failure, rfl⟩, houtage⟩ |
    ⟨c, s₂, _, hopened, hprofile, hsession, ⟨d?, rfl, hshift⟩, rfl⟩ := h
  · exact .inl houtage
  · simp only [mapError_ok, Task.ends_bind, Task.ends_pure]
    have hnone : s₁.self.profile.keepAlive = none := by
      rw [hprofile, hopened.profile]
      exact hs.keepAlive
    refine (keepAlive_keepsAlive s₁).imp fun _ s' hkeeps => ?_
    obtain rfl := hkeeps.eq_of_early (keepAliveDue_of_none hnone _)
    exact .inr ⟨d?, rfl, .of_opened hopened hprofile hsession hshift⟩

/-! ## Sending -/

/-- What is wrong with the topic is found before what is wrong with the size. -/
theorem checkMessage_eq (m : Message) (limit : Nat) :
    m.check limit =
      match Message.checkTopic m.topic with
      | .error cause => .error (.badTopic cause)
      | .ok () =>
        if Transport.maxGroupSize < m.topic.utf8ByteSize then
          .error (.badTopic (.badTopic m.topic))
        else if limit < m.size then
          .error (.tooLarge m.size limit)
        else
          .ok () := by
  rw [Message.check]
  cases Message.checkTopic m.topic with
  | error cause => rfl
  | ok u =>
      simp only [bind, Except.bind, pure, Except.pure, throw, throwThe,
        MonadExceptOf.throw]

theorem check_eq_ok_iff {m : Message} {limit : Nat} :
    m.check limit = .ok () ↔
      Message.checkTopic m.topic = .ok () ∧
        m.topic.utf8ByteSize ≤ Transport.maxGroupSize ∧ m.size ≤ limit := by
  rw [checkMessage_eq, ← Nat.not_lt, ← Nat.not_lt]
  cases Message.checkTopic m.topic with
  | error cause => simp
  | ok u =>
      by_cases hgroup : Transport.maxGroupSize < m.topic.utf8ByteSize
      · simp [hgroup]
      · simp [hgroup]

theorem multicast_keeps {m : Message} {limit : Nat}
    (hcheck : m.check limit = .ok ()) {hubLimit : Nat}
    (hlimit : limit ≤ hubLimit) :
    Keeps (Chronicle.transport.multicast m.topic .normal m.payload .fifo)
      (fun c outcome n n' => outcome = .ok m.payload.length ∧
        n.Shift n' c.address [] [{
          delivery := m.sentFrom c.address
          members := n.hub.members m.topic }]) hubLimit := by
  intro c n hc hn
  obtain ⟨htopic, hgroup, hsize⟩ := check_eq_ok_iff.mp hcheck
  have hlegal : Hub.legalGroup m.topic = true := by
    rw [Hub.legalGroup, Bool.and_eq_true, decide_eq_true_eq, decide_eq_true_eq]
    exact ⟨(Message.checkTopic_eq_ok_iff.mp htopic).1, hgroup⟩
  have hfits : m.payload.length ≤ n.hub.limit := by
    rw [Message.length_payload, hn]
    omega
  obtain ⟨hvalue, hshift⟩ := Chronicle.multicast_has hc hlegal hfits
  rw [hvalue]
  refine ⟨rfl, ?_, rfl, hshift⟩
  rintro _ ⟨⟩

/-- A message that passes the check is passed on as a whole. -/
theorem send_onHub {m : Message} (hs : Settled s)
    (hcheck : s.self.check m = .ok ())
    (hlimit : s.self.profile.limit ≤ s.site.net.hub.limit) :
    Task.Ends (send Chronicle.transport m) s fun r s' =>
      s'.self.outage = true ∨ r = .ok () ∧ ∃ p : Passage,
        p.delivery = m.sentFrom s'.self.own ∧ OnHub s s' [] [p] := by
  simp only [send, Task.ends_bind, Task.ends_self, hcheck]
  refine (request_onHub hs (multicast_keeps hcheck hlimit) _).imp
    fun r s' h => ?_
  obtain ⟨⟨failure, rfl⟩, houtage⟩ |
    ⟨c, s₁, _, hopened, hprofile, hsession, ⟨rfl, hshift⟩, rfl⟩ := h
  · exact .inl houtage
  · simp only [mapError_ok, if_true]
    refine .inr ⟨rfl, _, ?_, .of_opened hopened hprofile hsession hshift⟩
    exact congrArg m.sentFrom (own_eq hsession).symm

end Agent

end Courier
