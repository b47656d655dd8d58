import Courier.Proofs.Relay.OnHub

/-!
# What a relay has sent and received

A relay's ledger sets the messages that were accepted from its callers, and
those that its callers have received, against what the hub has passed on for
its session and to it. The turns of the relay keep its ledger
(`Ledger.moved`), and so do the turns of others (`Ledger.of_other`).
-/

namespace Courier

/-- The message that a delivery brings. -/
def Delivery.message (d : Delivery) : Except FormatError Message :=
  Message.ofPayload d.payload

/-- The delivery brings a whole message to the group of its topic. -/
def Delivery.IsWhole (d : Delivery) : Prop :=
  d.flags = .normal ∧ ∃ m, d.message = .ok m ∧ m.topic = d.group

theorem Message.message_sentFrom {m : Message}
    (htopic : Message.checkTopic m.topic = .ok ()) (sender : String) :
    (m.sentFrom sender).message = .ok m :=
  Message.ofPayload_payload htopic

theorem Message.isWhole_sentFrom {m : Message}
    (htopic : Message.checkTopic m.topic = .ok ()) (sender : String) :
    (m.sentFrom sender).IsWhole :=
  ⟨rfl, m, m.message_sentFrom htopic sender, rfl⟩

namespace Reading

theorem take_of_isWhole (r : Reading) {d : Delivery} (hd : d.IsWhole) :
    (r.take d).messages.map .ok = r.messages.map .ok ++ [d.message] := by
  obtain ⟨hflags, m, hm, -⟩ := hd
  have hresult : (r.assemblies.push ⟨d.sender, .single, d.payload⟩).result =
      .ok (some m) := by
    rw [Delivery.message] at hm
    simp only [Assemblies.push, hm]
  have hpiece : Piece.ofFlags? d.flags = some .single := by
    rw [hflags]
    rfl
  rw [take, hpiece]
  simp only [hresult]
  rw [List.map_append, hm]
  rfl

theorem foldl_take_of_isWhole (r : Reading) {deliveries : List Delivery}
    (h : ∀ d ∈ deliveries, d.IsWhole) :
    (deliveries.foldl take r).messages.map .ok =
      r.messages.map .ok ++ deliveries.map Delivery.message := by
  induction deliveries generalizing r with
  | nil => exact (List.append_nil _).symm
  | cons d rest ih =>
      have hrest := fun d' hd' => h d' (List.mem_cons_of_mem d hd')
      rw [List.foldl_cons, ih (r.take d) hrest,
        take_of_isWhole r (h d List.mem_cons_self), List.append_assoc]
      rfl

end Reading

namespace Chronicle

/-- What was passed on for a session. -/
def sentBy (n : Chronicle) : Option Connection → List Passage
  | some c => n.passages.filter fun p => p.delivery.sender = c.address
  | none => []

/-- What was passed on to a session. -/
def sentTo (n : Chronicle) : Option Connection → List Passage
  | some c => n.passages.filter fun p => c.address ∈ p.members
  | none => []

/-- What waits for a session. -/
def waiting (n : Chronicle) : Option Connection → List Delivery
  | some c => n.hub.inbox c.address
  | none => []

/-- Only clients of the hub have had payloads passed on, and to clients. -/
def Known (n : Chronicle) : Prop :=
  ∀ p ∈ n.passages, p.delivery.sender ∈ n.hub.clients ∧
    ∀ x ∈ p.members, x ∈ n.hub.clients

/-- Only whole messages have been passed on. -/
def Whole (n : Chronicle) : Prop :=
  ∀ p ∈ n.passages, p.delivery.IsWhole

variable {n n' : Chronicle} {own : String} {taken : List Delivery}
  {passed : List Passage} {c : Connection}

/-- Nothing has been passed on for a client that the hub does not have, or to
it. -/
theorem Known.of_fresh (h : n.Known) (hfresh : c.address ∉ n.hub.clients) :
    n.sentBy (some c) = [] ∧ n.sentTo (some c) = [] ∧
      n.waiting (some c) = [] := by
  refine ⟨?_, ?_, ?_⟩
  · rw [sentBy, List.filter_eq_nil_iff]
    intro p hp hsender
    rw [decide_eq_true_eq] at hsender
    exact hfresh (hsender ▸ (h p hp).1)
  · rw [sentTo, List.filter_eq_nil_iff]
    intro p hp hmember
    rw [decide_eq_true_eq] at hmember
    exact hfresh ((h p hp).2 _ hmember)
  · rw [Std.ExtTreeMap.mem_iff_isSome_getElem?,
      Option.not_isSome_iff_eq_none] at hfresh
    rw [waiting, Hub.inbox, hfresh]

theorem Shift.sentTo_eq (h : Shift n n' own taken passed) (c : Connection) :
    n'.sentTo (some c) =
      n.sentTo (some c) ++ passed.filter fun p => c.address ∈ p.members := by
  rw [sentTo, h.passages, List.filter_append]
  rfl

theorem Shift.sentBy_own (h : Shift n n' c.address taken passed) :
    n'.sentBy (some c) = n.sentBy (some c) ++ passed := by
  have hall : (passed.filter fun p => p.delivery.sender = c.address) =
      passed := by
    rw [List.filter_eq_self]
    intro p hp
    rw [decide_eq_true_eq]
    exact h.senders p hp
  rw [sentBy, h.passages, List.filter_append, hall]
  rfl

theorem Shift.sentBy_other (h : Shift n n' own taken passed)
    (hother : c.address = own → passed = []) :
    n'.sentBy (some c) = n.sentBy (some c) := by
  have hnone : (passed.filter fun p => p.delivery.sender = c.address) = [] := by
    rw [List.filter_eq_nil_iff]
    intro p hp hsender
    rw [decide_eq_true_eq, h.senders p hp] at hsender
    rw [hother hsender.symm] at hp
    cases hp
  rw [sentBy, h.passages, List.filter_append, hnone, List.append_nil]
  rfl

theorem Shift.waiting_other (h : Shift n n' own taken passed)
    (hother : c.address = own → taken = []) :
    n'.waiting (some c) = n.waiting (some c) ++
      (passed.filter fun p => c.address ∈ p.members).map Passage.delivery := by
  have hnone : (if own = c.address then taken else []) = [] := by
    split
    · next hown => exact hother hown.symm
    · rfl
  have hinbox := h.inbox c.address
  rw [hnone] at hinbox
  exact hinbox

theorem mem_passages_of_sentTo {session : Option Connection} {p : Passage}
    (hp : p ∈ n.sentTo session) : p ∈ n.passages := by
  cases session with
  | none => cases hp
  | some c => exact (List.mem_filter.mp hp).1

theorem Shift.known (h : Shift n n' own taken passed)
    (hown : passed ≠ [] → own ∈ n'.hub.clients) (hknown : n.Known) :
    n'.Known := by
  intro p hp
  rw [h.passages] at hp
  rcases List.mem_append.mp hp with hp | hp
  · obtain ⟨hsender, hmembers⟩ := hknown p hp
    exact ⟨h.clients _ hsender, fun x hx => h.clients x (hmembers x hx)⟩
  · refine ⟨?_, h.members p hp⟩
    rw [h.senders p hp]
    exact hown (List.ne_nil_of_mem hp)

end Chronicle

namespace Relay

variable {n n' : Chronicle} {r : Relay} {accepted received : List Message}

/-- What holds of the messages that went through a relay, set against what
the hub has passed on. -/
structure Ledger (n : Chronicle) (r : Relay)
    (accepted received : List Message) : Prop where
  sent : (n.sentBy r.agent.session).map (·.delivery.message) ++
    r.outbound.items.map .ok = accepted.map .ok
  taken : ∃ taken,
    (n.sentTo r.agent.session).map Passage.delivery =
        taken ++ n.waiting r.agent.session ∧
      taken.map Delivery.message =
        (received ++ r.inbound.items ++ r.phase.inHand).map .ok
  failures : r.counters.sendFailures = 0

/-- What others take and have passed on does not count in a ledger, but for
what is passed on to the relay. -/
theorem Ledger.of_other {own : String} {taken : List Delivery}
    {passed : List Passage} (h : Ledger n r accepted received)
    (hshift : n.Shift n' own taken passed)
    (hother : ∀ c, r.agent.session = some c → c.address = own →
      taken = [] ∧ passed = []) : Ledger n' r accepted received := by
  obtain ⟨hsent, ⟨was, hsentTo, hwas⟩, hfailures⟩ := h
  cases hsession : r.agent.session with
  | none =>
      rw [hsession] at hsent hsentTo
      exact ⟨hsession ▸ hsent, ⟨was, hsession ▸ hsentTo, hwas⟩, hfailures⟩
  | some c =>
      have hother := hother c hsession
      rw [hsession] at hsent hsentTo
      refine ⟨?_, ⟨was, ?_, hwas⟩, hfailures⟩
      · rw [hsession, hshift.sentBy_other fun h => (hother h).2]
        exact hsent
      · rw [hsession, hshift.sentTo_eq, List.map_append, hsentTo,
          hshift.waiting_other fun h => (hother h).1, List.append_assoc]

/-! ## The turns of the relay -/

/-- The lists of a session grow by what was passed on for it and to it. -/
theorem onHub_grows {s s' : Stage Agent Chronicle} {taken : List Delivery}
    {passed : List Passage} (h : Agent.OnHub s s' taken passed)
    (hknown : s.site.net.Known) :
    ∃ mine, s'.site.net.sentBy s'.self.session =
        s.site.net.sentBy s.self.session ++ passed ∧
      s'.site.net.sentTo s'.self.session =
        s.site.net.sentTo s.self.session ++ mine ∧
      taken ++ s'.site.net.waiting s'.self.session =
        s.site.net.waiting s.self.session ++ mine.map Passage.delivery := by
  cases hsession' : s'.self.session with
  | none =>
      obtain ⟨rfl, rfl⟩ := h.idle hsession'
      cases hsession : s.self.session with
      | none => exact ⟨[], rfl, rfl, rfl⟩
      | some c =>
          rw [h.kept c hsession] at hsession'
          cases hsession'
  | some c =>
      have hshift := h.shift
      rw [Agent.own_eq hsession'] at hshift
      -- A session that there was is still there, and a new one has had nothing.
      have hsame : s.site.net.sentBy s.self.session =
            s.site.net.sentBy (some c) ∧
          s.site.net.sentTo s.self.session = s.site.net.sentTo (some c) ∧
          s.site.net.waiting s.self.session = s.site.net.waiting (some c) := by
        cases hsession : s.self.session with
        | none =>
            have hfresh := h.new c hsession hsession'
            obtain ⟨hby, hto, hwaiting⟩ := hknown.of_fresh hfresh
            exact ⟨hby.symm, hto.symm, hwaiting.symm⟩
        | some c' =>
            have hkept := h.kept c' hsession
            rw [hsession', Option.some.injEq] at hkept
            rw [hkept]
            exact ⟨rfl, rfl, rfl⟩
      rw [hsame.1, hsame.2.1, hsame.2.2]
      refine ⟨_, hshift.sentBy_own, hshift.sentTo_eq c, ?_⟩
      have hinbox := hshift.inbox c.address
      rw [if_pos rfl] at hinbox
      exact hinbox

variable {s s' : Stage Relay Chronicle} {result : Errand.Result}
  {passed : List Passage}

namespace Moved

variable {accepted' received' : List Message}
  (h : Moved s s' accepted' received' result passed)

include h

theorem checked (hfit : Fit s.site.net s.self) :
    ∀ m ∈ result.tried ++ s'.self.outbound.items,
      m.check s.self.limit = .ok () := by
  intro m hm
  rw [← h.outgoing.queue] at hm
  rcases List.mem_append.mp hm with hm | hm
  · exact hfit.checked m hm
  · exact h.outgoing.checked m hm

theorem topic (hfit : Fit s.site.net s.self) {m : Message}
    (hm : m ∈ result.tried) : Message.checkTopic m.topic = .ok () := by
  have hchecked := h.checked hfit m (List.mem_append_left _ hm)
  exact (Agent.check_eq_ok_iff.mp hchecked).1

theorem fit (hfit : Fit s.site.net s.self) : Fit s'.site.net s'.self where
  calm := h.incoming.calm
  keepAlive := by
    have hprofile : s'.self.agent.profile = s.self.agent.profile :=
      h.onHub.profile
    rw [hprofile]
    exact hfit.keepAlive
  limit := by
    have hprofile : s'.self.agent.profile = s.self.agent.profile :=
      h.onHub.profile
    rw [h.outgoing.limit, hprofile]
    exact hfit.limit
  room := by
    have hlimit : s'.site.net.hub.limit = s.site.net.hub.limit :=
      h.onHub.shift.limit
    rw [h.outgoing.limit, hlimit]
    exact hfit.room
  checked := fun m hm => by
    rw [h.outgoing.limit]
    exact h.checked hfit m (List.mem_append_right _ hm)
  has := h.onHub.has

theorem messages (hfit : Fit s.site.net s.self) :
    passed.map (·.delivery.message) = result.tried.map .ok := by
  rw [← Function.comp_def Delivery.message, ← List.map_map, h.sent,
    List.map_map]
  refine List.map_congr_left fun m hm => ?_
  exact Message.message_sentFrom (h.topic hfit hm) _

theorem whole (hfit : Fit s.site.net s.self) (hwhole : s.site.net.Whole) :
    s'.site.net.Whole := by
  intro p hp
  have hpassages : s'.site.net.passages = s.site.net.passages ++ passed :=
    h.onHub.shift.passages
  rw [hpassages] at hp
  rcases List.mem_append.mp hp with hp | hp
  · exact hwhole p hp
  · have hd := List.mem_map_of_mem (f := Passage.delivery) hp
    rw [h.sent] at hd
    obtain ⟨m, hm, hd⟩ := List.mem_map.mp hd
    rw [← hd]
    exact Message.isWhole_sentFrom (h.topic hfit hm) _

end Moved

theorem Ledger.moved {accepted' received' : List Message}
    (h : Ledger s.site.net s.self accepted received)
    (hmoved : Moved s s' accepted' received' result passed)
    (hfit : Fit s.site.net s.self) (hknown : s.site.net.Known)
    (hwhole : s.site.net.Whole) :
    Ledger s'.site.net s'.self (accepted ++ accepted')
      (received ++ received') := by
  obtain ⟨hsent, ⟨was, hsentTo, hwas⟩, hfailures⟩ := h
  obtain ⟨mine, hby, hto, hwaiting⟩ := onHub_grows hmoved.onHub hknown
  simp only [atAgent] at hby hto hwaiting
  have hgrown : (s'.site.net.sentTo s'.self.agent.session).map
        Passage.delivery =
      was ++ result.deliveries ++ s'.site.net.waiting s'.self.agent.session := by
    rw [hto, List.map_append, hsentTo, List.append_assoc, ← hwaiting,
      List.append_assoc]
  have hread : ∀ d ∈ result.deliveries, d.IsWhole := by
    intro d hd
    have hmem : d ∈ (s'.site.net.sentTo s'.self.agent.session).map
        Passage.delivery := by
      rw [hgrown]
      exact List.mem_append_left _ (List.mem_append_right _ hd)
    obtain ⟨p, hp, rfl⟩ := List.mem_map.mp hmem
    exact hmoved.whole hfit hwhole p (Chronicle.mem_passages_of_sentTo hp)
  refine ⟨?_, ⟨was ++ result.deliveries, hgrown, ?_⟩, ?_⟩
  · rw [hby, List.map_append, hmoved.messages hfit, List.append_assoc,
      ← List.map_append, ← hmoved.outgoing.queue, List.map_append,
      ← List.append_assoc, hsent, List.map_append]
  · have hreads : (s.self.readingAfter result).messages.map .ok =
        result.deliveries.map Delivery.message :=
      Reading.foldl_take_of_isWhole s.self.reading hread
    have hall : received ++ received' ++ s'.self.inbound.items ++
          s'.self.phase.inHand =
        received ++ s.self.inbound.items ++ s.self.phase.inHand ++
          (s.self.readingAfter result).messages := by
      rw [List.append_assoc received, List.append_assoc received,
        hmoved.incoming.messages]
      simp only [List.append_assoc]
    rw [List.map_append, hwas, ← hreads, ← List.map_append, hall]
  · rw [hmoved.outgoing.failures, hfailures, hmoved.lost]

end Relay

end Courier
