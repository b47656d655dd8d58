import Courier.Proofs.Agent.Sessions

/-!
# The outages of an agent

An agent notes in its journal when it cannot connect or loses its session, and
when it is connected again. It looks at one flag to tell an outage that begins
from one that goes on, and a connect that ends an outage from one that does
not. The flag is written where connecting fails, where a session is given up
and where one is opened.

What a turn tells, and where it leaves the flag, follows from the parts of its
visit and from the flag that it found: an opening is told once, however many
names were tried, and so is the loss of a session (`Visited.tidings_eq`). So
nothing that fails is passed over.

What keeps the flag right is that an agent in a session knows of no outage
(`Agent.AtPeace`). A session that is lost was held, so its loss begins an
outage; and an outage goes on for as long as there is no session, whoever may
tell the agent to disconnect meanwhile. So every tiding comes at its time
(`Leads`), which makes beginnings and ends of outages alternate
(`outages_announced_once`).
-/

namespace Courier

namespace AgentEvent

/-- What an event tells of outages: that one begins, or that one is over. -/
def outage? : AgentEvent → Option Bool
  | unreachable .. | sessionLost .. => some true
  | restored .. => some false
  | _ => none

def reached? : AgentEvent → Option String
  | connected address _ | restored address _ => some address
  | _ => none

/-- After these events there is an outage. -/
def OpenAfter (events : List AgentEvent) : Prop :=
  (events.filterMap outage?).getLast? = some true

end AgentEvent

namespace Tiding

def outage? : Tiding → Option Bool
  | unreachable _ | lost _ => some true
  | restored _ => some false
  | connected _ | stillUnreachable _ => none

def reached? : Tiding → Option String
  | connected address | restored address => some address
  | _ => none

/-- It can be told, if there is an outage or there is none. -/
def Fits (outage : Bool) : Tiding → Prop
  | unreachable _ | lost _ | connected _ => outage = false
  | restored _ | stillUnreachable _ => outage = true

/-- Each tiding comes at its time, from when there was an outage or none to
when there is one or none. -/
def Leads : Bool → List Tiding → Bool → Prop
  | outage, [], outage' => outage = outage'
  | outage, e :: rest, outage' =>
    e.Fits outage ∧ Leads (e.outage?.getD outage) rest outage'

theorem filterMap_outage? (events : List AgentEvent) :
    events.filterMap AgentEvent.outage? =
      (events.filterMap AgentEvent.tiding?).filterMap outage? := by
  rw [List.filterMap_filterMap]
  exact congrArg (events.filterMap ·) (funext fun e => by cases e <;> rfl)

theorem filterMap_reached? (events : List AgentEvent) :
    events.filterMap AgentEvent.reached? =
      (events.filterMap AgentEvent.tiding?).filterMap reached? := by
  rw [List.filterMap_filterMap]
  exact congrArg (events.filterMap ·) (funext fun e => by cases e <;> rfl)

section Leads

variable {tidings more : List Tiding} {outage outage' outage'' : Bool}

theorem Leads.append (h : Leads outage tidings outage')
    (h' : Leads outage' more outage'') :
    Leads outage (tidings ++ more) outage'' := by
  induction tidings generalizing outage with
  | nil =>
      obtain rfl : outage = outage' := h
      exact h'
  | cons e rest ih => exact ⟨h.1, ih h.2⟩

theorem Leads.split (h : Leads outage (tidings ++ more) outage'') :
    ∃ outage', Leads outage tidings outage' ∧ Leads outage' more outage'' := by
  induction tidings generalizing outage with
  | nil => exact ⟨outage, rfl, h⟩
  | cons e rest ih =>
      obtain ⟨hfits, hrest⟩ := h
      obtain ⟨outage', htidings, hmore⟩ := ih hrest
      exact ⟨outage', ⟨hfits, htidings⟩, hmore⟩

/-- The announcement that comes last tells whether there is an outage. -/
theorem Leads.eq_getLast? (h : Leads outage tidings outage') :
    outage' = (tidings.filterMap outage?).getLast?.getD outage := by
  induction tidings generalizing outage with
  | nil => exact h.symm
  | cons e rest ih =>
      rw [ih h.2]
      cases he : e.outage? with
      | none => simp [he]
      | some b => simp [he, List.getLast?_cons]

theorem Leads.openAfter_iff {events : List AgentEvent}
    (h : Leads false (events.filterMap AgentEvent.tiding?) outage') :
    AgentEvent.OpenAfter events ↔ outage' = true := by
  rw [h.eq_getLast?, AgentEvent.OpenAfter, filterMap_outage?]
  cases ((events.filterMap AgentEvent.tiding?).filterMap outage?).getLast? <;>
    simp

theorem outage_eq_not_of_fits {e : Tiding} {b : Bool} (h : e.Fits outage)
    (he : e.outage? = some b) : b = !outage := by
  cases e <;> simp_all [Fits, outage?]

/-- Announcements alternate. -/
theorem Leads.alternate (h : Leads outage tidings outage') (k : Nat)
    {b : Bool} (hb : (tidings.filterMap outage?)[k]? = some b) :
    b = ((k % 2 == 0) != outage) := by
  induction tidings generalizing outage k with
  | nil => simp at hb
  | cons e rest ih =>
      obtain ⟨hfits, hrest⟩ := h
      cases he : e.outage? with
      | none =>
          rw [he] at hrest
          rw [List.filterMap_cons_none he] at hb
          exact ih hrest k hb
      | some b' =>
          rw [he] at hrest
          rw [List.filterMap_cons_some he] at hb
          have hb' := outage_eq_not_of_fits hfits he
          cases k with
          | zero =>
              obtain rfl : b' = b := by simpa using hb
              simpa using hb'
          | succ k =>
              rw [List.getElem?_cons_succ] at hb
              rw [ih hrest k hb, Option.getD_some, hb']
              have hparity : ((k + 1) % 2 == 0) = !(k % 2 == 0) := by
                rcases Nat.mod_two_eq_zero_or_one k with hk | hk <;>
                  simp [hk, Nat.add_mod]
              rw [hparity]
              cases k % 2 == 0 <;> cases outage <;> rfl

theorem Leads.fits {before after : List AgentEvent} {e : AgentEvent}
    {told : Tiding}
    (h : Leads false ((before ++ e :: after).filterMap AgentEvent.tiding?)
      outage') (he : e.tiding? = some told) :
    ∃ outage, told.Fits outage ∧
      (AgentEvent.OpenAfter before ↔ outage = true) := by
  rw [List.filterMap_append, List.filterMap_cons_some he] at h
  obtain ⟨outage, hbefore, hfits, -⟩ := h.split
  exact ⟨outage, hfits, hbefore.openAfter_iff⟩

theorem leads_ofSearch (address : String) (outage found : Bool) :
    Leads outage [.ofSearch address outage found] !found := by
  cases outage <;> cases found <;> exact ⟨rfl, rfl⟩

end Leads

end Tiding

namespace Agent

open Contact Tiding

variable {σ : Type} {t : Transport σ}

/-! ## Visits -/

namespace Visit

variable {v : Visit} {outage : Bool}

theorem leads_opening (v : Visit) (address : String) (outage : Bool) :
    Leads outage (Visit.tidings { opening := v.opening } address outage)
      (Visit.outage { opening := v.opening } outage) := by
  cases hempty : v.opening.isEmpty with
  | true => simp [Visit.tidings, Visit.outage, Visit.isFatal, hempty, Leads]
  | false =>
      have hsearch := leads_ofSearch address outage (v.opening.any opens)
      simpa [Visit.tidings, Visit.outage, Visit.isFatal, hempty] using hsearch

/-- Where what the own calls met was no outage, the tidings of a visit come at
their time. -/
theorem leads (address : String) (hcalm : v.isFatal = true →
      Visit.outage { opening := v.opening } outage = false) :
    Leads outage (v.tidings address outage) (v.outage outage) := by
  have hopening := v.leads_opening address outage
  rw [v.tidings_eq, v.outage_eq]
  cases hfatal : v.isFatal with
  | false =>
      rw [if_neg Bool.false_ne_true, List.append_nil]
      exact hopening
  | true =>
      rw [hcalm hfatal] at hopening
      have hlost : Leads false [.lost address] true := ⟨rfl, rfl⟩
      exact hopening.append hlost

theorem own_ne_nil (v : Visit) (h : v.isFatal = true) : v.own ≠ [] := by
  intro hnone
  rw [Visit.isFatal, hnone] at h
  cases h

/-- A session that was opened is told once. -/
theorem filterMap_reached?_tidings (v : Visit) (address : String)
    (outage : Bool) :
    (v.tidings address outage).filterMap Tiding.reached? =
      if v.opening.any opens then [address] else [] := by
  have hlost : (if v.isFatal then [Tiding.lost address] else []).filterMap
      Tiding.reached? = [] := by
    cases v.isFatal <;> rfl
  rw [Visit.tidings, List.filterMap_append, hlost, List.append_nil]
  cases hopening : v.opening with
  | nil => rfl
  | cons e rest =>
      rw [List.isEmpty_cons, if_neg Bool.false_ne_true]
      cases (e :: rest).any opens <;> cases outage <;> rfl

theorem count_lost_tidings (v : Visit) (address : String) (outage : Bool) :
    (v.tidings address outage).count (.lost address) = v.isFatal.toNat := by
  have hopening : (if v.opening.isEmpty then []
      else [Tiding.ofSearch address outage (v.opening.any opens)]).count
        (.lost address) = 0 := by
    cases v.opening.isEmpty <;> cases v.opening.any opens <;>
      cases outage <;> simp [Tiding.ofSearch]
  rw [Visit.tidings, List.count_append, hopening]
  cases v.isFatal <;> simp

end Visit

/-- An agent in a session knows of no outage. -/
def AtPeace (a : Agent) : Prop :=
  a.isConnected = true → a.outage = false

section Visits

variable {told : Bool} {s s' : Stage Agent (Watched σ)} {v : Visit}

/-- Where there is a session after the opening, there is no outage. -/
theorem Visits.calm (h : Visits told s s' v) (hpeace : s.self.AtPeace)
    (hheld : (s.self.isConnected || v.opening.any opens) = true) :
    Visit.outage { opening := v.opening } s.self.outage = false := by
  cases hsession : s.self.isConnected with
  | true =>
      rw [h.opening_nil hsession]
      exact hpeace hsession
  | false =>
      rw [hsession, Bool.false_or] at hheld
      cases hopening : v.opening with
      | nil =>
          rw [hopening] at hheld
          cases hheld
      | cons e rest =>
          rw [hopening] at hheld
          simp [Visit.outage, Visit.isFatal, hheld]

theorem Visits.leads (h : Visits told s s' v) (hpeace : s.self.AtPeace)
    (address : String) :
    Leads s.self.outage (v.tidings address s.self.outage) s'.self.outage := by
  rw [h.outage]
  exact v.leads address fun hfatal =>
    h.calm hpeace (h.isConnected_of_own (v.own_ne_nil hfatal))

theorem Visits.atPeace (h : Visits told s s' v) (hpeace : s.self.AtPeace) :
    s'.self.AtPeace := by
  intro hsession
  have hheld := h.isConnected_eq (h.closing_nil hsession)
  rw [hsession] at hheld
  have hcalm := h.calm hpeace hheld.symm
  have hharmless : v.isFatal = false := by
    refine Bool.eq_false_iff.mpr fun hfatal => ?_
    rw [isConnected, h.ended hfatal] at hsession
    cases hsession
  rw [h.outage, Visit.outage, hharmless]
  exact hcalm

end Visits

/-! ## Turns -/

section Moment

variable {m : Moment (Stage Agent (Watched σ)) (Turn σ) Unit} {v : Visit}

/-- What an agent notes in a turn. -/
def notedAt (m : Moment (Stage Agent (Watched σ)) (Turn σ) Unit) :
    List AgentEvent :=
  m.after.site.journal.noted.drop m.before.site.journal.noted.length

def tidingsAt (m : Moment (Stage Agent (Watched σ)) (Turn σ) Unit) :
    List Tiding :=
  (notedAt m).filterMap AgentEvent.tiding?

/-- The contacts of the turn are those of the visit. -/
structure PartsOf (m : Moment (Stage Agent (Watched σ)) (Turn σ) Unit)
    (v : Visit) : Prop where
  contacts : contactsAt m = v.contacts
  sound : v.Sound m.after.self.topics.toList

theorem PartsOf.unique {v' : Visit} (h : PartsOf m v) (h' : PartsOf m v') :
    v = v' :=
  h.sound.unique h'.sound (h.contacts.symm.trans h'.contacts)

theorem Visited.partsOf (h : Visited m v) : PartsOf m v :=
  ⟨h.contacts, h.visits.sound⟩

theorem Visited.tidings_eq (h : Visited m v) :
    tidingsAt m =
      v.tidings m.before.self.profile.address m.before.self.outage := by
  obtain ⟨events, hnoted, htold⟩ := h.visits.tells
  rw [tidingsAt, notedAt, hnoted, List.drop_left]
  exact htold

theorem Visited.reached (h : Visited m v) :
    (notedAt m).filterMap AgentEvent.reached? =
      (contactsAt m).filterMap Contact.reached? := by
  have hsound := h.visits.sound
  have hown : v.own.filterMap Contact.reached? = [] := reached?_eq_nil
    fun e he => not_opens_of_isUse (hsound.own e he)
  have hclosing : v.closing.filterMap Contact.reached? = [] := reached?_eq_nil
    fun e he => not_opens_of_closes (hsound.closing e he)
  rw [filterMap_reached?, ← tidingsAt, h.tidings_eq,
    Visit.filterMap_reached?_tidings, ← h.visits.reached, h.contacts,
    Visit.contacts, List.filterMap_append, List.filterMap_append, hown,
    hclosing, List.append_nil, List.append_nil]

/-- A turn in which a session was sought in vain was no more than that. -/
theorem Visited.unreachable (h : Visited m v)
    (hrefused : ∃ e ∈ contactsAt m, e.isRefusal = true)
    (hclosed : ∀ e ∈ contactsAt m, e.opens = false) :
    v.opening ≠ [] ∧ v.opening.any opens = false ∧ v.isFatal = false := by
  have hsound := h.visits.sound
  rw [h.contacts] at hrefused hclosed
  obtain ⟨e, he, hrefusal⟩ := hrefused
  have hmem : e ∈ v.opening := by
    obtain he | he := List.mem_append.mp he
    · obtain he | he := List.mem_append.mp he
      · exact he
      · rw [not_isRefusal_of_isUse (hsound.own e he)] at hrefusal
        cases hrefusal
    · rw [not_isRefusal_of_closes (hsound.closing e he)] at hrefusal
      cases hrefusal
  have hne : v.opening ≠ [] := List.ne_nil_of_mem hmem
  have hopens : v.opening.any opens = false := by
    rw [List.any_eq_false]
    intro e he
    rw [hclosed e (List.mem_append_left _ (List.mem_append_left _ he))]
    exact Bool.false_ne_true
  refine ⟨hne, hopens, Bool.eq_false_iff.mpr fun hfatal => ?_⟩
  have hheld := h.visits.isConnected_of_own (v.own_ne_nil hfatal)
  rw [hopens, Bool.or_false] at hheld
  exact hne (h.visits.opening_nil hheld)

/-- What a turn tells, and where it leaves the flag. -/
structure Reported (m : Moment (Stage Agent (Watched σ)) (Turn σ) Unit) :
    Prop where
  parts : ∃ v, PartsOf m v
  /-- A search for a session is told once, whether it has found one or not, and
  so is the fault of an own call that ends a session. Nothing else is told. -/
  told : ∀ v, PartsOf m v →
    tidingsAt m =
        v.tidings m.before.self.profile.address m.before.self.outage ∧
      m.after.self.outage = v.outage m.before.self.outage
  /-- Where no session could be opened an outage begins or goes on, and it is
  told which. -/
  unreachable : (∃ e ∈ contactsAt m, e.isRefusal = true) →
    (∀ e ∈ contactsAt m, e.opens = false) →
      tidingsAt m =
          [if m.before.self.outage
            then .stillUnreachable m.before.self.profile.address
            else .unreachable m.before.self.profile.address] ∧
        m.after.self.outage = true
  /-- A session that an own call has shown to be over is lost, and an outage
  begins. -/
  lost : ∀ v, PartsOf m v → v.isFatal = true →
    (tidingsAt m).count (.lost m.before.self.profile.address) = 1 ∧
      m.after.self.outage = true

theorem Visited.reported (h : Visited m v) : Reported m := by
  refine ⟨⟨v, h.partsOf⟩, fun v' hparts => ?_, fun hrefused hclosed => ?_,
    fun v' hparts hfatal => ?_⟩
  · obtain rfl := hparts.unique h.partsOf
    exact ⟨h.tidings_eq, h.visits.outage⟩
  · obtain ⟨hne, hopens, hharmless⟩ := h.unreachable hrefused hclosed
    rw [h.tidings_eq, h.visits.outage, Visit.tidings, Visit.outage, hopens,
      hharmless, List.isEmpty_eq_false_iff.mpr hne]
    cases m.before.self.outage <;> exact ⟨rfl, rfl⟩
  · obtain rfl := hparts.unique h.partsOf
    rw [h.tidings_eq, v'.count_lost_tidings, h.visits.outage, Visit.outage,
      hfatal]
    exact ⟨rfl, rfl⟩

end Moment

/-! ## Runs -/

def Watch.noted (run : Watch σ) : List AgentEvent :=
  run.past.flatMap notedAt

theorem noted_take (run : Watch σ) (turn : Turn σ) :
    Watch.noted (run.take (Turn.take t) turn) =
      run.noted ++ notedAt (run.moment (Turn.take t) turn) := by
  rw [Watch.noted, Run.take, List.flatMap_append, List.flatMap_singleton]
  rfl

/-- What the turns of a run that began at `site` have told together. -/
structure Told (site : Site σ) (run : Watch σ) : Prop where
  whole : run.state.site.journal.noted = site.journal.noted ++ run.noted
  leads : Leads false (run.noted.filterMap AgentEvent.tiding?)
    run.state.self.outage
  peace : run.state.self.AtPeace

theorem Told.begin (profile : Profile) (site : Site σ) :
    Told site { state := Agent.begin profile site } where
  whole := (List.append_nil _).symm
  leads := rfl
  peace := fun hsome => Bool.noConfusion hsome

theorem Told.take {site : Site σ} {run : Watch σ} (h : Told site run)
    (turn : Turn σ) : Told site (run.take (Turn.take t) turn) := by
  obtain ⟨-, -, v, hvisits⟩ := Turn.take_visits (t := t) turn run.state
  obtain ⟨events, hnoted, htold⟩ := hvisits.tells
  have hevents : notedAt (run.moment (Turn.take t) turn) = events :=
    (congrArg _ hnoted).trans List.drop_left
  refine ⟨?_, ?_, hvisits.atPeace h.peace⟩
  · rw [noted_take, hevents, ← List.append_assoc, ← h.whole]
    exact hnoted
  · rw [noted_take, hevents, List.filterMap_append, htold]
    exact h.leads.append (hvisits.leads h.peace _)

theorem watch_told (t : Transport σ) (profile : Profile) (site : Site σ)
    (turns : List (Turn σ)) : Told site (watch t profile site turns) :=
  Run.invariant (.begin profile site) fun _ turn _ hrun => hrun.take turn

/-- The flag of an agent is what its journal says, before the turn and after
it, if these events were noted before. -/
structure Flagged (earlier : List AgentEvent)
    (m : Moment (Stage Agent (Watched σ)) (Turn σ) Unit) : Prop where
  before : m.before.self.outage = true ↔ AgentEvent.OpenAfter earlier
  after : m.after.self.outage = true ↔
    AgentEvent.OpenAfter (earlier ++ notedAt m)

theorem watch_flagged (t : Transport σ) (profile : Profile) (site : Site σ)
    (turns : List (Turn σ)) :
    ∀ before m after, (watch t profile site turns).past = before ++ m :: after →
      Flagged (before.flatMap notedAt) m := by
  refine Run.forall_split (P := Told site) (.begin profile site)
    (Q := fun before => Flagged (before.flatMap notedAt))
    fun run turn hrun => ?_
  have hnext := hrun.take (t := t) turn
  refine ⟨hnext, hrun.leads.openAfter_iff.symm, ?_⟩
  have hleads := hnext.leads
  rw [noted_take] at hleads
  exact hleads.openAfter_iff.symm

/-- What can be said of the outages of a run that began at `site`. -/
structure Announced (site : Site σ) (run : Watch σ) : Prop where
  whole : run.state.site.journal.noted = site.journal.noted ++ run.noted
  /-- An outage that begins is announced first, and from there on ends and
  beginnings alternate. -/
  alternate : ∀ k b, (run.noted.filterMap AgentEvent.outage?)[k]? = some b →
    b = (k % 2 == 0)
  /-- A connect is no more than that only if no outage is over by it. -/
  connected : ∀ before address session after,
    run.noted = before ++ .connected address session :: after →
      ¬ AgentEvent.OpenAfter before
  /-- Connecting fails still only if it has failed, or a session was lost. -/
  stillUnreachable : ∀ before address cause after,
    run.noted = before ++ .stillUnreachable address cause :: after →
      AgentEvent.OpenAfter before
  /-- For each connect that succeeds one event is noted in the same turn, that
  the agent is connected or that it is connected again. -/
  reached : ∀ m ∈ run.past, (notedAt m).filterMap AgentEvent.reached? =
    (contactsAt m).filterMap Contact.reached?
  reported : ∀ m ∈ run.past, Reported m
  flagged : ∀ before m after, run.past = before ++ m :: after →
    Flagged (before.flatMap notedAt) m
  /-- Beginnings are warnings, sessions that were opened are for information,
  and that an outage goes on is for debugging. -/
  levels : ∀ e : AgentEvent, (e.outage? = some true → e.level = .warn) ∧
    (e.reached?.isSome = true → e.level = .info) ∧
    ∀ address, e.tiding? = some (.stillUnreachable address) → e.level = .debug
  outage : run.state.self.outage = true ↔ AgentEvent.OpenAfter run.noted
  atPeace : run.state.self.isConnected = true →
    ¬ AgentEvent.OpenAfter run.noted

/-- Whatever a transport does, an outage is announced when it begins and when
it is over, and at no other time. -/
theorem outages_announced_once (t : Transport σ) (profile : Profile)
    (site : Site σ) (turns : List (Turn σ)) :
    Announced site (watch t profile site turns) := by
  obtain ⟨hwhole, hleads, hpeace⟩ := watch_told t profile site turns
  have hvisited := watch_visited t profile site turns
  have hopen := hleads.openAfter_iff
  refine ⟨hwhole, fun k b hb => ?_, ?_, ?_, ?_, ?_,
    watch_flagged t profile site turns, fun e => ?_, hopen.symm, ?_⟩
  · rw [filterMap_outage?] at hb
    simpa using hleads.alternate k hb
  · intro before address session after hsplit
    rw [hsplit] at hleads
    obtain ⟨outage, hfits, hbefore⟩ := hleads.fits rfl
    rw [hbefore, show outage = false from hfits]
    exact Bool.false_ne_true
  · intro before address cause after hsplit
    rw [hsplit] at hleads
    obtain ⟨outage, hfits, hbefore⟩ := hleads.fits rfl
    exact hbefore.mpr hfits
  · intro m hm
    obtain ⟨v, hv⟩ := hvisited m hm
    exact hv.reached
  · intro m hm
    obtain ⟨v, hv⟩ := hvisited m hm
    exact hv.reported
  · cases e <;> simp [AgentEvent.outage?, AgentEvent.reached?,
      AgentEvent.tiding?, AgentEvent.level]
  · intro hsome
    rw [hopen, hpeace hsome]
    exact Bool.false_ne_true

/-- A daemon that cannot be reached at first, and a session that breaks when it
is polled. -/
example :
    let script : Script :=
      { connects := [{ outcome := .error .closed }]
        polls := [{ outcome := .error .closed }] }
    let run := watch Script.transport {} { net := script }
      [.errand .poll, .errand .poll]
    run.noted =
      [.unreachable "4803@localhost" .closed,
        .restored "4803@localhost" "#unknown#script",
        .sessionLost "4803@localhost" .closed,
        .disconnecting "#unknown#script"] := by
  rfl

end Agent

end Courier
