import Mathlib.Data.List.Basic
import Courier.Proofs.Agent.Contacts
import Courier.Proofs.Agent.Tidings
import Courier.Proofs.Network.Topics

/-!
# The visits of an agent

Whatever a transport does, an operation of an agent is a visit in three parts.
In the opening a session is sought, if there is none: connects are tried, and
after the first that succeeds all topics are joined anew, one after the other,
however the joins fare. Then the operation makes its own calls. In the end the
session may be given up by a disconnect.

The parts follow on one another, each on the connection that the one before
has left. If an own call ends in a fault that ends the session, the end is
there; else there is none, unless the agent has been told to give its session
up. The joins of an opening are no own calls, and nothing is said of their
faults.

What the agent tells of a visit follows from its parts too: one tiding of the
opening, if there is one, and one of the own call that has shown the session to
be over, if there is one (`Visit.tidings`).
-/

namespace Courier

/-- Does the errand tell the agent to give its session up? -/
def Relay.Errand.endsSession : Relay.Errand → Bool
  | .setAddress _ | .setClient _ | .disconnect => true
  | _ => false

namespace Agent

open Contact

variable {σ α : Type} {t : Transport σ}

/-! ## Visits -/

/-- Connects that are refused, and maybe one that succeeds and a join for each
of the topics. -/
inductive Opening (topics : List String) : List Contact → Prop
  | refused {refusals : List Contact}
    (refused : ∀ e ∈ refusals, e.isRefusal = true) : Opening topics refusals
  | opened {refusals joins : List Contact} {address client : String}
    {c : Connection} (refused : ∀ e ∈ refusals, e.isRefusal = true)
    (joined : joins.map joined? = topics.map some) :
    Opening topics (refusals ++ .connect address client (.ok c) :: joins)

theorem Opening.cons {topics : List String} {e : Contact}
    {contacts : List Contact} (he : e.isRefusal = true)
    (h : Opening topics contacts) : Opening topics (e :: contacts) := by
  cases h with
  | refused hrefused =>
      exact .refused (List.forall_mem_cons.mpr ⟨he, hrefused⟩)
  | opened hrefused hjoined =>
      rw [← List.cons_append]
      exact .opened (List.forall_mem_cons.mpr ⟨he, hrefused⟩) hjoined

theorem isUse_of_joins {topics : List String} {joins : List Contact}
    (h : joins.map joined? = topics.map some) :
    ∀ e ∈ joins, e.isUse = true := by
  intro e he
  have hjoined : e.joined? ∈ topics.map some := h ▸ List.mem_map_of_mem he
  obtain ⟨topic, -, htopic⟩ := List.mem_map.mp hjoined
  exact isUse_of_joined htopic.symm

theorem Opening.not_closes {topics : List String} {contacts : List Contact}
    (h : Opening topics contacts) : ∀ e ∈ contacts, e.closes = false := by
  cases h with
  | refused hrefused =>
      exact fun e he => not_closes_of_isRefusal (hrefused e he)
  | opened hrefused hjoined =>
      intro e he
      obtain he | he := List.mem_append.mp he
      · exact not_closes_of_isRefusal (hrefused e he)
      · obtain rfl | he := List.mem_cons.mp he
        · rfl
        · exact not_closes_of_isUse (isUse_of_joins hjoined e he)

theorem Opening.found?_head {topics : List String} {e : Contact}
    {rest : List Contact} (h : Opening topics (e :: rest)) :
    e.found? = none := by
  generalize hcontacts : e :: rest = contacts at h
  cases h with
  | refused hrefused =>
      exact found?_of_isRefusal (hrefused e (hcontacts ▸ List.mem_cons_self))
  | @opened refusals joins _ _ _ hrefused =>
      cases refusals with
      | nil =>
          obtain ⟨rfl, -⟩ := List.cons.inj hcontacts
          rfl
      | cons e' refusals =>
          obtain ⟨rfl, -⟩ := List.cons.inj hcontacts
          exact found?_of_isRefusal (hrefused e List.mem_cons_self)

structure Visit where
  opening : List Contact := []
  own : List Contact := []
  closing : List Contact := []

namespace Visit

def contacts (v : Visit) : List Contact :=
  v.opening ++ v.own ++ v.closing

/-- Did an own call show that the session is over? -/
def isFatal (v : Visit) : Bool :=
  v.own.any Contact.isFatal

/-- What an agent that knew of an outage, or of none, tells of its visit. -/
def tidings (v : Visit) (address : String) (outage : Bool) : List Tiding :=
  (if v.opening.isEmpty then []
    else [.ofSearch address outage (v.opening.any opens)]) ++
  if v.isFatal then [.lost address] else []

/-- Whether the agent knows of an outage afterwards. -/
def outage (v : Visit) (before : Bool) : Bool :=
  v.isFatal || if v.opening.isEmpty then before else !v.opening.any opens

/-- What is told of a visit is what is told of its opening, and maybe a loss. -/
theorem tidings_eq (v : Visit) (address : String) (outage : Bool) :
    v.tidings address outage =
      tidings { opening := v.opening } address outage ++
        if v.isFatal then [.lost address] else [] := by
  simp [tidings, isFatal]

theorem outage_eq (v : Visit) (before : Bool) :
    v.outage before =
      (v.isFatal || outage { opening := v.opening } before) := by
  simp [outage, isFatal]

/-- The visit is that of an agent with these topics. -/
structure Sound (v : Visit) (topics : List String) : Prop where
  opening : Opening topics v.opening
  own : ∀ e ∈ v.own, e.isUse = true
  closing : ∀ e ∈ v.closing, e.closes = true

end Visit

/-- What differs in `p` from what comes after it is told apart from it. -/
theorem append_inj_of_forall {p : Contact → Bool}
    {front back front' back' : List Contact}
    (h : front ++ back = front' ++ back') (hfront : ∀ e ∈ front, p e = false)
    (hback : ∀ e ∈ back, p e = true) (hfront' : ∀ e ∈ front', p e = false)
    (hback' : ∀ e ∈ back', p e = true) : front = front' ∧ back = back' := by
  have hnone : front.filter p = [] :=
    List.filter_eq_nil_iff.mpr fun e he => by simp [hfront e he]
  have hnone' : front'.filter p = [] :=
    List.filter_eq_nil_iff.mpr fun e he => by simp [hfront' e he]
  have hsame := congrArg (List.filter p) h
  rw [List.filter_append, List.filter_append, hnone, hnone', List.nil_append,
    List.nil_append, List.filter_eq_self.mpr hback,
    List.filter_eq_self.mpr hback'] at hsame
  subst hsame
  exact ⟨List.append_cancel_right h, rfl⟩

theorem not_opens_of_refused {refusals own : List Contact}
    (hrefused : ∀ e ∈ refusals, e.isRefusal = true)
    (hown : ∀ e ∈ own, e.isUse = true) :
    ∀ e ∈ refusals ++ own, e.opens = false :=
  List.forall_mem_append.mpr
    ⟨fun e he => not_opens_of_isRefusal (hrefused e he),
      fun e he => not_opens_of_isUse (hown e he)⟩

theorem Opening.isRefusal {topics : List String} {opening : List Contact}
    (h : Opening topics opening) (hclosed : ∀ e ∈ opening, e.opens = false) :
    ∀ e ∈ opening, e.isRefusal = true := by
  cases h with
  | refused hrefused => exact hrefused
  | @opened refusals joins address client c _ _ =>
      cases hclosed (.connect address client (.ok c)) (by simp)

theorem Opening.unique {topics : List String}
    {opening own opening' own' : List Contact} (h : Opening topics opening)
    (h' : Opening topics opening') (hown : ∀ e ∈ own, e.isUse = true)
    (hown' : ∀ e ∈ own', e.isUse = true)
    (hsame : opening ++ own = opening' ++ own') :
    opening = opening' ∧ own = own' := by
  cases h with
  | refused hrefused =>
      have hclosed := not_opens_of_refused hrefused hown
      rw [hsame] at hclosed
      have hrefused' := h'.isRefusal (List.forall_mem_append.mp hclosed).1
      exact append_inj_of_forall hsame
        (fun e he => not_isUse_of_isRefusal (hrefused e he)) hown
        (fun e he => not_isUse_of_isRefusal (hrefused' e he)) hown'
  | @opened refusals joins address client c hrefused hjoined =>
      cases h' with
      | refused hrefused' =>
          have hclosed := not_opens_of_refused hrefused' hown'
          rw [← hsame] at hclosed
          cases hclosed (.connect address client (.ok c)) (by simp)
      | @opened refusals' joins' _ _ _ hrefused' hjoined' =>
          -- Nothing around the one connect opens a session, and behind it
          -- there are as many joins as topics.
          rw [List.append_assoc, List.append_assoc, List.cons_append,
            List.cons_append] at hsame
          have hfront : ∀ e ∈ refusals, e.opens = false :=
            fun e he => not_opens_of_isRefusal (hrefused e he)
          have huses := List.forall_mem_append.mpr
            ⟨isUse_of_joins hjoined, hown⟩
          have hback : ∀ e ∈ joins ++ own, e.opens = false :=
            fun e he => not_opens_of_isUse (huses e he)
          obtain ⟨rfl, hconnect, htail⟩ :=
            (List.append_cons_inj_of_notMem
              (fun hmem => Bool.noConfusion (hfront _ hmem))
              (fun hmem => Bool.noConfusion (hback _ hmem))).mp hsame
          have hlength := congrArg List.length (hjoined.trans hjoined'.symm)
          rw [List.length_map, List.length_map] at hlength
          obtain ⟨rfl, rfl⟩ := List.append_inj htail hlength
          exact ⟨by rw [hconnect], rfl⟩

/-- The contacts of a visit tell its parts. -/
theorem Visit.Sound.unique {topics : List String} {v v' : Visit}
    (h : v.Sound topics) (h' : v'.Sound topics)
    (hsame : v.contacts = v'.contacts) : v = v' := by
  have hopen {w : Visit} (hw : w.Sound topics) :
      ∀ e ∈ w.opening ++ w.own, e.closes = false :=
    List.forall_mem_append.mpr ⟨hw.opening.not_closes,
      fun e he => not_closes_of_isUse (hw.own e he)⟩
  obtain ⟨hfront, hclosing⟩ :=
    append_inj_of_forall hsame (hopen h) h.closing (hopen h') h'.closing
  obtain ⟨hopening, hown⟩ :=
    h.opening.unique h'.opening h.own h'.own hfront
  cases v
  cases v'
  rw [Visit.mk.injEq]
  exact ⟨hopening, hown, hclosing⟩

/-- Contacts were made that lead from one connection, or none, to another. -/
structure Makes (w w' : Watched σ) (x : Option Connection)
    (contacts : List Contact) (y : Option Connection) : Prop where
  adds : w'.contacts = w.contacts ++ contacts
  linked : Linked x contacts y

section Makes

variable {w w' w'' : Watched σ} {x y z : Option Connection}
  {contacts more : List Contact}

theorem Makes.refl (w : Watched σ) (x : Option Connection) : Makes w w x [] x :=
  ⟨(List.append_nil _).symm, .nil x⟩

theorem Makes.trans (h : Makes w w' x contacts y) (h' : Makes w' w'' y more z) :
    Makes w w'' x (contacts ++ more) z where
  adds := by rw [h'.adds, h.adds, List.append_assoc]
  linked := h.linked.append h'.linked

theorem Makes.cons {e : Contact} (h : Makes w' w'' e.left? contacts y)
    (hadds : w'.contacts = w.contacts ++ [e]) :
    Makes w w'' e.found? (e :: contacts) y :=
  .trans ⟨hadds, .single e⟩ h

end Makes

/-! ## Connecting -/

theorem Rejoins.makes {topics : List String} {c c' : Connection}
    {site site' : Site (Watched σ)}
    (h : Rejoins (Watched.transport t) topics c site c' site') :
    ∃ joins, Makes site.net site'.net (some c) joins (some c') ∧
      joins.map joined? = topics.map some := by
  induction h with
  | nil => exact ⟨[], .refl _ _, rfl⟩
  | @cons topic _ c _ site _ _ ih =>
      obtain ⟨joins, hmakes, hjoined⟩ := ih
      rw [rejoinedOn_net] at hmakes
      refine ⟨.join c topic _ _ :: joins,
        .cons (e := .join c topic _ _) hmakes rfl, ?_⟩
      rw [List.map_cons, List.map_cons, hjoined, joined?]

/-- The contact of an attempt. -/
theorem Makes.of_attempt {a : Agent} {attempt : Nat} {site : Site (Watched σ)}
    {w : Watched σ} {contacts : List Contact} {y : Option Connection}
    {outcome : Except Fault Connection}
    (hconnect :
      (attemptOn (Watched.transport t) a attempt site).value = outcome)
    (h : Makes (attemptOn (Watched.transport t) a attempt site).net w
      outcome.toOption contacts y) :
    Makes site.net w none (.connect a.profile.address
      (ClientName.candidate a.profile.client attempt) outcome :: contacts) y := by
  obtain rfl := hconnect
  exact .cons (e := .connect _ _ _) h rfl

theorem Searches.makes {a : Agent} {attempt remaining : Nat}
    {site : Site (Watched σ)} {r : Except Failure Connection}
    {s' : Stage Agent (Watched σ)}
    (h : Searches (Watched.transport t) a attempt remaining site r s') :
    ∃ opening, Makes site.net s'.site.net none opening r.toOption ∧
      Opening a.topics.toList opening ∧
      opening.isEmpty = decide (remaining = 0) ∧
      opening.filterMap reached? =
        if r.isOk then [a.profile.address] else [] := by
  induction h with
  | exhausted => exact ⟨[], .refl _ _, .refused (by simp), rfl, rfl⟩
  | accepted hconnect hrejoins =>
      obtain ⟨joins, hmakes, hjoined⟩ := hrejoins.makes
      have hnone : joins.filterMap reached? = [] := reached?_eq_nil fun e he =>
        not_opens_of_isUse (isUse_of_joins hjoined e he)
      refine ⟨_, .of_attempt hconnect hmakes, ?_, by simp, ?_⟩
      · rw [← List.nil_append (Contact.connect .. :: joins)]
        exact .opened (by simp) hjoined
      · exact congrArg (List.cons a.profile.address) hnone
  | taken hconnect _ ih =>
      obtain ⟨opening, hmakes, hopening, -, hreached⟩ := ih
      exact ⟨_, .of_attempt hconnect hmakes, hopening.cons rfl, by simp,
        hreached⟩
  | refused hconnect =>
      refine ⟨_, .of_attempt hconnect (.refl _ _), ?_, by simp, rfl⟩
      exact .refused (List.forall_mem_singleton.mpr rfl)

/-- A session is sought only where there is none, and if it is found there is a
connect that has opened it. -/
theorem Connects.makes {s s' : Stage Agent (Watched σ)}
    {r : Except Failure Connection}
    (h : Connects (Watched.transport t) s r s') :
    ∃ opening, Makes s.site.net s'.site.net s.self.session opening
        s'.self.session ∧
      Opening s.self.topics.toList opening ∧
      opening.isEmpty = s.self.session.isSome ∧
      opening.any opens = (s.self.session.isNone && r.isOk) ∧
      opening.filterMap reached? =
        if opening.any opens then [s.self.profile.address] else [] := by
  have hsession := h.session
  cases h with
  | held hheld =>
      rw [hheld]
      exact ⟨[], .refl _ _, .refused (by simp), rfl, rfl, rfl⟩
  | opened hnone hsearch | failed hnone hsearch =>
      obtain ⟨opening, hmakes, hopening, hempty, hreached⟩ := hsearch.makes
      have hopens := (hmakes.linked.isSome_eq hopening.not_closes).symm
      rw [hsession, hnone]
      refine ⟨opening, hmakes, hopening, hempty, hopens, ?_⟩
      rw [Option.isSome_none, Bool.false_or] at hopens
      rw [hopens]
      exact hreached

/-- A session was opened between the stages, unless the agent was in one or none
could be opened. -/
structure Begins (s s' : Stage Agent (Watched σ)) (contacts : List Contact) :
    Prop where
  makes : Makes s.site.net s'.site.net s.self.session contacts s'.self.session
  opening : Opening s.self.topics.toList contacts
  reached : contacts.filterMap reached? =
    if contacts.any opens then [s.self.profile.address] else []
  topics : s'.self.topics = s.self.topics
  profile : s'.self.profile = s.self.profile
  tells : Tells s.site s'.site (Visit.tidings { opening := contacts }
    s.self.profile.address s.self.outage)
  outage : s'.self.outage = Visit.outage { opening := contacts } s.self.outage

theorem Connects.begins {s s' : Stage Agent (Watched σ)}
    {r : Except Failure Connection}
    (h : Connects (Watched.transport t) s r s') :
    ∃ opening, Begins s s' opening := by
  obtain ⟨opening, hmakes, hopening, hempty, hopens, hreached⟩ := h.makes
  have htells := h.tells
  cases hsession : s.self.session with
  | some c =>
      obtain ⟨-, rfl⟩ := h.eq_of_session hsession
      rw [hsession] at hempty htells
      refine ⟨opening, hmakes, hopening, hreached, rfl, rfl, ?_, ?_⟩
      · simpa [Visit.tidings, Visit.isFatal, hempty] using htells
      · simp [Visit.outage, Visit.isFatal, hempty]
  | none =>
      have hself := h.self_of_none hsession
      rw [hsession] at hempty hopens htells
      refine ⟨opening, hmakes, hopening, hreached, by rw [hself],
        by rw [hself], ?_, ?_⟩
      · simpa [Visit.tidings, Visit.isFatal, hempty, hopens] using htells
      · simp [Visit.outage, Visit.isFatal, hempty, hopens, hself]

/-! ## Using a session and giving it up -/

theorem Disconnects.makes {s s' : Stage Agent (Watched σ)}
    (h : Disconnects (Watched.transport t) s s') :
    ∃ closing, Makes s.site.net s'.site.net s.self.session closing none ∧
      ∀ e ∈ closing, e.closes = true := by
  cases h with
  | idle hnone =>
      rw [hnone]
      exact ⟨[], .refl _ _, by simp⟩
  | @ended c hsession =>
      rw [hsession]
      exact ⟨[.disconnect c], ⟨rfl, .single _⟩, by simp [closes]⟩

theorem GivesUp.makes {cause : Fault} {s s' : Stage Agent (Watched σ)}
    (h : GivesUp (Watched.transport t) cause s s') :
    ∃ closing, Makes s.site.net s'.site.net s.self.session closing
        s'.self.session ∧
      (∀ e ∈ closing, e.closes = true) ∧
      (cause.endsSession = false → closing = []) := by
  cases h with
  | harmless => exact ⟨[], .refl _ _, by simp, fun _ => rfl⟩
  | fatal hends hdisconnects =>
      obtain ⟨closing, hmakes, hcloses⟩ := hdisconnects.makes
      refine ⟨closing, ?_, hcloses, fun hkeeps => ?_⟩
      · rw [hdisconnects.self_eq]
        exact hmakes
      · cases hkeeps.symm.trans hends

/-- The session that the agent holds is used, and given up if a use shows that
it is over. -/
structure Spends (s s' : Stage Agent (Watched σ)) (own closing : List Contact) :
    Prop where
  makes : Makes s.site.net s'.site.net s.self.session (own ++ closing)
    s'.self.session
  uses : ∀ e ∈ own, e.isUse = true
  closes : ∀ e ∈ closing, e.closes = true
  ended : own.any isFatal = true → s'.self.session = none
  kept : own.any isFatal = false → closing = []
  topics : s'.self.topics = s.self.topics
  profile : s'.self.profile = s.self.profile
  tells : Tells s.site s'.site (Visit.tidings { own }
    s.self.profile.address s.self.outage)
  outage : s'.self.outage = Visit.outage { own } s.self.outage

section Spends

variable {s s' s'' : Stage Agent (Watched σ)} {own own' closing closing' :
  List Contact}

theorem Spends.refl (s : Stage Agent (Watched σ)) : Spends s s [] [] :=
  ⟨.refl _ _, by simp, by simp, by simp, fun _ => rfl, rfl, rfl, .refl _, rfl⟩

theorem Spends.trans (hharmless : own.any isFatal = false)
    (h : Spends s s' own closing) (h' : Spends s' s'' own' closing') :
    Spends s s'' (own ++ own') closing' where
  makes := by
    obtain rfl := h.kept hharmless
    have hmakes := h.makes.trans h'.makes
    rwa [List.append_nil, ← List.append_assoc] at hmakes
  uses := List.forall_mem_append.mpr ⟨h.uses, h'.uses⟩
  closes := h'.closes
  ended := fun hfatal => h'.ended (by simpa [hharmless] using hfatal)
  kept := fun hfatal => h'.kept (by simpa [hharmless] using hfatal)
  topics := h'.topics.trans h.topics
  profile := h'.profile.trans h.profile
  tells := by
    have htells := h.tells.trans h'.tells
    rw [h.profile] at htells
    simpa [Visit.tidings, Visit.isFatal, hharmless] using htells
  outage := by
    rw [h'.outage, h.outage]
    simp [Visit.outage, Visit.isFatal, hharmless]

/-- What is done at the end counts only by what is told of it. -/
theorem Spends.of_end (h : Spends s s' own closing)
    (hnet : s''.site.net = s'.site.net)
    (hsession : s''.self.session = s'.self.session)
    (htopics : s''.self.topics = s'.self.topics)
    (hprofile : s''.self.profile = s'.self.profile)
    (houtage : s''.self.outage = s'.self.outage)
    (htells : Tells s'.site s''.site []) : Spends s s'' own closing where
  makes := by rw [hnet, hsession]; exact h.makes
  uses := h.uses
  closes := h.closes
  ended := fun hfatal => hsession.trans (h.ended hfatal)
  kept := h.kept
  topics := htopics.trans h.topics
  profile := hprofile.trans h.profile
  tells := by simpa using h.tells.trans htells
  outage := houtage.trans h.outage

end Spends

/-- The call makes uses of the session, of which the last ends in the fault of
the call. -/
def Uses (f : SessionCall (Watched σ) α) : Prop :=
  ∀ c w, ∃ own, (f c w).net.contacts = w.contacts ++ own ∧
    Linked (some c) own (some (f c w).value.2) ∧
    (∀ e ∈ own, e.isUse = true) ∧
    own.any isFatal = (faultOf (f c w).value.1).any Fault.endsSession

section Calls

variable {f : SessionCall (Watched σ) α} {c : Connection}
  {s s' : Stage Agent (Watched σ)}

/-- A use that succeeded. -/
theorem Uses.spends_of_answer (hf : Uses f) (hc : s.self.session = some c)
    {x : α} (hanswer : (f c s.site.net).value.1 = .ok x) :
    ∃ own, own.any isFatal = false ∧ Spends s (calledOn c f s) own [] := by
  obtain ⟨own, hadds, hlinked, huses, hfatal⟩ := hf c s.site.net
  have hharmless : own.any isFatal = false := by
    rw [hfatal, hanswer]
    rfl
  refine ⟨own, hharmless, ⟨?_, ?_⟩, huses, by simp, fun hended => ?_,
    fun _ => rfl, rfl, rfl, ?_, ?_⟩
  · rw [List.append_nil]
    exact hadds
  · rw [List.append_nil, hc]
    exact hlinked
  · cases hharmless.symm.trans hended
  · rw [Visit.tidings, Visit.isFatal, hharmless]
    exact tells_serve s.site (f c s.site.net)
  · simp [Visit.outage, Visit.isFatal, hharmless, calledOn]

/-- A use that failed, and what the agent has done about it. -/
theorem Uses.spends_of_fault (hf : Uses f) (hc : s.self.session = some c)
    {cause : Fault} (hfault : (f c s.site.net).value.1 = .error cause)
    (h : GivesUp (Watched.transport t) cause (calledOn c f s) s') :
    ∃ own closing, Spends s s' own closing := by
  obtain ⟨own, hadds, hlinked, huses, hfatal⟩ := hf c s.site.net
  obtain ⟨closing, hmakes, hcloses, hkept⟩ := h.makes
  have hself := h.self_eq
  have htells := (tells_serve s.site (f c s.site.net)).trans h.tells
  rw [hfault, show (faultOf _).any Fault.endsSession = cause.endsSession from
    rfl] at hfatal
  rw [← hfatal] at hkept hself htells
  refine ⟨own, closing, .trans ⟨hadds, hc ▸ hlinked⟩ hmakes, huses, hcloses,
    fun hended => ?_, hkept, by rw [hself]; rfl, by rw [hself]; rfl, ?_, ?_⟩
  · rw [hself, hended]
    rfl
  · rw [Visit.tidings, Visit.isFatal]
    exact htells
  · rw [hself]
    simp [Visit.outage, Visit.isFatal, calledOn, Bool.or_comm]

/-- A request opens a session if there is none, and uses it if there is one
then. -/
theorem Requests.spends {failed : Fault → Failure} {r : Except Failure α}
    (hf : Uses f) (h : Requests (Watched.transport t) f failed s r s') :
    ∃ s₁ opening own closing, Begins s s₁ opening ∧ Spends s₁ s' own closing ∧
      (r.isOk = true → own.any isFatal = false) := by
  cases h with
  | unconnected hconnects =>
      obtain ⟨opening, hbegins⟩ := hconnects.begins
      exact ⟨s', opening, [], [], hbegins, .refl s', fun _ => rfl⟩
  | answered hconnects hanswer =>
      obtain ⟨opening, hbegins⟩ := hconnects.begins
      obtain ⟨own, hharmless, hspends⟩ :=
        hf.spends_of_answer hconnects.session hanswer
      exact ⟨_, opening, own, [], hbegins, hspends, fun _ => hharmless⟩
  | refused hconnects hfault hgivesUp =>
      obtain ⟨opening, hbegins⟩ := hconnects.begins
      obtain ⟨own, closing, hspends⟩ :=
        hf.spends_of_fault hconnects.session hfault hgivesUp
      exact ⟨_, opening, own, closing, hbegins, hspends, nofun⟩

end Calls

/-! ## Operations -/

/-- Between the stages the agent paid its daemon a visit, and told of it. It
gives up a session that is not over only if it is `told` to. -/
structure Visits (told : Bool) (s s' : Stage Agent (Watched σ)) (v : Visit) :
    Prop where
  adds : s'.site.net.contacts = s.site.net.contacts ++ v.contacts
  linked : Linked s.self.session v.contacts s'.self.session
  sound : v.Sound s'.self.topics.toList
  reached : v.opening.filterMap reached? =
    if v.opening.any opens then [s.self.profile.address] else []
  ended : v.isFatal = true → s'.self.session = none
  kept : told = false → v.isFatal = false → v.closing = []
  tells : Tells s.site s'.site (v.tidings s.self.profile.address s.self.outage)
  outage : s'.self.outage = v.outage s.self.outage

section Visits

variable {told : Bool} {s s₁ s' : Stage Agent (Watched σ)}
  {opening own closing : List Contact} {v : Visit}

theorem Visits.of_spends (hbegins : Begins s s₁ opening)
    (h : Spends s₁ s' own closing) :
    s'.self.topics = s.self.topics ∧ ∃ v, Visits false s s' v := by
  have htopics := h.topics.trans hbegins.topics
  have hall := hbegins.makes.trans h.makes
  have htells := hbegins.tells.trans h.tells
  rw [← List.append_assoc] at hall
  rw [hbegins.profile, hbegins.outage] at htells
  refine ⟨htopics, { opening, own, closing }, hall.adds, hall.linked,
    ⟨?_, h.uses, h.closes⟩, hbegins.reached, h.ended, fun _ => h.kept, ?_, ?_⟩
  · rw [htopics]
    exact hbegins.opening
  · simpa [Visit.tidings, Visit.isFatal] using htells
  · rw [h.outage, hbegins.outage]
    simp [Visit.outage, Visit.isFatal]

theorem Visits.none (hself : s'.self = s.self)
    (hcontacts : s'.site.net.contacts = s.site.net.contacts)
    (hnoted : s'.site.journal.noted = s.site.journal.noted) :
    Visits told s s' {} where
  adds := hcontacts.trans (List.append_nil _).symm
  linked := congrArg Agent.session hself.symm
  sound := ⟨.refused (by simp), by simp, by simp⟩
  reached := rfl
  ended := nofun
  kept := fun _ _ => rfl
  tells := .of_same hnoted
  outage := congrArg Agent.outage hself

/-- An agent's profile may have changed before it gives its session up. -/
theorem Disconnects.visits (h : Disconnects (Watched.transport t) s₁ s')
    (hsite : s₁.site = s.site) (hsession : s₁.self.session = s.self.session)
    (houtage : s₁.self.outage = s.self.outage) : ∃ v, Visits true s s' v := by
  obtain ⟨closing, hmakes, hcloses⟩ := h.makes
  have hself := h.self_eq
  have htells := h.tells
  rw [hsite] at hmakes htells
  rw [hsession] at hmakes
  refine ⟨{ closing }, hmakes.adds, ?_, ⟨.refused (by simp), by simp, hcloses⟩,
    rfl, nofun, nofun, htells, ?_⟩
  · rw [hself]
    exact hmakes.linked
  · rw [hself]
    exact houtage

/-- Of what the agent remembers before its visit, only its session counts, the
address of its daemon and whether it knows of an outage. -/
theorem Visits.of_start (h : Visits told s₁ s' v) (hsite : s₁.site = s.site)
    (hsession : s₁.self.session = s.self.session)
    (haddress : s₁.self.profile.address = s.self.profile.address)
    (houtage : s₁.self.outage = s.self.outage) : Visits told s s' v where
  adds := hsite ▸ h.adds
  linked := hsession ▸ h.linked
  sound := h.sound
  reached := haddress ▸ h.reached
  ended := h.ended
  kept := h.kept
  tells := by rw [← hsite, ← haddress, ← houtage]; exact h.tells
  outage := houtage ▸ h.outage

/-- A session is sought only where there is none. -/
theorem Visits.opening_nil (h : Visits told s s' v)
    (hsession : s.self.isConnected = true) : v.opening = [] := by
  cases hopening : v.opening with
  | nil => rfl
  | cons e rest =>
      have hlinked := h.linked
      have hhead := h.sound.opening
      rw [Visit.contacts, hopening] at hlinked
      rw [hopening] at hhead
      rw [isConnected, ← hlinked.1, hhead.found?_head] at hsession
      cases hsession

/-- Own calls are made on a session. -/
theorem Visits.isConnected_of_own (h : Visits told s s' v)
    (hne : v.own ≠ []) : (s.self.isConnected || v.opening.any opens) = true := by
  obtain ⟨y, hlinked, -⟩ := Linked.append_iff.mp h.linked
  obtain ⟨x, hopening, hown⟩ := Linked.append_iff.mp hlinked
  obtain ⟨e, rest, he⟩ := List.exists_cons_of_ne_nil hne
  rw [he] at hown
  rw [isConnected, ← hopening.isSome_eq h.sound.opening.not_closes, ← hown.1]
  exact found?_of_isUse (h.sound.own e (he ▸ List.mem_cons_self))

theorem Visits.isConnected_eq (h : Visits told s s' v)
    (hnone : v.closing = []) :
    s'.self.isConnected = (s.self.isConnected || v.opening.any opens) := by
  have hlinked := h.linked
  rw [Visit.contacts, hnone, List.append_nil] at hlinked
  have huses : v.own.any opens = false := by
    rw [List.any_eq_false]
    exact fun e he => by simp [not_opens_of_isUse (h.sound.own e he)]
  have hsession := hlinked.isSome_eq (List.forall_mem_append.mpr
    ⟨h.sound.opening.not_closes,
      fun e he => not_closes_of_isUse (h.sound.own e he)⟩)
  rwa [List.any_append, huses, Bool.or_false] at hsession

/-- Where a session is held at the end, none was given up. -/
theorem Visits.closing_nil (h : Visits told s s' v)
    (hsession : s'.self.isConnected = true) : v.closing = [] := by
  obtain ⟨y, -, hclosing⟩ := Linked.append_iff.mp h.linked
  have hopens : v.closing.countP opens = 0 :=
    List.countP_eq_zero.mpr fun e he => by
      simp [not_opens_of_closes (h.sound.closing e he)]
  have hbalance := hclosing.balance
  rw [isConnected] at hsession
  rw [hopens, List.countP_eq_length.mpr h.sound.closing, hsession,
    Bool.toNat_true] at hbalance
  have hle := y.isSome.toNat_le
  exact List.eq_nil_of_length_eq_zero (by omega)

end Visits

theorem request_visits {f : SessionCall (Watched σ) α} (hf : Uses f)
    (failed : Fault → Failure) (s : Stage Agent (Watched σ)) :
    Task.Ends (request (Watched.transport t) f failed) s fun _ s' =>
      s'.self.topics = s.self.topics ∧ ∃ v, Visits false s s' v := by
  refine (request_requests f failed s).imp fun r s' h => ?_
  obtain ⟨s₁, opening, own, closing, hbegins, hspends, -⟩ := h.spends hf
  exact Visits.of_spends hbegins hspends

theorem join_uses (topic : String) : Uses ((Watched.transport t).join topic) :=
  fun c _ => ⟨[.join c topic _ _], rfl, ⟨rfl, rfl⟩, by simp [isUse],
    Bool.or_false _⟩

theorem leave_uses (topic : String) :
    Uses ((Watched.transport t).leave topic) :=
  fun c _ => ⟨[.leave c topic _ _], rfl, ⟨rfl, rfl⟩, by simp [isUse],
    Bool.or_false _⟩

theorem multicast_uses (group : String) (flags : Flags) (payload : Bytes)
    (service : Service) :
    Uses ((Watched.transport t).multicast group flags payload service) :=
  fun c _ => ⟨[.multicast c group flags payload service _ _], rfl, ⟨rfl, rfl⟩,
    by simp [isUse], Bool.or_false _⟩

/-- A poll that finds something is harmless, so only the fault of the receive
behind it counts. -/
theorem receiveIfReady_uses : Uses (receiveIfReady (Watched.transport t)) := by
  intro c w
  have hpoll : ((Watched.transport t).poll c w).net.contacts =
      w.contacts ++ [.poll c ((Watched.transport t).poll c w).value.1
        ((Watched.transport t).poll c w).value.2] := rfl
  simp only [receiveIfReady]
  split
  · next cause c' hvalue =>
      rw [hvalue] at hpoll
      exact ⟨_, hpoll, ⟨rfl, rfl⟩, by simp [isUse], Bool.or_false _⟩
  · next c' hvalue =>
      rw [hvalue] at hpoll
      exact ⟨_, hpoll, ⟨rfl, rfl⟩, by simp [isUse], rfl⟩
  · next c' hvalue =>
      rw [hvalue] at hpoll
      generalize ((Watched.transport t).poll c w).net = w' at hpoll
      have hreceive : ((Watched.transport t).receive c' w').net.contacts =
          w'.contacts ++
            [.receive c' ((Watched.transport t).receive c' w').value.1
              ((Watched.transport t).receive c' w').value.2] := rfl
      rw [hpoll, List.append_assoc, List.singleton_append] at hreceive
      refine ⟨_, hreceive, ⟨rfl, rfl, rfl⟩, by simp [isUse], ?_⟩
      rw [faultOf_map]
      exact Bool.or_false _

theorem KeepsAlive.spends {s s' : Stage Agent (Watched σ)}
    (h : KeepsAlive (Watched.transport t) s s') :
    ∃ own closing, Spends s s' own closing := by
  have huses : Uses (keepAliveCall (Watched.transport t)) :=
    multicast_uses _ _ _ _
  cases h with
  | early | alone => exact ⟨[], [], .refl s⟩
  | sent _ hsession hsent =>
      obtain ⟨own, -, hspends⟩ := huses.spends_of_answer hsession hsent
      exact ⟨own, [], hspends.of_end rfl rfl rfl rfl rfl (.refl _)⟩
  | failed _ hsession hfault hgivesUp =>
      obtain ⟨own, closing, hspends⟩ :=
        huses.spends_of_fault hsession hfault hgivesUp
      exact ⟨own, closing, hspends.of_end rfl rfl rfl rfl rfl
        (tells_noting _ (.keepAliveFailed _))⟩

theorem poll_visits (s : Stage Agent (Watched σ)) :
    Task.Ends (poll (Watched.transport t)) s fun _ s' =>
      s'.self.topics = s.self.topics ∧ ∃ v, Visits false s s' v := by
  simp only [poll, Task.ends_bind]
  refine (request_requests _ _ s).imp fun r s₂ h => ?_
  obtain ⟨s₁, opening, own, closing, hbegins, hspends, hharmless⟩ :=
    h.spends receiveIfReady_uses
  cases r with
  | error failure => exact Visits.of_spends hbegins hspends
  | ok delivery? =>
      simp only [Task.ends_bind, Task.ends_pure]
      refine (keepAlive_keepsAlive s₂).imp fun _ s' h => ?_
      obtain ⟨own', closing', hspends'⟩ := h.spends
      exact Visits.of_spends hbegins (hspends.trans (hharmless rfl) hspends')

theorem send_visits (m : Message) (s : Stage Agent (Watched σ)) :
    Task.Ends (send (Watched.transport t) m) s fun _ s' =>
      s'.self.topics = s.self.topics ∧ ∃ v, Visits false s s' v := by
  simp only [send, Task.ends_bind, Task.ends_self]
  split
  · exact ⟨rfl, _, .none rfl rfl rfl⟩
  · simp only [Task.ends_bind]
    refine (request_visits (multicast_uses _ _ _ _) _ s).imp fun r s' h => ?_
    cases r with
    | error failure => exact h
    | ok sent =>
        simp only []
        split <;> exact h

theorem address_visits (s : Stage Agent (Watched σ)) :
    Task.Ends (address (Watched.transport t)) s fun _ s' =>
      s'.self.topics = s.self.topics ∧ ∃ v, Visits false s s' v := by
  simp only [address, Task.ends_bind, Task.ends_pure]
  refine (connect_connects s).imp fun r s' h => ?_
  obtain ⟨opening, hbegins⟩ := h.begins
  exact Visits.of_spends hbegins (.refl s')

theorem run_visits (e : Relay.Errand) (s : Stage Agent (Watched σ)) :
    Task.Ends (e.run (Watched.transport t)) s fun _ s' =>
      s'.self.topics = remembered s.self.topics e ∧
        ∃ v, Visits e.endsSession s s' v := by
  cases e with
  | none => exact ⟨rfl, _, .none rfl rfl rfl⟩
  | disconnect =>
      simp only [Relay.Errand.run, Task.ends_map]
      refine (disconnect_disconnects s).imp fun _ s' h => ?_
      exact ⟨by rw [h.self_eq]; rfl, h.visits rfl rfl rfl⟩
  | askAddress => exact address_visits s
  | poll => exact poll_visits s
  | send m => exact send_visits m s
  | subscribe topic =>
      simp only [Relay.Errand.run, subscribe, Task.ends_map, Task.ends_bind,
        Task.ends_change]
      refine (request_visits (join_uses topic) _ _).imp fun _ s' h => ?_
      exact ⟨h.1, h.2.imp fun v hv => hv.of_start rfl rfl rfl rfl⟩
  | unsubscribe topic =>
      simp only [Relay.Errand.run, unsubscribe, Task.ends_map, Task.ends_bind,
        Task.ends_change]
      refine (request_visits (leave_uses topic) _ _).imp fun _ s' h => ?_
      exact ⟨h.1, h.2.imp fun v hv => hv.of_start rfl rfl rfl rfl⟩
  | setAddress address =>
      simp only [Relay.Errand.run, setAddress, Task.ends_map, Task.ends_bind,
        Task.ends_self]
      split
      · simp only [Task.ends_bind, Task.ends_change]
        refine (disconnect_disconnects _).imp fun _ s' h => ?_
        exact ⟨by rw [h.self_eq]; rfl, h.visits rfl rfl rfl⟩
      · exact ⟨rfl, _, .none rfl rfl rfl⟩
  | setClient client =>
      simp only [Relay.Errand.run, setClient, Task.ends_map, Task.ends_bind,
        Task.ends_self]
      split
      · simp only [Task.ends_bind, Task.ends_change]
        refine (disconnect_disconnects _).imp fun _ s' h => ?_
        exact ⟨by rw [h.self_eq]; rfl, h.visits rfl rfl rfl⟩
      · exact ⟨rfl, _, .none rfl rfl rfl⟩

end Agent

end Courier
