import Mathlib.Data.List.Basic
import Courier.Proofs.Agent.Cover
import Courier.Proofs.Agent.Visits
import Courier.Proofs.ByteOrder
import Courier.Transport.Script

/-!
# The sessions of an agent

In a run of an agent one visit follows on another. So the contacts of the run
are linked, and sessions are balanced, whatever the transport does: a session
is opened only where there is none, it is joined to all topics before anything
else, and it is ended once or held to the end (`sessions_balanced`).

A fault of an own call that ends the session is followed by its end
(`fatal_faults_end_sessions`). But the joins behind a connect are passed over
whatever comes of them. So an agent may hold on to a session that such a join
has shown to be over, until another call on it fails
(`fatal_rejoin_keeps_session`).
-/

namespace Courier

namespace Agent

open Contact

variable {σ : Type} {t : Transport σ}

/-! ## Runs -/

inductive Turn (σ : Type) where
  | errand (e : Relay.Errand)
  /-- Something that others do on the network. -/
  | elsewhere (f : σ → Served σ Unit)
  | wait (ns : Nat)
  | retire

namespace Turn

def take (t : Transport σ) : Turn σ → Task Agent (Watched σ) Unit
  | .errand e => (fun _ => ()) <$> e.run (Watched.transport t)
  | .elsewhere f => Task.serve (Watched.elsewhere f)
  | .wait ns => modify fun s => { s with site := s.site.advance ns }
  | .retire => Agent.retire (Watched.transport t)

def takeUnwatched (t : Transport σ) : Turn σ → Task Agent σ Unit
  | .errand e => (fun _ => ()) <$> e.run t
  | .elsewhere f => Task.serve f
  | .wait ns => modify fun s => { s with site := s.site.advance ns }
  | .retire => Agent.retire t

/-- The topics that the agent remembers after a turn. -/
def remembered (topics : Std.ExtTreeSet String) :
    Turn σ → Std.ExtTreeSet String
  | .errand e => Agent.remembered topics e
  | _ => topics

def endsSession : Turn σ → Bool
  | .errand e => e.endsSession
  | .retire => true
  | _ => false

theorem take_covers (t : Transport σ) (turn : Turn σ) :
    Task.Covers Watched.net (turn.take t) (turn.takeUnwatched t) := by
  cases turn with
  | errand e => exact .map _ (e.run_covers (Watched.covers t))
  | elsewhere f => exact Task.covers_serve fun _ => rfl
  | wait ns => exact fun _ _ => rfl
  | retire => exact disconnect_covers (Watched.covers t)

theorem take_visits (turn : Turn σ) (s : Stage Agent (Watched σ)) :
    Task.Ends (turn.take t) s fun _ s' =>
      s'.self.topics = turn.remembered s.self.topics ∧
        (turn = .retire → s'.self.session = none) ∧
        ∃ v, Visits turn.endsSession s s' v := by
  cases turn with
  | errand e =>
      simp only [take, Task.ends_map]
      exact (run_visits e s).imp fun _ _ h => ⟨h.1, by simp, h.2⟩
  | elsewhere f =>
      exact ⟨rfl, by simp, _, .none rfl rfl (noted_serve s.site _)⟩
  | wait ns => exact ⟨rfl, by simp, _, .none rfl rfl rfl⟩
  | retire =>
      refine (disconnect_disconnects s).imp fun _ s' h => ?_
      exact ⟨by rw [h.self_eq]; rfl, fun _ => by rw [h.self_eq],
        h.visits rfl rfl rfl⟩

end Turn

/-- A run of an agent over a watched transport. -/
abbrev Watch (σ : Type) := Run (Stage Agent (Watched σ)) (Turn σ) Unit

def begin (profile : Profile) (site : Site σ) : Stage Agent (Watched σ) where
  self := { profile }
  site := { site with net := { net := site.net } }

def watch (t : Transport σ) (profile : Profile) (site : Site σ)
    (turns : List (Turn σ)) : Watch σ :=
  Run.of (Turn.take t) (begin profile site) turns

/-- To be watched changes nothing. -/
theorem watch_unwatched (t : Transport σ) (profile : Profile) (site : Site σ)
    (turns : List (Turn σ)) :
    Run.of (Turn.takeUnwatched t) { self := { profile }, site } turns =
      (watch t profile site turns).map (Stage.view Watched.net) :=
  Run.of_map (fun turn => (Turn.take_covers t turn).run) (begin profile site)
    turns

def contactsAt (m : Moment (Stage Agent (Watched σ)) (Turn σ) Unit) :
    List Contact :=
  m.after.site.net.contacts.drop m.before.site.net.contacts.length

def Watch.contacts (run : Watch σ) : List Contact :=
  run.state.site.net.contacts

/-- The turn was a visit, of which nothing is said but its parts. -/
structure Visited (m : Moment (Stage Agent (Watched σ)) (Turn σ) Unit)
    (v : Visit) : Prop where
  contacts : contactsAt m = v.contacts
  visits : Visits m.turn.endsSession m.before m.after v
  topics : m.after.self.topics = m.turn.remembered m.before.self.topics
  retired : m.turn = .retire → m.after.self.session = none

theorem watch_visited (t : Transport σ) (profile : Profile) (site : Site σ)
    (turns : List (Turn σ)) :
    ∀ m ∈ (watch t profile site turns).past, ∃ v, Visited m v := by
  refine Run.forall_past (fun run turn => ?_) _ turns
  obtain ⟨htopics, hretired, v, hvisits⟩ := Turn.take_visits turn run.state
  refine ⟨v, ?_, hvisits, htopics, hretired⟩
  exact (congrArg _ hvisits.adds).trans List.drop_left

theorem watch_linked (t : Transport σ) (profile : Profile) (site : Site σ)
    (turns : List (Turn σ)) :
    (watch t profile site turns).contacts =
        (watch t profile site turns).past.flatMap contactsAt ∧
      Linked none (watch t profile site turns).contacts
        (watch t profile site turns).state.self.session := by
  refine Run.invariant (P := fun run =>
    Watch.contacts run = run.past.flatMap contactsAt ∧
      Linked none (Watch.contacts run) run.state.self.session) ⟨rfl, rfl⟩
    fun run turn _ hrun => ?_
  obtain ⟨hwhole, hlinked⟩ := hrun
  obtain ⟨-, -, v, hvisits⟩ := Turn.take_visits (t := t) turn run.state
  have hcontacts : Watch.contacts (run.take (Turn.take t) turn) =
      Watch.contacts run ++ v.contacts := hvisits.adds
  have hmoment : contactsAt (run.moment (Turn.take t) turn) = v.contacts :=
    (congrArg _ hvisits.adds).trans List.drop_left
  constructor
  · rw [hcontacts, hwhole, Run.take, List.flatMap_append,
      List.flatMap_singleton, hmoment]
  · rw [hcontacts]
    exact hlinked.append hvisits.linked

/-! ## Balance -/

/-- What can be said of the sessions of a run. -/
structure Balanced (run : Watch σ) : Prop where
  whole : run.contacts = run.past.flatMap contactsAt
  /-- A connect is tried only where there is no session, and any other call is
  made on the session that there is, on its connection as the last call has
  left it. -/
  linked : Linked none run.contacts run.state.self.session
  balance : run.contacts.countP opens =
    run.contacts.countP closes + run.state.self.isConnected.toNat
  /-- A session that was opened is ended by one disconnect before the next
  connect, or held to the end. -/
  endsOnce : ∀ before address client c after,
    run.contacts = before ++ .connect address client (.ok c) :: after →
      EndsOnce after run.state.self.session
  retired : ∀ m ∈ run.past, m.turn = .retire → m.after.self.isConnected = false
  topics : ∀ m ∈ run.past,
    m.after.self.topics = m.turn.remembered m.before.self.topics
  /-- Behind a connect that succeeds, and before any other call, each topic is
  joined once, in the order of their bytes. -/
  rejoins : ∀ m ∈ run.past, ∀ before address client c after,
    contactsAt m = before ++ .connect address client (.ok c) :: after →
      ∃ joins rest, after = joins ++ rest ∧
        joins.map joined? = m.after.self.topics.toList.map some
  ordered : ∀ m ∈ run.past,
    (m.after.self.topics.toList.map Bytes.ofText).Pairwise (· < ·)

/-- There is only one connect in a visit that succeeds, and it is the one in
front of the joins. -/
theorem Opening.rejoins {topics : List String}
    {opening more before after : List Contact} {address client : String}
    {c : Connection} (h : Opening topics opening)
    (hmore : ∀ e ∈ more, e.opens = false)
    (hsplit : opening ++ more =
      before ++ .connect address client (.ok c) :: after) :
    ∃ joins rest, after = joins ++ rest ∧
      joins.map joined? = topics.map some := by
  have hnot : ∀ {contacts : List Contact}, (∀ e ∈ contacts, e.opens = false) →
      .connect address client (.ok c) ∉ contacts :=
    fun hclosed hmem => Bool.noConfusion (hclosed _ hmem)
  cases h with
  | refused hrefused =>
      have hclosed : ∀ e ∈ opening ++ more, e.opens = false :=
        List.forall_mem_append.mpr
          ⟨fun e he => not_opens_of_isRefusal (hrefused e he), hmore⟩
      exact absurd (hsplit ▸ by simp) (hnot hclosed)
  | @opened refusals joins _ _ _ hrefused hjoined =>
      rw [List.append_assoc, List.cons_append] at hsplit
      obtain ⟨-, -, rfl⟩ := (List.append_cons_inj_of_notMem
        (hnot fun e he => not_opens_of_isRefusal (hrefused e he))
        (hnot (List.forall_mem_append.mpr
          ⟨fun e he => not_opens_of_isUse (isUse_of_joins hjoined e he),
            hmore⟩))).mp hsplit
      exact ⟨joins, more, rfl, hjoined⟩

theorem Visit.Sound.rejoins {v : Visit} {topics : List String}
    (h : v.Sound topics) {before : List Contact} {address client : String}
    {c : Connection} {after : List Contact}
    (hsplit : v.contacts = before ++ .connect address client (.ok c) :: after) :
    ∃ joins rest, after = joins ++ rest ∧
      joins.map joined? = topics.map some := by
  rw [Visit.contacts, List.append_assoc] at hsplit
  refine h.opening.rejoins (fun e he => ?_) hsplit
  obtain he | he := List.mem_append.mp he
  · exact not_opens_of_isUse (h.own e he)
  · exact not_opens_of_closes (h.closing e he)

/-- Whatever a transport does, sessions are balanced. -/
theorem sessions_balanced (t : Transport σ) (profile : Profile)
    (site : Site σ) (turns : List (Turn σ)) :
    Balanced (watch t profile site turns) := by
  obtain ⟨hwhole, hlinked⟩ := watch_linked t profile site turns
  have hvisited := watch_visited t profile site turns
  refine ⟨hwhole, hlinked, ?_, ?_, ?_, ?_, ?_,
    fun _ _ => pairwise_ofText_toList _⟩
  · exact (Nat.zero_add _).symm.trans hlinked.balance
  · intro before address client c after hsplit
    rw [hsplit] at hlinked
    obtain ⟨y, -, -, hafter⟩ := Linked.append_iff.mp hlinked
    exact hafter.endsOnce
  · intro m hm hretire
    obtain ⟨v, hv⟩ := hvisited m hm
    rw [isConnected, hv.retired hretire]
    rfl
  · intro m hm
    obtain ⟨v, hv⟩ := hvisited m hm
    exact hv.topics
  · intro m hm before address client c after hsplit
    obtain ⟨v, hv⟩ := hvisited m hm
    exact hv.visits.sound.rejoins (hv.contacts ▸ hsplit)

/-! ## Faults -/

/-- After a fault of an own call that ends the session the agent has none.
Without one it keeps what session it had or opened, unless it is told to give
it up. Own calls are made only where there is a session. -/
theorem fatal_faults_end_sessions (t : Transport σ) (profile : Profile)
    (site : Site σ) (turns : List (Turn σ))
    (m : Moment (Stage Agent (Watched σ)) (Turn σ) Unit)
    (hm : m ∈ (watch t profile site turns).past) :
    ∃ v : Visit, contactsAt m = v.contacts ∧
      v.Sound m.after.self.topics.toList ∧
      (v.isFatal = true → m.after.self.isConnected = false) ∧
      (v.isFatal = false → m.turn.endsSession = false → v.closing = [] ∧
        m.after.self.isConnected =
          (m.before.self.isConnected || v.opening.any opens)) ∧
      (v.own ≠ [] →
        (m.before.self.isConnected || v.opening.any opens) = true) := by
  obtain ⟨v, hv⟩ := watch_visited t profile site turns m hm
  have hvisits := hv.visits
  refine ⟨v, hv.contacts, hvisits.sound, fun hfatal => ?_,
    fun hfatal huntold => ?_, hvisits.isConnected_of_own⟩
  · rw [isConnected, hvisits.ended hfatal]
    rfl
  · have hnone := hvisits.kept huntold hfatal
    exact ⟨hnone, hvisits.isConnected_eq hnone⟩

theorem Visit.Sound.opening_nil {v : Visit} {topics : List String}
    (h : v.Sound topics) {e : Contact} {rest : List Contact}
    (hcontacts : v.contacts = e :: rest) (he : e.found?.isSome = true) :
    v.opening = [] := by
  have hopening := h.opening
  cases hv : v.opening with
  | nil => rfl
  | cons e' more =>
      rw [hv] at hopening
      rw [Visit.contacts, hv] at hcontacts
      obtain ⟨rfl, -⟩ := List.cons.inj hcontacts
      rw [hopening.found?_head] at he
      cases he

def shaken : Watch Script :=
  watch Script.transport {}
    { net := { polls := [{ outcome := .error (.io "broken pipe") }] } }
    [.errand (.subscribe "news"), .errand .poll]

theorem fatal_faults_end_sessions_shaken :
    ∃ m ∈ shaken.past, m.turn = .errand .poll ∧
      m.before.self.isConnected = true ∧ m.after.self.isConnected = false := by
  let c : Connection := { address := "#unknown#script" }
  obtain ⟨m, hm, hturn, hbefore, hpoll⟩ : ∃ m ∈ shaken.past,
      m.turn = .errand .poll ∧ m.before.self.isConnected = true ∧
        contactsAt m =
          [.poll c (.error (.io "broken pipe")) c, .disconnect c] :=
    ⟨_, .tail _ (.head _), rfl, rfl, rfl⟩
  obtain ⟨v, hcontacts, hsound, hended, -⟩ :=
    fatal_faults_end_sessions _ _ _ _ m hm
  rw [hpoll] at hcontacts
  refine ⟨m, hm, hturn, hbefore, hended ?_⟩
  have hopening := hsound.opening_nil hcontacts.symm rfl
  rw [Visit.contacts, hopening, List.nil_append] at hcontacts
  rw [Visit.isFatal]
  cases hown : v.own with
  | nil =>
      rw [hown, List.nil_append] at hcontacts
      have hcloses := hsound.closing _ (hcontacts ▸ List.mem_cons_self)
      exact Bool.noConfusion hcloses
  | cons e rest =>
      rw [hown, List.cons_append] at hcontacts
      obtain ⟨rfl, -⟩ := List.cons.inj hcontacts
      rfl

/-- A daemon that cannot be reached at first, and that takes the first session
away when a group is joined. -/
def stumbling : Script where
  connects := [{ outcome := .error (.unreachable "4803@localhost") }]
  joins := [{ outcome := .error .closed }]

def stumble : Watch Script :=
  watch Script.transport {} { net := stumbling }
    [.errand (.subscribe "news"), .errand .askAddress]

/-- The fault of a join after a connect is passed over, even if it ends the
session. The agent holds on to a session that is over. -/
theorem fatal_rejoin_keeps_session :
    ∃ m ∈ stumble.past, m.turn = .errand .askAddress ∧
      (∃ e ∈ contactsAt m, e.isFatal = true) ∧
      (contactsAt m).countP closes = 0 ∧
      m.after.self.isConnected = true := by
  refine ⟨_, .tail _ (.head _), rfl, ⟨_, .tail _ (.head _), rfl⟩, rfl, rfl⟩

end Agent

end Courier
