import Courier.Proofs.Agent.Topics
import Courier.Proofs.Lines
import Courier.Proofs.Network.History

/-!
# Topics in a network of agents

Agents and lines share a hub. Agents come and go, are sent on errands, and
whatever may happen at the hub happens in between. A client of the hub may be
carried by more than one open connection: a connection that has not noticed the
end of its session carries on with the next session of that name. But who
carries a client does not change as long as the hub has it. Whoever stops
carrying it takes it along, and whoever begins finds the name free.

So if nobody else carries the client of an agent, nobody else has carried it
in its whole life, and all that was ever done to its groups was done by the
agent.
-/

namespace Courier

namespace Agent

variable {s : Stage Agent Hub}

/-- The topics that an agent remembers after an errand. -/
def remembered (topics : Std.ExtTreeSet String) :
    Relay.Errand → Std.ExtTreeSet String
  | .subscribe topic => topics.insert topic
  | .unsubscribe topic => topics.erase topic
  | _ => topics

/-- What an errand says about a topic. -/
def told? (topic : String) : Relay.Errand → Option Bool
  | .subscribe told => if told = topic then some true else none
  | .unsubscribe told => if told = topic then some false else none
  | _ => none

theorem mem_remembered {topics : Std.ExtTreeSet String} {topic : String}
    (e : Relay.Errand) :
    topic ∈ remembered topics e ↔
      told? topic e = some true ∨ told? topic e = none ∧ topic ∈ topics := by
  cases e with
  | subscribe told =>
      rw [remembered, Std.ExtTreeSet.mem_insert,
        Std.LawfulEqCmp.compare_eq_iff_eq, told?]
      split
      · next h => simp [h]
      · next h => simp [h]
  | unsubscribe told =>
      rw [remembered, Std.ExtTreeSet.mem_erase, Ne,
        Std.LawfulEqCmp.compare_eq_iff_eq, told?]
      split
      · next h => simp [h]
      · next h => simp [h]
  | _ => simp [remembered, told?]

theorem run_kept (e : Relay.Errand) (s : Stage Agent Hub) :
    Task.Ends (e.run Hub.transport) s fun _ s' =>
      s'.self.topics = remembered s.self.topics e ∧ Kept s s' := by
  have hkept : ∀ {s' : Stage Agent Hub}, Tended id s s' →
      s'.self.topics = s.self.topics ∧ Kept s s' :=
    fun h => ⟨h.topics, h.kept⟩
  cases e with
  | none => exact hkept (.refl s)
  | setAddress address => exact hkept (setAddress_tended address s)
  | setClient client => exact hkept (setClient_tended client s)
  | askAddress => exact hkept (address_tended s)
  | disconnect => exact hkept (disconnect_tended s)
  | subscribe topic => exact subscribe_kept topic s
  | unsubscribe topic => exact unsubscribe_kept topic s
  | poll => exact hkept (poll_tended s)
  | send m => exact hkept (send_tended m s)

end Agent

namespace Network

variable {n n' : Network Agent Hub}

/-! ## Who carries a client -/

/-- Who can hold a connection. -/
inductive Holder where
  | agent (i : Nat)
  | line (name : String)
  deriving DecidableEq

/-- The private group that an open connection of a holder carries. -/
def carried? (n : Network Agent Hub) : Holder → Option String
  | .agent i => (n.party? i).bind Agent.own?
  | .line name => n.lines.own? name

/-- The agent of a number alone carries a client. -/
def Alone (n : Network Agent Hub) (i : Nat) (x : String) : Prop :=
  ∀ holder, holder ≠ .agent i → n.carried? holder ≠ some x

/-- The holders that there are can be looked through. -/
theorem alone_of {i : Nat} {x : String}
    (hagents : ∀ j < n.parties.length, j ≠ i →
      (n.party? j).bind Agent.own? ≠ some x)
    (hlines : ∀ p ∈ n.lines.toList, p.2.carried? ≠ some x) : n.Alone i x := by
  rintro (j | name) hne
  · by_cases hj : j < n.parties.length
    · exact hagents j hj fun h => hne (congrArg Holder.agent h)
    · rw [carried?, party?_of_length_le (Nat.le_of_not_lt hj)]
      exact (Option.some_ne_none x).symm
  · rw [carried?, Lines.own?]
    cases hc : n.lines[name]? with
    | none => exact (Option.some_ne_none x).symm
    | some c =>
        exact hlines (name, c) (Std.ExtTreeMap.mem_toList_iff_getElem?_eq_some.mpr hc)

/-- One holder of a connection did something, or nobody did. -/
structure Moved (holder : Holder) (n n' : Network Agent Hub) : Prop where
  parties : ∀ i, holder ≠ .agent i → n'.party? i = n.party? i
  lines : ∀ name, holder ≠ .line name → n'.lines[name]? = n.lines[name]?
  spares : n.site.net.Spares n'.site.net (n.carried? holder)
    (n'.carried? holder)

/-- An agent has become another one, or has come or gone. -/
theorem Moved.of_agent {i : Nat} {a? : Option Agent}
    (hparty : ∀ j, n'.party? j = if i = j then a? else n.party? j)
    (hlines : n'.lines = n.lines)
    (hspares : n.site.net.Spares n'.site.net ((n.party? i).bind Agent.own?)
      (a?.bind Agent.own?)) : Moved (.agent i) n n' where
  parties := fun j hj => by
    rw [hparty, if_neg]
    rintro rfl
    exact hj rfl
  lines := fun name _ => by rw [hlines]
  spares := by
    rw [carried?, carried?, hparty, if_pos rfl]
    exact hspares

theorem Moved.carried?_other {holder other : Holder} (h : Moved holder n n')
    (hne : other ≠ holder) : n'.carried? other = n.carried? other := by
  cases other with
  | agent i => rw [carried?, carried?, h.parties i hne.symm]
  | line name => rw [carried?, carried?, Lines.own?, Lines.own?,
      h.lines name hne.symm]

theorem Moved.alone {i : Nat} (h : Moved (.agent i) n n') {x : String}
    (hx : n'.Alone i x) : n.Alone i x := by
  intro holder hne
  rw [← h.carried?_other hne]
  exact hx holder hne

/-- The agents of a network keep their topics and groups together. -/
structure InStep (n : Network Agent Hub) : Prop where
  ready : ∀ i a, n.party? i = some a → a.Ready
  faithful : ∀ i a, n.party? i = some a →
    (∀ x, a.own? = some x → n.Alone i x) → a.Faithful n.site.net

/-- What one holder does leaves all agents in step, if it is not an agent that
gets out of step itself. -/
theorem InStep.moved {holder : Holder} (h : InStep n) (hm : Moved holder n n')
    (hself : ∀ i a, holder = .agent i → n'.party? i = some a →
      a.Ready ∧ ((∀ x, a.own? = some x → n'.Alone i x) →
        a.Faithful n'.site.net)) : InStep n' := by
  constructor
  · intro i a ha
    by_cases hi : holder = .agent i
    · exact (hself i a hi ha).1
    · exact h.ready i a (hm.parties i hi ▸ ha)
  · intro i a ha halone x groups hx hgroups
    by_cases hi : holder = .agent i
    · exact (hself i a hi ha).2 halone x groups hx hgroups
    · have ha' : n.party? i = some a := hm.parties i hi ▸ ha
      -- The mover does not carry the client, so it spared it and did not carry
      -- it before.
      obtain hgone | ⟨hsame, hnot⟩ := hm.spares x (halone x hx holder hi)
      · rw [hgone] at hgroups
        cases hgroups
      · refine h.faithful i a ha' (fun x' hx' other hne => ?_) x groups hx
          (hsame ▸ hgroups)
        obtain rfl : x = x' := Option.some.inj (hx.symm.trans hx')
        by_cases hother : other = holder
        · rw [hother]
          exact hnot
        · rw [← hm.carried?_other hother]
          exact halone x hx other hne

/-! ## Turns -/

/-- What happens in a network of agents: an agent comes, is sent on an errand
or goes; something is done on a line or at the hub; time passes. -/
inductive Turn where
  | enter (profile : Profile)
  | errand (i : Nat) (e : Relay.Errand)
  | retire (i : Nat)
  | line (name : String) (a : Lines.Act)
  | refuse (on : Bool)
  | dropAll
  | inject (d : Delivery)
  | wait (ns : Nat)

/-- Takes a turn, and tells whether there was the agent that it is about. -/
def Turn.take (turn : Turn) : StateM (Network Agent Hub) Bool := fun n =>
  match turn with
  | .enter profile => (true, n.add { profile })
  | .errand i e =>
    match n.act i (e.run Hub.transport) with
    | some (_, n) => (true, n)
    | none => (false, n)
  | .retire i =>
    match n.act i (Agent.retire Hub.transport) with
    | some (_, n) => (true, n.remove i)
    | none => (false, n)
  | .line name a => (true, (n.onLines (Lines.perform name a)).2)
  | .refuse on => (true, n.tend fun h => { value := (), net := h.refuse on })
  | .dropAll => (true, n.tend Hub.dropAll)
  | .inject d => (true, n.tend fun h => { value := (), net := h.pass d })
  | .wait ns => (true, n.advance ns)

/-- What a turn says about a topic to the agent of a number. -/
def Turn.told? (i : Nat) (topic : String) : Turn → Option Bool
  | .errand j e => if j = i then Agent.told? topic e else none
  | _ => none

/-- What a turn comes to. -/
inductive Turned (n : Network Agent Hub) :
    Turn → Bool → Network Agent Hub → Prop where
  | enter (profile : Profile) :
    Turned n (.enter profile) true (n.add { profile })
  | nobody (turn : Turn) : Turned n turn false n
  | errand {i : Nat} {e : Relay.Errand} {a : Agent} {s' : Stage Agent Hub}
    (party : n.party? i = some a)
    (topics : s'.self.topics = Agent.remembered a.topics e)
    (kept : Agent.Kept { self := a, site := n.site } s') :
    Turned n (.errand i e) true (n.after i s')
  | retire {i : Nat} {a : Agent} {s' : Stage Agent Hub}
    (party : n.party? i = some a)
    (spares : n.site.net.Spares s'.site.net a.own? none) :
    Turned n (.retire i) true ((n.after i s').remove i)
  | line {name : String} {a : Lines.Act} {s' : Stage Lines Hub}
    (tended : Lines.Tended name { self := n.lines, site := n.site } s') :
    Turned n (.line name a) true { n with lines := s'.self, site := s'.site }
  | hub {turn : Turn} {site : Site Hub}
    (told : ∀ i topic, turn.told? i topic = none)
    (groups : ∀ x, site.net.groups? x = none ∨
      site.net.groups? x = n.site.net.groups? x) :
    Turned n turn true { n with site }

theorem take_turned (turn : Turn) (n : Network Agent Hub) :
    Turned n turn (turn.take.run n).1 (turn.take.run n).2 := by
  cases turn with
  | enter profile => exact .enter profile
  | errand i e =>
      simp only [Turn.take, StateT.run]
      cases ha : n.party? i with
      | none =>
          rw [act_of_no_party ha]
          exact .nobody _
      | some a =>
          have hact := act_of_party? ha (e.run Hub.transport)
          have hkept := Agent.run_kept e { self := a, site := n.site }
          unfold Task.Ends at hact hkept
          rw [hact]
          exact .errand ha hkept.1 hkept.2
  | retire i =>
      simp only [Turn.take, StateT.run]
      cases ha : n.party? i with
      | none =>
          rw [act_of_no_party ha]
          exact .nobody _
      | some a =>
          have hact := act_of_party? ha (Agent.retire Hub.transport)
          have hleaves := Agent.disconnect_leaves { self := a, site := n.site }
          unfold Task.Ends at hact hleaves
          rw [hact]
          exact .retire ha hleaves.2.2
  | line name a => exact .line (Lines.perform_tended a name _)
  | refuse on => exact .hub (fun _ _ => rfl) fun _ => .inr rfl
  | dropAll => exact .hub (fun _ _ => rfl) fun _ => .inl Hub.groups?_dropAll
  | inject d => exact .hub (fun _ _ => rfl) fun _ => .inr (Hub.groups?_pass d)
  | wait ns => exact .hub (fun _ _ => rfl) fun _ => .inr rfl

/-! ## What turns keep -/

theorem party?_remove (i j : Nat) :
    (n.remove i).party? j = if i = j then none else n.party? j := by
  rw [party?, remove, List.getElem?_set]
  split
  · split <;> rfl
  · rfl

theorem InStep.turned {turn : Turn} {answer : Bool} (h : InStep n)
    (ht : Turned n turn answer n') : InStep n' := by
  cases ht with
  | enter profile =>
      have hm : Moved (.agent n.parties.length) n (n.add { profile }) := by
        refine .of_agent (party?_add _ _) rfl ?_
        rw [party?_of_length_le (Nat.le_refl n.parties.length)]
        exact .of_same (fun _ => rfl) none
      refine h.moved hm fun i a hi ha => ?_
      cases hi
      rw [party?_add, if_pos rfl, Option.some.injEq] at ha
      rw [← ha]
      exact ⟨.of_no_session rfl, fun _ x groups hx => nomatch hx⟩
  | nobody => exact h
  | @errand i e a s' ha _ hkept =>
      have hafter := party?_after ha s'
      have hm : Moved (.agent i) n (n.after i s') := by
        refine .of_agent hafter rfl ?_
        rw [ha]
        exact hkept.spares
      refine h.moved hm fun j a' hj ha' => ?_
      cases hj
      rw [hafter, if_pos rfl, Option.some.injEq] at ha'
      rw [← ha']
      refine ⟨hkept.ready (h.ready i a ha), fun halone => hkept.faithful ?_⟩
      intro hsame
      exact h.faithful i a ha fun x hx => hm.alone (halone x (hsame.trans hx))
  | @retire i a s' ha hspares =>
      have hparty : ∀ j, ((n.after i s').remove i).party? j =
          if i = j then none else n.party? j := fun j => by
        rw [party?_remove, party?_after ha]
        split <;> rfl
      have hm : Moved (.agent i) n ((n.after i s').remove i) := by
        refine .of_agent hparty rfl ?_
        rw [ha]
        exact hspares
      refine h.moved hm fun j a' hj ha' => ?_
      cases hj
      rw [hparty, if_pos rfl] at ha'
      cases ha'
  | @line name a s' htended =>
      have hm : Moved (.line name) n { n with lines := s'.self, site := s'.site } :=
        ⟨fun _ _ => rfl, fun other hne => htended.others other (by simpa using hne),
          htended.spares⟩
      exact h.moved hm nofun
  | @hub _ site _ hgroups =>
      have hm : Moved (.line "") n { n with site } :=
        ⟨fun _ _ => rfl, fun _ _ => rfl,
          fun x hx => (hgroups x).imp_right fun hsame => ⟨hsame, hx⟩⟩
      exact h.moved hm nofun

/-- What a turn tells the agent of a number, if it is there, about a topic. -/
def heard? (turn : Turn) (answer : Bool) (i : Nat) (topic : String) :
    Option Bool :=
  if answer then turn.told? i topic else none

section Turned

variable {turn : Turn} {answer : Bool} {i : Nat} {topic : String}

theorem Turned.mem_topics (ht : Turned n turn answer n') {a' : Agent}
    (ha' : n'.party? i = some a') :
    topic ∈ a'.topics ↔ heard? turn answer i topic = some true ∨
      heard? turn answer i topic = none ∧
        ∃ a, n.party? i = some a ∧ topic ∈ a.topics := by
  have hsame : n.party? i = some a' → (topic ∈ a'.topics ↔
      ∃ a, n.party? i = some a ∧ topic ∈ a.topics) := fun h => by simp [h]
  cases ht with
  | enter profile =>
      rw [party?_add] at ha'
      split at ha'
      · next hi =>
          rw [← hi, party?_of_length_le (Nat.le_refl _), ← Option.some.inj ha']
          simp [heard?, Turn.told?]
      · rw [hsame ha']
        simp [heard?, Turn.told?]
  | nobody =>
      rw [hsame ha']
      simp [heard?]
  | @errand j e a s' ha htopics _ =>
      rw [party?_after ha] at ha'
      split at ha'
      · next hi =>
          rw [← Option.some.inj ha', htopics, Agent.mem_remembered, ← hi, ha]
          simp [heard?, Turn.told?]
      · next hi =>
          rw [hsame ha']
          simp [heard?, Turn.told?, hi]
  | @retire j a s' ha _ =>
      rw [party?_remove, party?_after ha] at ha'
      split at ha'
      · cases ha'
      · rw [hsame ha']
        simp [heard?, Turn.told?]
  | line =>
      rw [hsame ha']
      simp [heard?, Turn.told?]
  | hub htold =>
      rw [hsame ha']
      simp [heard?, htold]

theorem Turned.length_le (ht : Turned n turn answer n') :
    n.parties.length ≤ n'.parties.length := by
  cases ht with
  | enter => simp [add]
  | retire => simp [remove, after]
  | errand => simp [after]
  | _ => exact Nat.le_refl _

theorem Turned.untold (ht : Turned n turn answer n')
    (hi : n.parties.length ≤ i) : heard? turn answer i topic = none := by
  cases ht with
  | errand ha =>
      have hne := Nat.ne_of_lt (Nat.lt_of_lt_of_le (lt_of_party? ha) hi)
      simp [heard?, Turn.told?, hne]
  | hub htold => simp [heard?, htold]
  | _ => rfl

theorem Turned.length_le_of_new (ht : Turned n turn answer n') {a' : Agent}
    (hnone : n.party? i = none) (ha' : n'.party? i = some a') :
    n.parties.length ≤ i := by
  have hold : n.party? i ≠ some a' := by simp [hnone]
  cases ht with
  | enter profile =>
      rw [party?_add] at ha'
      split at ha'
      · next hi => exact Nat.le_of_eq hi
      · exact absurd ha' hold
  | errand ha =>
      rw [party?_after ha] at ha'
      split at ha'
      · next hi =>
          rw [hi, hnone] at ha
          cases ha
      · exact absurd ha' hold
  | retire ha =>
      rw [party?_remove, party?_after ha] at ha'
      split at ha'
      · cases ha'
      · exact absurd ha' hold
  | _ => exact absurd ha' hold

end Turned

/-! ## Courses -/

/-- All that has happened in a network of agents. -/
abbrev Course := Run (Network Agent Hub) Turn Bool

/-- A hub where nobody has come yet. -/
def deserted (name : String) (limit : Nat) : Network Agent Hub where
  site := { net := { name, limit } }

def course (name : String) (limit : Nat) (turns : List Turn) : Course :=
  Run.of Turn.take (deserted name limit) turns

/-- What an agent was told about a topic at a moment, if it was there. -/
def toldAt? (i : Nat) (topic : String)
    (m : Moment (Network Agent Hub) Turn Bool) : Option Bool :=
  heard? m.turn m.answer i topic

/-- What an agent was told last about a topic: to subscribe or to
unsubscribe. -/
def Course.lastTold? (run : Course) (i : Nat) (topic : String) : Option Bool :=
  (run.past.filterMap (toldAt? i topic)).getLast?

theorem Course.lastTold?_take (run : Course) (turn : Turn) (i : Nat)
    (topic : String) :
    Course.lastTold? (run.take Turn.take turn) i topic =
      (toldAt? i topic (run.moment Turn.take turn)).or
        (run.lastTold? i topic) := by
  rw [lastTold?, Run.take, List.filterMap_append, List.getLast?_append]
  congr 1
  cases h : toldAt? i topic (run.moment Turn.take turn) <;> simp [h]

/-- The agents of a course remember what they were told. -/
structure Course.Remembered (run : Course) : Prop where
  topics : ∀ i a, run.state.party? i = some a → ∀ topic,
    topic ∈ a.topics ↔ run.lastTold? i topic = some true
  untold : ∀ i topic, run.state.parties.length ≤ i →
    run.lastTold? i topic = none

theorem Course.Remembered.take {run : Course} (h : run.Remembered)
    (turn : Turn) : Course.Remembered (run.take Turn.take turn) := by
  have hturned := take_turned turn run.state
  constructor
  · intro i a' ha' topic
    rw [run.lastTold?_take, Option.or_eq_some_iff, hturned.mem_topics ha']
    refine or_congr Iff.rfl (and_congr Iff.rfl ?_)
    cases ha : run.state.party? i with
    | some a => simp [h.topics i a ha topic]
    | none => simp [h.untold i topic (hturned.length_le_of_new ha ha')]
  · intro i topic hi
    have hlt := Nat.le_trans hturned.length_le hi
    rw [run.lastTold?_take, h.untold i topic hlt, Option.or_none]
    exact hturned.untold hlt

theorem course_remembered (name : String) (limit : Nat) (turns : List Turn) :
    (course name limit turns).Remembered := by
  refine Run.invariant (P := Course.Remembered) ?_ fun _ turn _ h => h.take turn
  exact ⟨fun i a ha => (by cases ha), fun _ _ _ => rfl⟩

theorem course_inStep (name : String) (limit : Nat) (turns : List Turn) :
    (course name limit turns).state.InStep := by
  refine Run.invariant (P := fun run : Course => run.state.InStep) ?_
    fun run turn _ h => h.turned (take_turned turn run.state)
  exact ⟨fun i a ha => (by cases ha), fun i a ha => (by cases ha)⟩

/-- Whatever has happened in a network of agents, and whatever of it failed: a
client that an agent carries, and nobody else, is in the groups that are named
by those topics of the agent that can name a group, and by no others. The
topics of an agent are those that it was last told to subscribe to. -/
theorem topics_agree_with_groups (name : String) (limit : Nat)
    (turns : List Turn) :
    let run := course name limit turns
    let n := run.state
    ∀ i a, n.party? i = some a →
      (∀ c, a.session = some c → c.address ∈ n.site.net.addresses →
        (∀ holder, holder ≠ .agent i → n.carried? holder ≠ some c.address) →
          ∀ g, c.address ∈ n.site.net.members g ↔
            g ∈ a.topics ∧ 1 ≤ g.utf8ByteSize ∧ g.utf8ByteSize ≤ 32) ∧
        ∀ topic, topic ∈ a.topics ↔ run.lastTold? i topic = some true := by
  intro run n i a ha
  have hinStep : n.InStep := course_inStep name limit turns
  refine ⟨fun c hc hclient halone g => ?_,
    (course_remembered name limit turns).topics i a ha⟩
  have hown : a.own? = some c.address := by
    rw [Agent.own?_of_session hc,
      Connection.carried?_of_open (hinStep.ready i a ha c hc)]
  obtain ⟨groups, hgroups⟩ : ∃ groups, n.site.net.groups? c.address = some groups :=
    Hub.exists_groups?_iff.mpr (Std.ExtTreeMap.mem_keys.mp hclient)
  have hmatches : Agent.Matches a.topics groups := by
    refine hinStep.faithful i a ha (fun x hx => ?_) c.address groups hown hgroups
    rw [hown, Option.some.injEq] at hx
    exact hx ▸ halone
  rw [Hub.mem_members_iff, hgroups, ← Hub.legalGroup_iff, ← hmatches]
  simp

/-- Two agents of one name. The session of the first ends unnoticed, and what
it is told then happens to the client of the second, until it disconnects and
takes that client along. A subscription is refused later and made up for. -/
def restlessTurns : List Turn :=
  [.enter { client := "box" }, .enter { client := "box" },
    .line "spare" (.connect "4803@localhost" "spare"),
    .errand 0 (.subscribe "news"), .errand 0 (.subscribe ""), .dropAll,
    .errand 1 (.subscribe "sport"), .errand 0 (.subscribe "late"),
    .errand 0 .disconnect, .refuse true, .errand 0 (.subscribe "later"),
    .errand 1 .poll, .refuse false, .errand 0 .poll,
    .errand 0 (.unsubscribe "late")]

theorem topics_agree_with_groups_restless :
    ∃ run, run = course "hub" 100 restlessTurns ∧
      ∃ a c, run.state.party? 0 = some a ∧ a.session = some c ∧
        c.address ∈ run.state.site.net.addresses ∧
        run.state.Alone 0 c.address ∧
        a.topics.toList = ["", "later", "news"] ∧
        (∀ g, c.address ∈ run.state.site.net.members g ↔
          g ∈ a.topics ∧ 1 ≤ g.utf8ByteSize ∧ g.utf8ByteSize ≤ 32) ∧
        ∀ topic, topic ∈ a.topics ↔ run.lastTold? 0 topic = some true := by
  obtain ⟨run, hrun⟩ : ∃ run, run = course "hub" 100 restlessTurns := ⟨_, rfl⟩
  obtain ⟨a, ha⟩ : ∃ a, run.state.party? 0 = some a :=
    Option.isSome_iff_exists.mp (by rw [hrun]; decide +kernel)
  have hsession : (run.state.party? 0).bind Agent.session =
      some ⟨"#box#hub", true⟩ := by rw [hrun]; decide +kernel
  have htopics : (run.state.party? 0).map (·.topics.toList) =
      some ["", "later", "news"] := by rw [hrun]; decide +kernel
  rw [ha, Option.bind_some] at hsession
  rw [ha, Option.map_some, Option.some.injEq] at htopics
  have hclient : "#box#hub" ∈ run.state.site.net.addresses := by
    rw [hrun]
    decide +kernel
  have halone : run.state.Alone 0 "#box#hub" := by
    rw [hrun]
    exact alone_of (by decide +kernel) (by decide +kernel)
  have h := topics_agree_with_groups "hub" 100 restlessTurns
  rw [← hrun] at h
  obtain ⟨hgroups, htold⟩ := h 0 a ha
  exact ⟨run, hrun, a, _, ha, hsession, hclient, halone, htopics,
    hgroups _ hsession hclient halone, htold⟩

end Network

end Courier
