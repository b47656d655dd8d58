import Courier.Proofs.Relay.Commands

/-!
# Commands in a network of relays

Relays and lines share a hub. Callers of the relays act, their workers take
single steps, and whatever may happen at the hub happens in between.

A relay sends its agent on one errand at most in each turn, so its network is
in step as that of its agents is: the client of an agent is in the groups that
the topics of the agent name, if nobody else carries it. And the topics are
those of the commands that were carried out, which are the accepted ones but
for those that are still queued.

A worker goes to sleep where it has found nothing to do, but a command may have
come in since it looked for one. What waits while it sleeps has come in so, and
if nothing has, the groups are those of all accepted commands.
-/

namespace Courier

namespace Network

/-! ## The agents of relays -/

def agents (n : Network Relay Hub) : Network Agent Hub where
  parties := n.parties.map (Option.map Relay.agent)
  lines := n.lines
  site := n.site

section Agents

variable {n : Network Relay Hub} {i : Nat} {r : Relay} {s' : Stage Relay Hub}

theorem party?_agents (n : Network Relay Hub) (i : Nat) :
    n.agents.party? i = (n.party? i).map Relay.agent := by
  rw [party?, party?, agents, List.getElem?_map]
  cases n.parties[i]? <;> rfl

theorem agents_add (n : Network Relay Hub) (r : Relay) :
    (n.add r).agents = n.agents.add r.agent := by
  rw [agents, add, add, List.map_append]
  rfl

theorem agents_after (n : Network Relay Hub) (i : Nat) (s' : Stage Relay Hub) :
    (n.after i s').agents =
      n.agents.after i { self := s'.self.agent, site := s'.site } := by
  rw [agents, after, after, List.map_set]
  rfl

/-- The clock and the journal do not count. -/
theorem InStep.of_net {n : Network Agent Hub} {s₁ : Stage Agent Hub}
    {site : Site Hub} (h : (n.after i s₁).InStep)
    (hnet : site.net = s₁.site.net) :
    (n.after i { self := s₁.self, site }).InStep := by
  have hturned : Turned (n.after i s₁) (.refuse true) true
      { n.after i s₁ with site } :=
    .hub (fun _ _ => rfl) fun x => .inr (by rw [hnet]; rfl)
  exact h.turned hturned

/-- What a relay does keeps the agents in step. -/
theorem InStep.perform (h : n.agents.InStep) (hr : n.party? i = some r)
    (a : Relay.Act) :
    Task.Ends (Relay.perform Hub.transport a) { self := r, site := n.site }
      fun _ s' =>
        s'.self.agent.topics =
            Agent.remembered r.agent.topics (Relay.errand r a) ∧
          (n.after i s').agents.InStep := by
  have hturned := Relay.perform_turned Hub.transport a
    { self := r, site := n.site }
  have hkept := Agent.run_kept (Relay.errand r a)
    { self := r.agent, site := n.site }
  unfold Task.Ends at hturned hkept ⊢
  obtain ⟨r', -, hleaves⟩ := hturned
  obtain ⟨htopics, hkept⟩ := hkept
  refine ⟨?_, ?_⟩
  · rw [hleaves.agent]
    exact htopics
  · rw [agents_after, hleaves.agent]
    refine InStep.of_net (h.turned (.errand ?_ htopics hkept)) hleaves.net
    rw [party?_agents, hr]
    rfl

end Agents

/-! ## Occasions -/

/-- What happens in a network of relays. -/
inductive Occasion where
  | enter (profile : Profile) (pace : Pace)
  /-- A caller acts, the worker takes a step, or time passes. -/
  | act (i : Nat) (a : Relay.Act)
  | line (name : String) (a : Lines.Act)
  | refuse (on : Bool)
  | dropAll
  | inject (d : Delivery)

def Occasion.take (o : Occasion) :
    StateM (Network Relay Hub) Relay.Answer := fun n =>
  match o with
  | .enter profile pace => (.done, n.add (Relay.new { profile } pace))
  | .act i a => (n.act i (Relay.perform Hub.transport a)).getD (.done, n)
  | .line name a => (.done, (n.onLines (Lines.perform name a)).2)
  | .refuse on => (.done, n.tend fun h => { value := (), net := h.refuse on })
  | .dropAll => (.done, n.tend Hub.dropAll)
  | .inject d => (.done, n.tend fun h => { value := (), net := h.pass d })

/-- Is this an act at the relay of a number? -/
def Occasion.actAt? (i : Nat) : Occasion → Option Relay.Act
  | .act j a => if j = i then some a else none
  | _ => none

abbrev Proceedings := Run (Network Relay Hub) Occasion Relay.Answer

/-- A hub where no relay has come yet. -/
def quiet (name : String) (limit : Nat) : Network Relay Hub where
  site := { net := { name, limit } }

def proceed (name : String) (limit : Nat) (occasions : List Occasion) :
    Proceedings :=
  Run.of Occasion.take (quiet name limit) occasions

/-- The command that a relay accepted at a moment. -/
def commandedAt (i : Nat)
    (m : Moment (Network Relay Hub) Occasion Relay.Answer) : List Command :=
  (m.turn.actAt? i).elim [] fun a => a.commanded m.answer

/-- The command that the agent of a relay was sent on at a moment. -/
def carriedOutAt (i : Nat)
    (m : Moment (Network Relay Hub) Occasion Relay.Answer) : List Command :=
  (m.turn.actAt? i).elim [] fun a =>
    (m.before.party? i).elim [] fun r => (Relay.errand r a).commands

/-- Did the worker of a relay look for a command and find none? -/
def looksInVainAt (i : Nat)
    (m : Moment (Network Relay Hub) Occasion Relay.Answer) : Bool :=
  (m.turn.actAt? i).any fun a => (m.before.party? i).any (·.looksInVain a)

namespace Proceedings

variable (run : Proceedings) (i : Nat)

/-- The commands that a relay has accepted so far. -/
def commanded : List Command :=
  run.past.flatMap (commandedAt i)

def carriedOut : List Command :=
  run.past.flatMap (carriedOutAt i)

/-- The commands that a relay has accepted since its worker last looked for one
and found none. -/
def unseen : List Command :=
  run.past.foldl (fun unseen m =>
    if looksInVainAt i m then [] else unseen ++ commandedAt i m) []

variable (o : Occasion)

theorem commanded_take :
    commanded (run.take Occasion.take o) i =
      run.commanded i ++ commandedAt i (run.moment Occasion.take o) := by
  rw [commanded, Run.take, List.flatMap_append, List.flatMap_singleton]
  rfl

theorem carriedOut_take :
    carriedOut (run.take Occasion.take o) i =
      run.carriedOut i ++ carriedOutAt i (run.moment Occasion.take o) := by
  rw [carriedOut, Run.take, List.flatMap_append, List.flatMap_singleton]
  rfl

theorem unseen_take :
    unseen (run.take Occasion.take o) i =
      if looksInVainAt i (run.moment Occasion.take o) then []
      else run.unseen i ++ commandedAt i (run.moment Occasion.take o) := by
  rw [unseen, Run.take, List.foldl_append]
  rfl

end Proceedings

/-! ## What occasions keep -/

/-- What an occasion makes of the relay of a number and of the lists about
it. -/
inductive Attended (i : Nat)
    (m : Moment (Network Relay Hub) Occasion Relay.Answer) : Prop where
  /-- Nothing has happened to the relay, if there is one. -/
  | untouched (same : m.after.party? i = m.before.party? i)
    (commanded : commandedAt i m = []) (carriedOut : carriedOutAt i m = [])
    (seen : looksInVainAt i m = false)
  | came {profile : Profile} {pace : Pace}
    (free : m.before.party? i = none)
    (came : m.after.party? i = some (Relay.new { profile } pace))
    (commanded : commandedAt i m = []) (carriedOut : carriedOutAt i m = [])
    (seen : looksInVainAt i m = false)
  | acted {r r' : Relay}
    (before : m.before.party? i = some r) (after : m.after.party? i = some r')
    (queue : r.commands.items ++ commandedAt i m =
      carriedOutAt i m ++ r'.commands.items)
    (topics : r'.agent.topics =
      (carriedOutAt i m).foldl Command.remember r.agent.topics)
    (found : Relay.FoundNone r'.phase → looksInVainAt i m = true ∧
        r'.commands.items = [] ∨
      looksInVainAt i m = false ∧ Relay.FoundNone r.phase ∧
        carriedOutAt i m = [])

theorem Attended.of_not_act {i : Nat}
    {m : Moment (Network Relay Hub) Occasion Relay.Answer}
    (hact : m.turn.actAt? i = none)
    (hsame : m.after.party? i = m.before.party? i) : Attended i m := by
  refine .untouched hsame ?_ ?_ ?_
  · rw [commandedAt, hact, Option.elim_none]
  · rw [carriedOutAt, hact, Option.elim_none]
  · rw [looksInVainAt, hact, Option.any_none]

theorem attended_act {n : Network Relay Hub} {i : Nat} {r : Relay}
    (h : n.agents.InStep) (hr : n.party? i = some r) (a : Relay.Act) :
    Task.Ends (Relay.perform Hub.transport a) { self := r, site := n.site }
      fun answer s' => Attended i
        { before := n, turn := .act i a, answer, after := n.after i s' } := by
  have htopics := h.perform hr a
  have hqueue := Relay.perform_commands Hub.transport a
    { self := r, site := n.site }
  have hfound := Relay.perform_foundNone Hub.transport a
    { self := r, site := n.site }
  unfold Task.Ends at htopics hqueue hfound ⊢
  generalize StateT.run (Relay.perform Hub.transport a) _ = ended
    at htopics hqueue hfound ⊢
  obtain ⟨answer, s'⟩ := ended
  have hact : (Occasion.act i a).actAt? i = some a := if_pos rfl
  refine .acted hr ((party?_after hr s' i).trans (if_pos rfl)) ?_ ?_ ?_
  all_goals
    simp only [commandedAt, carriedOutAt, looksInVainAt, hact, hr,
      Option.elim_some, Option.any_some]
  · exact hqueue
  · rw [htopics.1, Relay.Errand.remembered_eq]
  · intro hnone
    cases hlooks : r.looksInVain a with
    | true =>
        obtain ⟨hempty, herrand, hcommanded⟩ :=
          Relay.commands_of_looksInVain hlooks
        simp only at hqueue
        rw [hempty, herrand, hcommanded] at hqueue
        exact .inl ⟨rfl, hqueue.symm⟩
    | false =>
        have hbefore := (hfound hnone).resolve_left (by simp [hlooks])
        exact .inr ⟨rfl, hbefore,
          Relay.errand_commands_of_foundNone hbefore a⟩

/-- The agents of a network of relays stay in step, and every relay is attended
to. -/
theorem take_attended {run : Proceedings} (h : run.state.agents.InStep)
    (o : Occasion) :
    (run.take Occasion.take o).state.agents.InStep ∧
      ∀ i, Attended i (run.moment Occasion.take o) := by
  cases o with
  | enter profile pace =>
      refine ⟨?_, fun i => ?_⟩
      · refine (congrArg InStep (agents_add _ _)).mpr ?_
        exact h.turned (.enter profile)
      · let m := run.moment Occasion.take (.enter profile pace)
        have hparty : m.after.party? i = if run.state.parties.length = i then
            some (Relay.new { profile } pace) else run.state.party? i :=
          party?_add _ _ i
        by_cases hi : run.state.parties.length = i
        · rw [if_pos hi] at hparty
          exact .came (party?_of_length_le (Nat.le_of_eq hi)) hparty rfl rfl rfl
        · rw [if_neg hi] at hparty
          exact .of_not_act rfl hparty
  | act j a =>
      simp only [Run.take, Run.moment, Occasion.take, StateT.run]
      cases hr : run.state.party? j with
      | none =>
          rw [act_of_no_party hr]
          refine ⟨h, fun i => ?_⟩
          by_cases hj : j = i
          · subst hj
            refine .untouched rfl ?_ ?_ ?_
            all_goals
              simp [commandedAt, carriedOutAt, looksInVainAt, Occasion.actAt?,
                hr, Relay.Act.commanded_done]
          · exact .of_not_act (if_neg hj) rfl
      | some r =>
          have hact := act_of_party? hr (Relay.perform Hub.transport a)
          have hkept := h.perform hr a
          have hattended := attended_act h hr a
          unfold Task.Ends at hact hkept hattended
          rw [hact, Option.getD_some]
          refine ⟨hkept.2, fun i => ?_⟩
          by_cases hj : j = i
          · subst hj
            exact hattended
          · exact .of_not_act (if_neg hj)
              ((party?_after hr _ i).trans (if_neg hj))
  | line name a =>
      exact ⟨h.turned (take_turned (.line name a) run.state.agents),
        fun i => .of_not_act rfl rfl⟩
  | refuse on =>
      exact ⟨h.turned (take_turned (.refuse on) run.state.agents),
        fun i => .of_not_act rfl rfl⟩
  | dropAll =>
      exact ⟨h.turned (take_turned .dropAll run.state.agents),
        fun i => .of_not_act rfl rfl⟩
  | inject d =>
      exact ⟨h.turned (take_turned (.inject d) run.state.agents),
        fun i => .of_not_act rfl rfl⟩

/-! ## Proceedings -/

/-- What lists of commands tell about a relay, if it is there. -/
structure Tracked (party? : Option Relay)
    (commanded carriedOut unseen : List Command) : Prop where
  absent : party? = none → commanded = [] ∧ carriedOut = [] ∧ unseen = []
  queue : ∀ r, party? = some r → commanded = carriedOut ++ r.commands.items
  topics : ∀ r, party? = some r →
    r.agent.topics = carriedOut.foldl Command.remember ∅
  unseen : ∀ r, party? = some r → Relay.FoundNone r.phase →
    r.commands.items = unseen

theorem Tracked.none : Tracked none [] [] [] where
  absent := fun _ => ⟨rfl, rfl, rfl⟩
  queue := fun r h => absurd h.symm (Option.some_ne_none r)
  topics := fun r h => absurd h.symm (Option.some_ne_none r)
  unseen := fun r h => absurd h.symm (Option.some_ne_none r)

def Proceedings.Tracks (run : Proceedings) (i : Nat) : Prop :=
  Tracked (run.state.party? i) (run.commanded i) (run.carriedOut i)
    (run.unseen i)

theorem Proceedings.Tracks.take {run : Proceedings} {i : Nat}
    (h : run.Tracks i) {o : Occasion}
    (ha : Attended i (run.moment Occasion.take o)) :
    Proceedings.Tracks (run.take Occasion.take o) i := by
  rw [Tracks, commanded_take, carriedOut_take, unseen_take]
  cases ha with
  | untouched hsame hnone hnone' hlooks =>
      rw [hnone, hnone', hlooks, if_neg Bool.false_ne_true, List.append_nil,
        List.append_nil, List.append_nil,
        show (run.take Occasion.take o).state.party? i = run.state.party? i from
          hsame]
      exact h
  | came hfree hcame hnone hnone' hlooks =>
      obtain ⟨hcommanded, hcarriedOut, hunseen⟩ := h.absent hfree
      rw [hnone, hnone', hlooks, hcommanded, hcarriedOut, hunseen,
        show (run.take Occasion.take o).state.party? i = _ from hcame]
      refine ⟨nofun, ?_, ?_, ?_⟩
      · rintro _ ⟨⟩
        rfl
      · rintro _ ⟨⟩
        rfl
      · rintro _ ⟨⟩ hfound
        exact hfound.elim
  | @acted r r' hbefore hafter hqueue htopics hfound =>
      rw [show (run.take Occasion.take o).state.party? i = _ from hafter]
      refine ⟨nofun, ?_, ?_, ?_⟩
      · rintro _ ⟨⟩
        rw [h.queue r hbefore, List.append_assoc, hqueue, List.append_assoc]
      · rintro _ ⟨⟩
        rw [List.foldl_append, ← h.topics r hbefore, htopics]
      · rintro _ ⟨⟩ hnone
        obtain ⟨hlooks, hempty⟩ | ⟨hlooks, hbefore', hnothing⟩ := hfound hnone
        · rw [hlooks, if_pos rfl, hempty]
        · rw [hlooks, ← h.unseen r hbefore hbefore', hqueue, hnothing]
          rfl

theorem proceed_inStep (name : String) (limit : Nat)
    (occasions : List Occasion) :
    (proceed name limit occasions).state.agents.InStep := by
  refine Run.invariant (P := fun run : Proceedings =>
    run.state.agents.InStep) ?_ fun run o _ h => (take_attended h o).1
  exact ⟨fun i a ha => (by cases ha), fun i a ha => (by cases ha)⟩

theorem proceed_tracks (name : String) (limit : Nat)
    (occasions : List Occasion) (i : Nat) :
    (proceed name limit occasions).Tracks i := by
  refine (Run.invariant (P := fun run : Proceedings =>
    run.state.agents.InStep ∧ run.Tracks i) ⟨?_, ?_⟩ fun run o _ h => ?_).2
  · exact ⟨fun i a ha => (by cases ha), fun i a ha => (by cases ha)⟩
  · exact Tracked.none
  · have htake := take_attended h.1 o
    exact ⟨htake.1, h.2.take (htake.2 i)⟩

/-! ## Workers that are left alone -/

theorem after_self {ρ σ : Type} {n : Network ρ σ} {i : Nat} {party : ρ}
    (h : n.party? i = some party) :
    n.after i { self := party, site := n.site } = n := by
  have hi := lt_of_party? h
  have hparty : n.parties[i] = some party := by
    rw [party?, List.getElem?_eq_getElem hi] at h
    exact h
  rw [after, ← hparty, List.set_getElem_self]

/-- A task that changes nothing. -/
theorem act_of_same {ρ σ α : Type} {n : Network ρ σ} {i : Nat} {party : ρ}
    (h : n.party? i = some party) (x : Task ρ σ α) {a : α}
    (hx : x.run { self := party, site := n.site } =
      (a, { self := party, site := n.site })) : n.act i x = some (a, n) := by
  have hact := act_of_party? h x
  unfold Task.Ends at hact
  rw [hact, hx, after_self h]

theorem after_after {ρ σ : Type} (n : Network ρ σ) (i : Nat)
    (s s' : Stage ρ σ) : (n.after i s).after i s' = n.after i s' := by
  rw [after, after, after, List.set_set]

theorem act_bind {ρ σ α β : Type} (n : Network ρ σ) (i : Nat)
    (x : Task ρ σ β) (f : β → Task ρ σ α) :
    n.act i (x >>= f) = (n.act i x).bind fun r => r.2.act i (f r.1) := by
  cases hparty : n.party? i with
  | none =>
      rw [act_of_no_party hparty, act_of_no_party hparty, Option.bind_none]
  | some party =>
      have hx := act_of_party? hparty x
      have hboth := act_of_party? hparty (x >>= f)
      rw [Task.ends_bind] at hboth
      unfold Task.Ends at hx hboth
      generalize StateT.run x _ = ended at hx hboth
      obtain ⟨b, s⟩ := ended
      have hafter : (n.after i s).party? i = some s.self :=
        (party?_after hparty s i).trans (if_pos rfl)
      have hf := act_of_party? hafter (f b)
      unfold Task.Ends at hf
      rw [hx, Option.bind_some, hf, hboth, after_after]
      rfl

/-- The proceedings after a worker has taken some steps. -/
def Proceedings.work (run : Proceedings) (i k : Nat) : Proceedings :=
  (List.replicate k (.act i .work)).foldl (Run.take Occasion.take) run

theorem act_step {run : Proceedings} {i : Nat} {r : Relay}
    (hr : run.state.party? i = some r) :
    run.state.act i (Relay.step Hub.transport) =
        some ((), (run.work i 1).state) ∧
      ∃ r', (run.work i 1).state.party? i = some r' := by
  have hstep := act_of_party? hr (Relay.step Hub.transport)
  have hwork := act_of_party? hr (Relay.perform Hub.transport .work)
  have hstate : (run.work i 1).state = ((run.state.act i
      (Relay.perform Hub.transport .work)).getD (.done, run.state)).2 := rfl
  unfold Task.Ends at hstep hwork
  rw [hstate, hwork, Option.getD_some]
  exact ⟨hstep, _, (party?_after hr _ i).trans (if_pos rfl)⟩

/-- A worker that goes on until it rests takes some number of steps. -/
theorem act_run (fuel : Nat) {run : Proceedings} {i : Nat} {r : Relay}
    (hr : run.state.party? i = some r) :
    ∃ k, run.state.act i (Relay.run Hub.transport fuel) =
      some ((), (run.work i k).state) := by
  induction fuel generalizing run r with
  | zero => exact ⟨0, act_of_same hr (pure ()) rfl⟩
  | succ fuel ih =>
      rw [Relay.run, act_bind, act_of_same hr Task.self rfl, Option.bind_some]
      cases r.isAtRest with
      | true => exact ⟨0, act_of_same hr (pure ()) rfl⟩
      | false =>
          simp only [Bool.false_eq_true, if_false]
          obtain ⟨hstep, r', hr'⟩ := act_step hr
          obtain ⟨k, hrun⟩ := ih hr'
          rw [act_bind, hstep, Option.bind_some, hrun]
          exact ⟨k + 1, rfl⟩

/-- A worker that wakes and goes on until it sleeps has taken some number of
steps, and leaves no command behind. -/
theorem act_settle {run : Proceedings} {i : Nat} {r : Relay}
    (hr : run.state.party? i = some r) (hupToDate : r.UpToDate) :
    ∃ k r', run.state.act i (Relay.settle Hub.transport) =
        some ((), (run.work i k).state) ∧
      (run.work i k).state.party? i = some r' ∧
      (r'.phase = .idling → r'.commands.items = []) := by
  obtain ⟨k, hsettle⟩ : ∃ k, run.state.act i (Relay.settle Hub.transport) =
      some ((), (run.work i k).state) := by
    obtain ⟨hstep, r', hr'⟩ := act_step hr
    rw [Relay.settle, act_bind, hstep, Option.bind_some, act_bind,
      act_of_same hr' get rfl, Option.bind_some]
    obtain ⟨k, hrun⟩ := act_run _ hr'
    exact ⟨k + 1, hrun⟩
  have hact := act_of_party? hr (Relay.settle Hub.transport)
  have hleft := Relay.settle_upToDate Hub.transport
    (s := { self := r, site := run.state.site }) hupToDate
  unfold Task.Ends at hact hleft
  generalize StateT.run (Relay.settle Hub.transport) _ = ended at hact hleft
  rw [hsettle, Option.some.injEq, Prod.mk.injEq] at hact
  refine ⟨k, ended.2.self, hsettle, ?_, fun hidle => hleft ?_⟩
  · rw [hact.2, party?_after hr, if_pos rfl]
  · rw [hidle]
    trivial

/-- Steps accept no command. -/
theorem Proceedings.commanded_work (run : Proceedings) (i k : Nat) :
    (run.work i k).commanded i = run.commanded i := by
  induction k generalizing run with
  | zero => rfl
  | succ k ih =>
      refine (ih (run.take Occasion.take (.act i .work))).trans ?_
      rw [commanded_take, commandedAt]
      simp [Run.moment, Occasion.actAt?, Relay.Act.commanded]

theorem proceed_work (name : String) (limit : Nat) (occasions : List Occasion)
    (i k : Nat) :
    proceed name limit (occasions ++ List.replicate k (.act i .work)) =
      (proceed name limit occasions).work i k :=
  List.foldl_append

/-! ## Groups -/

/-- The client of an agent that carries it alone is in the groups that the
agent's topics name. -/
theorem InStep.mem_members_iff {n : Network Agent Hub} {i : Nat} {a : Agent}
    {c : Connection} (h : n.InStep) (ha : n.party? i = some a)
    (hc : a.session = some c) (hclient : c.address ∈ n.site.net.addresses)
    (halone : n.Alone i c.address) (g : String) :
    c.address ∈ n.site.net.members g ↔
      g ∈ a.topics ∧ 1 ≤ g.utf8ByteSize ∧ g.utf8ByteSize ≤ 32 := by
  have hready := h.ready i a ha
  have hfaithful : a.Faithful n.site.net := by
    refine h.faithful i a ha fun x hx => ?_
    rw [Agent.own?_of_session hc,
      Connection.carried?_of_open (hready c hc), Option.some.injEq] at hx
    exact hx ▸ halone
  exact hfaithful.mem_members_iff hready hc hclient g

/-- The client of a relay, if nobody else carries it, is in the groups that
the commands subscribe to in the end. -/
def InGroups (n : Network Relay Hub) (i : Nat) (r : Relay)
    (commands : List Command) : Prop :=
  ∀ c, r.agent.session = some c → c.address ∈ n.site.net.addresses →
    (∀ holder, holder ≠ .agent i → n.agents.carried? holder ≠ some c.address) →
      ∀ g, c.address ∈ n.site.net.members g ↔
        Command.last? commands g = some true ∧
          1 ≤ g.utf8ByteSize ∧ g.utf8ByteSize ≤ 32

/-- What can be said of a relay and its commands at any time. -/
structure Follows (run : Proceedings) (i : Nat) (r : Relay) : Prop where
  queue : run.commanded i = run.carriedOut i ++ r.commands.items
  topics : r.agent.topics = (run.carriedOut i).foldl Command.remember ∅
  groups : run.state.InGroups i r (run.carriedOut i)
  /-- Whoever acts at the relay sends its agent on one errand at most. Nothing
  else is done to the agent, or at the hub. -/
  errands : ∀ m ∈ run.past, ∀ a r₀, m.turn = .act i a →
    m.before.party? i = some r₀ →
      Task.Ends ((Relay.errand r₀ a).run Hub.transport)
        { self := r₀.agent, site := m.before.site } fun _ s₁ =>
          (m.after.party? i).map Relay.agent = some s₁.self ∧
            m.after.site.net = s₁.site.net
  /-- What waits while the worker sleeps has come in since it looked. -/
  asleep : r.phase = .idling → r.commands.items = run.unseen i

theorem errand_of_act {run : Proceedings} {i : Nat} {r : Relay}
    (hr : run.state.party? i = some r) (a : Relay.Act) :
    Task.Ends ((Relay.errand r a).run Hub.transport)
      { self := r.agent, site := run.state.site } fun _ s₁ =>
        ((run.moment Occasion.take (.act i a)).after.party? i).map Relay.agent =
            some s₁.self ∧
          (run.moment Occasion.take (.act i a)).after.site.net =
            s₁.site.net := by
  have hturned := Relay.perform_turned Hub.transport a
    { self := r, site := run.state.site }
  have hact := act_of_party? hr (Relay.perform Hub.transport a)
  unfold Task.Ends at hturned hact ⊢
  obtain ⟨r', -, hleaves⟩ := hturned
  simp only [Run.moment, Occasion.take, StateT.run] at hact hleaves ⊢
  rw [hact, Option.getD_some, party?_after hr, if_pos rfl, Option.map_some,
    hleaves.agent]
  exact ⟨rfl, hleaves.net⟩

theorem proceed_follows {name : String} {limit : Nat}
    {occasions : List Occasion} {i : Nat} {r : Relay}
    (hr : (proceed name limit occasions).state.party? i = some r) :
    Follows (proceed name limit occasions) i r := by
  have htracks := proceed_tracks name limit occasions i
  refine ⟨htracks.queue r hr, htracks.topics r hr, ?_, ?_, fun hidle => ?_⟩
  · intro c hc hclient halone g
    have hparty : (proceed name limit occasions).state.agents.party? i =
        some r.agent := by rw [party?_agents, hr, Option.map_some]
    refine ((proceed_inStep name limit occasions).mem_members_iff hparty hc
      hclient halone g).trans ?_
    rw [htracks.topics r hr, Command.mem_foldl_remember]
  · refine Run.forall_past (fun run o a r₀ ho hr₀ => ?_) _ occasions
    obtain rfl : o = .act i a := ho
    exact errand_of_act hr₀ a
  · refine htracks.unseen r hr ?_
    rw [hidle]
    trivial

/-- If no command waits, the client is in the groups that all accepted commands
subscribe to in the end. -/
theorem Follows.inGroups {run : Proceedings} {i : Nat} {r : Relay}
    (h : Follows run i r) (hempty : r.commands.items = []) :
    run.state.InGroups i r (run.commanded i) := by
  rw [h.queue, hempty, List.append_nil]
  exact h.groups

/-- Whatever happens in a network of relays, a relay follows the commands that
it has accepted: they are carried out in their order, once, and there is always
just what the commands that were carried out have led to. If none has come in
between the worker's last look and its sleep, no command waits, and the client
is in the groups that all accepted commands subscribe to in the end. So it is
if the worker is left alone from when it wakes until it sleeps again. -/
theorem subscriptions_follow_commands (name : String) (limit : Nat)
    (occasions : List Occasion) (i : Nat) (r : Relay)
    (hr : (proceed name limit occasions).state.party? i = some r) :
    let run := proceed name limit occasions
    let worked k :=
      proceed name limit (occasions ++ List.replicate k (.act i .work))
    Follows run i r ∧
      (r.phase = .idling → run.unseen i = [] → r.commands.items = [] ∧
        run.state.InGroups i r (run.commanded i)) ∧
      (r.isAtRest = true ∨ r.phase = .starting → ∃ k r',
        run.state.act i (Relay.settle Hub.transport) =
          some ((), (worked k).state) ∧
        (worked k).state.party? i = some r' ∧
        (r'.phase = .idling → r'.commands.items = [] ∧
          (worked k).state.InGroups i r' (run.commanded i))) := by
  intro run worked
  have hfollows := proceed_follows hr
  refine ⟨hfollows, fun hidle hseen => ?_, fun hrests => ?_⟩
  · have hempty := (hfollows.asleep hidle).trans hseen
    exact ⟨hempty, hfollows.inGroups hempty⟩
  have hupToDate : r.UpToDate := by
    obtain hrests | hstarting := hrests
    · exact Relay.upToDate_of_isAtRest hrests
    · intro hnone
      rw [hstarting] at hnone
      exact hnone.elim
  obtain ⟨k, r', hsettle, hr', hleft⟩ := act_settle hr hupToDate
  have hworked : worked k = run.work i k := proceed_work name limit occasions i k
  refine ⟨k, r', ?_⟩
  rw [hworked]
  refine ⟨hsettle, hr', fun hidle => ⟨hleft hidle, ?_⟩⟩
  rw [← proceed_work] at hr'
  have hgroups := (proceed_follows hr').inGroups (hleft hidle)
  rwa [proceed_work, Proceedings.commanded_work] at hgroups

/-- A relay is renamed, and its session is lost and refused, while commands
wait. One command comes in just after the worker has found none, and one while
it sleeps. -/
def interrupted : List Occasion :=
  [.enter { client := "box" } { commands := 2, inbound := 1, outbound := 1 },
    .line "spare" (.connect "4803@localhost" "spare"),
    .act 0 (.subscribe "news"), .act 0 (.subscribe ""),
    .act 0 (.subscribe "late"), .act 0 .work, .act 0 .work, .act 0 .work,
    .dropAll, .refuse true, .act 0 (.setClient "crate")] ++
  List.replicate 8 (.act 0 .work) ++
  [.act 0 (.unsubscribe "news"), .act 0 .work, .act 0 .work, .refuse false,
    .act 0 (.subscribe "sport")]

theorem subscriptions_follow_commands_interrupted :
    ∃ run r, run = proceed "hub" 100 interrupted ∧
      run.state.party? 0 = some r ∧ r.phase = .idling ∧
      r.commands.items = [.unsubscribe "news", .subscribe "sport"] ∧
      Follows run 0 r ∧
      ∃ n r', run.state.act 0 (Relay.settle Hub.transport) = some ((), n) ∧
        n.party? 0 = some r' ∧ r'.commands.items = [] ∧
        ∀ g, "#crate#hub" ∈ n.site.net.members g ↔
          Command.last? (run.commanded 0) g = some true ∧
            1 ≤ g.utf8ByteSize ∧ g.utf8ByteSize ≤ 32 := by
  obtain ⟨run, hrun⟩ : ∃ run, run = proceed "hub" 100 interrupted := ⟨_, rfl⟩
  obtain ⟨r, hr⟩ : ∃ r, run.state.party? 0 = some r :=
    Option.isSome_iff_exists.mp (by rw [hrun]; decide +kernel)
  have hwaits : (run.state.party? 0).map
      (fun r => (r.phase, r.commands.items)) =
        some (.idling, [.unsubscribe "news", .subscribe "sport"]) := by
    rw [hrun]
    decide +kernel
  rw [hr, Option.map_some, Option.some.injEq, Prod.mk.injEq] at hwaits
  obtain ⟨hidle, hqueue⟩ := hwaits
  have hsettled : ∀ x ∈ run.state.act 0 (Relay.settle Hub.transport),
      (x.2.party? 0).map (fun r => (r.phase, r.agent.session)) =
          some (.idling, some ⟨"#crate#hub", true⟩) ∧
        "#crate#hub" ∈ x.2.site.net.addresses ∧
        (∀ j < x.2.agents.parties.length, j ≠ 0 →
          (x.2.agents.party? j).bind Agent.own? ≠ some "#crate#hub") ∧
        ∀ p ∈ x.2.agents.lines.toList, p.2.carried? ≠ some "#crate#hub" := by
    rw [hrun]
    decide +kernel
  have h := subscriptions_follow_commands "hub" 100 interrupted 0 r (hrun ▸ hr)
  rw [← hrun] at h
  obtain ⟨hfollows, -, hleft⟩ := h
  have hrests : r.isAtRest = true := by
    rw [Relay.isAtRest, Relay.sleep?, hidle]
    rfl
  obtain ⟨k, r', hact, hr', hafter⟩ := hleft (.inl hrests)
  obtain ⟨hparty, hclient, hagents, hlines⟩ := hsettled _ hact
  rw [hr', Option.map_some, Option.some.injEq, Prod.mk.injEq] at hparty
  obtain ⟨hempty, hgroups⟩ := hafter hparty.1
  have halone := alone_of hagents hlines
  have hmembers := hgroups _ hparty.2 hclient halone
  exact ⟨run, r, hrun, hr, hidle, hqueue, hfollows, _, r', hact, hr', hempty,
    hmembers⟩

/-- A command comes in when the worker has just found none. -/
def overlooked : List Occasion :=
  [.enter { client := "box" } {}, .act 0 (.subscribe "news")] ++
  List.replicate 7 (.act 0 .work) ++ [.act 0 (.unsubscribe "news"), .act 0 .work]

/-- The condition on the last look is needed. The worker goes to sleep over a
command that waits, and the client is in a group that it has been told to
leave. -/
theorem idles_over_command :
    ∃ before after : Proceedings, before = proceed "hub" 100 overlooked ∧
      after = before.take Occasion.take (.act 0 .work) ∧
      (before.state.party? 0).map Relay.phase = some (.sending false) ∧
      (after.state.party? 0).map (fun r => (r.phase, r.commands.items)) =
        some (.idling, [.unsubscribe "news"]) ∧
      Command.last? (after.commanded 0) "news" = some false ∧
      "#box#hub" ∈ after.state.site.net.members "news" :=
  ⟨_, _, rfl, rfl, by decide +kernel, by decide +kernel, by decide +kernel,
    by decide +kernel⟩

end Network

end Courier
