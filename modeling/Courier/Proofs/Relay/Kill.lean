import Courier.Proofs.Relay.Outbound

/-!
# Requests to stop

A request to stop waits until the worker looks, and the worker, once it has
seen one, never looks again. So a further request finds that one waits
already, or a worker that knows, or none at all. It is noted at most, and
nothing else comes of it.

To show this, two runs are compared that differ in such requests only. A task
does the same behind any journal, which `Task.Covers` says, and a task begun
by a relay whose worker knows that it must stop does the same whether or not
a request waits, which `Unmoved` says.
-/

namespace Courier

/-- What has been noted, but for requests to stop. -/
def Journal.unasked (j : Journal) : List Event :=
  j.toList.filter fun e => e ≠ .relay .killRequested

theorem unasked_append (j more : Journal) :
    Journal.unasked (j ++ more) = j.unasked ++ more.unasked := by
  simp [Journal.unasked]

theorem Transport.covers_id {σ : Type} (t : Transport σ) : t.Covers id t :=
  ⟨fun _ _ _ => rfl, fun _ _ _ => rfl, fun _ _ _ => rfl,
    fun _ _ _ _ _ _ => rfl, fun _ _ => rfl, fun _ _ => rfl, fun _ _ => rfl⟩

namespace Relay

variable {σ α β : Type}

/-- Does the worker know that it must stop, or does a request wait? -/
def told (r : Relay) : Bool :=
  r.stopping || r.killRequested

theorem stopping_looked (r : Relay) : r.looked.stopping = r.told := by
  rw [looked, told]
  cases h : r.stopping
  · rfl
  · exact h

theorem told_looked {r : Relay} (h : r.told = true) : r.looked.told = true := by
  rw [told, stopping_looked, h, Bool.true_or]

/-! ## Tasks of a worker that knows -/

/-- The stage, with a request that waits or with none. -/
def asked (s : Stage Relay σ) (request : Bool) : Stage Relay σ :=
  { s with self := { s.self with killRequested := request } }

/-- If the worker knows that it must stop, the task does the same whether or not
a request waits, and leaves the request alone. -/
def Unmoved (x : Task Relay σ α) : Prop :=
  ∀ (s : Stage Relay σ) (request : Bool), s.self.stopping = true →
    x.run (asked s request) = ((x.run s).1, asked (x.run s).2 request) ∧
      (x.run s).2.self.stopping = true

theorem Unmoved.pure (a : α) : Unmoved (σ := σ) (Pure.pure a) :=
  fun _ _ hstopping => ⟨rfl, hstopping⟩

theorem Unmoved.bind {x : Task Relay σ β} {k : β → Task Relay σ α}
    (h : Unmoved x) (hk : ∀ b, Unmoved (k b)) : Unmoved (x >>= k) := by
  intro s request hstopping
  obtain ⟨hrun, hstopping'⟩ := h s request hstopping
  show (k (x.run (asked s request)).1).run (x.run (asked s request)).2 = _ ∧ _
  rw [hrun]
  exact hk _ _ request hstopping'

theorem Unmoved.map {x : Task Relay σ β} (f : β → α) (h : Unmoved x) :
    Unmoved (f <$> x) :=
  h.bind fun b => .pure (f b)

/-- To look at the relay moves a task only if it looks at the request. -/
theorem Unmoved.self_bind {k : Relay → Task Relay σ α}
    (hsame : ∀ r request, k { r with killRequested := request } = k r)
    (hk : ∀ r, Unmoved (k r)) : Unmoved (Task.self >>= k) := by
  intro s request hstopping
  show (k { s.self with killRequested := request }).run
    (asked s request) = _ ∧ _
  rw [hsame]
  exact hk s.self s request hstopping

theorem unmoved_now : Unmoved (σ := σ) Task.now :=
  fun _ _ hstopping => ⟨rfl, hstopping⟩

theorem unmoved_change {f : Relay → Relay}
    (hsame : ∀ r request, f { r with killRequested := request } =
      { f r with killRequested := request })
    (hstops : ∀ r, r.stopping = true → (f r).stopping = true) :
    Unmoved (σ := σ) (Task.change f) := by
  intro s request hstopping
  refine ⟨?_, hstops s.self hstopping⟩
  show ((), Stage.mk (f { s.self with killRequested := request }) s.site) = _
  rw [hsame]
  rfl

/-- Most changes of a relay have nothing to do with stopping. -/
theorem Unmoved.change_bind {f : Relay → Relay} {x : Task Relay σ α}
    (hsame : ∀ r request, f { r with killRequested := request } =
      { f r with killRequested := request })
    (hstops : ∀ r, (f r).stopping = r.stopping) (h : Unmoved x) :
    Unmoved (Task.change f >>= fun _ => x) :=
  .bind (unmoved_change hsame fun r hr => (hstops r).trans hr) fun _ => h

theorem unmoved_note (e : Event) : Unmoved (σ := σ) (Task.note e) :=
  fun _ _ hstopping => ⟨rfl, hstopping⟩

theorem unmoved_serve (call : σ → Served σ α) : Unmoved (Task.serve call) :=
  fun _ _ hstopping => ⟨rfl, hstopping⟩

theorem unmoved_byAgent (x : Task Agent σ α) : Unmoved (byAgent x) :=
  fun _ _ hstopping => ⟨rfl, hstopping⟩

theorem unmoved_goTo (phase : Phase) : Unmoved (σ := σ) (goTo phase) :=
  unmoved_change (fun _ _ => rfl) fun _ h => h

/-- A worker that knows does not look for a request. -/
theorem shouldStop_unmoved : Unmoved (σ := σ) shouldStop := by
  intro s request hstopping
  have hrun : ∀ s : Stage Relay σ, s.self.stopping = true →
      shouldStop.run s = (true, s) := by
    intro s hs
    show (if s.self.stopping then Pure.pure true else _ :
      Task Relay σ Bool).run s = _
    rw [if_pos hs]
    rfl
  rw [hrun s hstopping, hrun (asked s request) hstopping]
  exact ⟨rfl, hstopping⟩

/-! ### Callers -/

theorem command_unmoved (c : Command) : Unmoved (σ := σ) (command c) := by
  refine .self_bind (fun _ _ => rfl) fun r => ?_
  split
  · exact .pure _
  · split
    · exact .pure _
    · refine .change_bind (fun _ _ => rfl) (fun _ => rfl) ?_
      exact .pure _

theorem send_unmoved (m : Message) : Unmoved (σ := σ) (send m) := by
  refine .self_bind (fun _ _ => rfl) fun r => ?_
  cases m.check r.limit with
  | error failure => exact .pure _
  | ok =>
      simp only
      split
      · exact .pure _
      · split
        · exact .pure _
        · refine .change_bind (fun _ _ => rfl) (fun _ => rfl) ?_
          exact .pure _

theorem receive_unmoved : Unmoved (σ := σ) receive := by
  refine .self_bind (fun _ _ => rfl) fun r => ?_
  cases r.inbound.pop? with
  | none => exact .pure _
  | some popped =>
      exact .change_bind (fun _ _ => rfl) (fun _ => rfl) (.pure _)

theorem rates_unmoved : Unmoved (σ := σ) rates := by
  refine .bind unmoved_now fun now => .self_bind (fun _ _ => rfl) fun r => ?_
  refine .change_bind (fun _ _ => rfl) (fun _ => rfl) ?_
  exact .pure _

/-! ### The worker -/

theorem report_unmoved (failure : Failure) :
    Unmoved (σ := σ) (report failure) := by
  cases failure <;> exact unmoved_note _

theorem noteAll_unmoved (events : List AssemblyEvent) :
    Unmoved (σ := σ) (events.forM fun e => Task.note (.assembly e)) := by
  induction events with
  | nil => exact .pure _
  | cons e rest ih => exact .bind (unmoved_note _) fun _ => ih

theorem countProtocolError_unmoved : Unmoved (σ := σ) countProtocolError :=
  unmoved_change (fun _ _ => rfl) fun _ h => h

theorem digest_unmoved (d : Delivery) : Unmoved (σ := σ) (digest d) := by
  rw [digest]
  split
  · refine .self_bind (fun _ _ => rfl) fun r => ?_
    refine .change_bind (fun _ _ => rfl) (fun _ => rfl) ?_
    refine .bind (noteAll_unmoved _) fun _ => ?_
    split
    · exact .pure _
    · refine .bind (unmoved_note _) fun _ => ?_
      exact .bind countProtocolError_unmoved fun _ => .pure _
  · rw [classifyOther]
    split
    · split
      · exact .bind (unmoved_note _) fun _ => .pure _
      · exact .bind (unmoved_note _) fun _ => .pure _
    · refine .bind (unmoved_note _) fun _ => ?_
      exact .bind countProtocolError_unmoved fun _ => .pure _

theorem deliver_unmoved (m : Message) : Unmoved (σ := σ) (deliver m) := by
  refine .self_bind (fun _ _ => rfl) fun r => ?_
  split
  · refine .bind (unmoved_note _) fun _ => ?_
    exact .bind (unmoved_change (fun _ _ => rfl) fun _ _ => rfl) fun _ =>
      unmoved_goTo _
  · split
    · refine .bind shouldStop_unmoved fun told => ?_
      split <;> exact unmoved_goTo _
    · refine .bind unmoved_now fun now => ?_
      exact .change_bind (fun _ _ => rfl) (fun _ => rfl) (unmoved_goTo _)

theorem finish_unmoved (busy : Bool) : Unmoved (σ := σ) (finish busy) :=
  .change_bind (fun _ _ => rfl) (fun _ => rfl) (unmoved_goTo _)

section Transports

variable (t : Transport σ)

theorem stop_unmoved : Unmoved (stop t) := by
  refine .change_bind (fun _ _ => rfl) (fun _ => rfl) ?_
  refine .bind (unmoved_byAgent _) fun _ => ?_
  refine .self_bind (fun _ _ => rfl) fun r => ?_
  exact .bind (unmoved_note _) fun _ => unmoved_goTo _

theorem applyCommand_unmoved : Unmoved (applyCommand t) := by
  refine .self_bind (fun _ _ => rfl) fun r => ?_
  cases r.commands.pop? with
  | none => exact unmoved_goTo _
  | some popped =>
      refine .change_bind (fun _ _ => rfl) (fun _ => rfl) ?_
      refine .bind (unmoved_byAgent _) fun result => ?_
      cases result with
      | ok => exact .bind (unmoved_note _) fun _ => unmoved_goTo _
      | error failure =>
          exact .bind (report_unmoved failure) fun _ => unmoved_goTo _

theorem takeDelivery_unmoved (busy : Bool) : Unmoved (takeDelivery t busy) := by
  refine .bind (unmoved_byAgent _) fun result => ?_
  split
  · exact .bind (report_unmoved _) fun _ => unmoved_goTo _
  · exact unmoved_goTo _
  · refine .bind (digest_unmoved _) fun m? => ?_
    cases m? <;> exact unmoved_goTo _

theorem sendNext_unmoved (busy : Bool) : Unmoved (sendNext t busy) := by
  refine .self_bind (fun _ _ => rfl) fun r => ?_
  cases r.outbound.pop? with
  | none => exact finish_unmoved busy
  | some popped =>
      refine .change_bind (fun _ _ => rfl) (fun _ => rfl) ?_
      refine .bind (unmoved_byAgent _) fun result => ?_
      cases result with
      | ok =>
          refine .bind unmoved_now fun now => ?_
          exact .change_bind (fun _ _ => rfl) (fun _ => rfl)
            (finish_unmoved true)
      | error failure =>
          refine .change_bind (fun _ _ => rfl) (fun _ => rfl) ?_
          exact .bind (report_unmoved failure) fun _ => finish_unmoved true

theorem step_unmoved : Unmoved (step t) := by
  refine .self_bind (fun _ _ => rfl) fun r => ?_
  cases r.phase with
  | starting => exact .bind (unmoved_note _) fun _ => unmoved_goTo _
  | checking =>
      refine .bind shouldStop_unmoved fun told => ?_
      split
      · exact stop_unmoved t
      · exact unmoved_goTo _
  | commanding => exact applyCommand_unmoved t
  | polling busy => exact takeDelivery_unmoved t busy
  | delivering m => exact deliver_unmoved m
  | blocked | idling => exact unmoved_goTo _
  | sending busy => exact sendNext_unmoved t busy
  | stopped => exact .pure _

/-- Once the worker knows that it must stop, nobody asks whether a request
waits, but for who makes another. -/
theorem perform_unmoved {a : Act} (ha : a ≠ .kill) : Unmoved (perform t a) := by
  cases a with
  | kill => exact absurd rfl ha
  | subscribe | unsubscribe => exact .map _ (command_unmoved _)
  | send m => exact .map _ (send_unmoved m)
  | receive => exact .map _ receive_unmoved
  | setAddress | setClient | askAddress => exact .map _ (unmoved_byAgent _)
  | rates => exact .map _ rates_unmoved
  | abandon =>
      exact .map _ (unmoved_change (fun _ _ => rfl) fun _ h => h)
  | work => exact .map _ (step_unmoved t)
  | wait ns => exact fun _ _ hstopping => ⟨rfl, hstopping⟩

end Transports

/-! ## Turns -/

def Turn.kills : Turn σ → Bool
  | .act .kill => true
  | _ => false

/-- The stages differ in requests to stop only: in those that were noted, and
in whether one waits that a worker which knows has no use for. -/
structure Alike (s s' : Stage Relay σ) : Prop where
  self : s'.self = { s.self with killRequested := s'.self.killRequested }
  waits : s.self.stopping = false →
    s'.self.killRequested = s.self.killRequested
  net : s'.site.net = s.site.net
  clock : s'.site.clock = s.site.clock
  journal : s'.site.journal.unasked = s.site.journal.unasked

theorem Alike.refl (s : Stage Relay σ) : Alike s s :=
  ⟨rfl, fun _ => rfl, rfl, rfl, rfl⟩

section Turns

variable {s s' : Stage Relay σ} {x : Task Relay σ α}

/-- The stage with nothing in the journal. -/
def bare (s : Stage Relay σ) : Stage Relay σ :=
  { s with site := { s.site with journal := #[] } }

theorem bare_behind (s : Stage Relay σ) :
    (bare s).behind s.site.journal = s := by
  simp only [Stage.behind, Site.behind, bare, Array.append_empty]

/-- What differs in requests only is a stage with and without a request, behind
two journals. -/
theorem Alike.eq_asked (h : Alike s s') :
    s' = (asked (bare s) s'.self.killRequested).behind s'.site.journal := by
  obtain ⟨hself, -, hnet, hclock, -⟩ := h
  obtain ⟨self', ⟨net', clock', journal'⟩⟩ := s'
  simp only at hself hnet hclock
  subst hnet hclock
  simp only [asked, bare, Stage.behind, Site.behind, Array.append_empty]
  rw [← hself]

/-- A task that is not moved by requests does the same at stages that differ in
them only. -/
theorem Alike.of_unmoved (h : Alike s s') (hx : Unmoved x)
    (hblind : Task.Covers id x x) :
    (x.run s').1 = (x.run s).1 ∧ Alike (x.run s).2 (x.run s').2 := by
  obtain ⟨request, hrun, hwaits⟩ : ∃ request,
      x.run (asked (bare s) s'.self.killRequested) =
          ((x.run (bare s)).1, asked (x.run (bare s)).2 request) ∧
        ((x.run (bare s)).2.self.stopping = false →
          request = (x.run (bare s)).2.self.killRequested) := by
    cases hstopping : s.self.stopping with
    | true =>
        obtain ⟨hrun, hstopping'⟩ := hx (bare s) s'.self.killRequested hstopping
        exact ⟨_, hrun, fun h => by rw [hstopping'] at h; cases h⟩
    | false =>
        rw [h.waits hstopping]
        exact ⟨_, rfl, fun _ => rfl⟩
  have hs := hblind.behind (bare s) s.site.journal
  have hs' := hblind.behind (asked (bare s) s'.self.killRequested)
    s'.site.journal
  rw [bare_behind] at hs
  rw [← h.eq_asked, hrun] at hs'
  rw [hs, hs']
  refine ⟨rfl, rfl, hwaits, rfl, rfl, ?_⟩
  show Journal.unasked (s'.site.journal ++ _) =
    Journal.unasked (s.site.journal ++ _)
  rw [unasked_append, unasked_append, h.journal]
  rfl

/-- A request is of no use any more: one waits, or the worker knows, or it has
gone. -/
def Decided (r : Relay) : Prop :=
  r.told = true ∨ r.isStopped = true

theorem kill_decided (s : Stage Relay σ) :
    Task.Ends kill s fun _ s' => s'.self.Decided := by
  simp only [kill, Task.ends_bind, Task.ends_self]
  split
  · next h =>
      rw [Bool.or_eq_true] at h
      refine h.imp_left fun hrequested => ?_
      show (s.self.stopping || s.self.killRequested) = true
      rw [hrequested, Bool.or_true]
  · exact .inl (Bool.or_true _)

theorem Alike.kill (h : Alike s s') (hdecided : s.self.Decided) :
    Task.Ends Relay.kill s fun _ s'' => Alike s'' s' := by
  simp only [Relay.kill, Relay.note, Task.ends_bind, Task.ends_self]
  split
  · exact h
  · next hnone =>
      rw [Bool.or_eq_true, not_or, Bool.not_eq_true] at hnone
      obtain ⟨hnone, hactive⟩ := hnone
      have hstopping : s.self.stopping = true := by
        have htold := hdecided.resolve_right hactive
        rwa [told, hnone, Bool.or_false] at htold
      simp only [Task.ends_bind, Task.ends_change, Task.ends_note]
      refine ⟨h.self, fun h => ?_, h.net, h.clock, h.journal.trans ?_⟩
      · cases hstopping.symm.trans h
      · simp [Journal.unasked]

end Turns

theorem Worked.told {r r' : Relay} {result : Errand.Result}
    (h : Worked r result r') (htold : r.told = true) : r'.told = true := by
  have hlooked := told_looked htold
  cases h with
  | stop | goOn => exact hlooked
  | deliver =>
      rw [delivered]
      split
      · rfl
      · split
        · exact hlooked
        · exact htold
  | _ => exact htold

theorem Turned.decided {r r' : Relay} {a : Act} {answer : Answer}
    {result : Errand.Result} (h : Turned r a answer result r')
    (hdecided : r.Decided) : r'.Decided := by
  refine hdecided.imp (fun htold => ?_) fun hstopped =>
    (h.of_stopped hstopped).1
  cases h with
  | work worked => exact worked.told htold
  | killed => exact Bool.or_true _
  | _ => exact htold

theorem Turn.take_decided (t : Transport σ) (turn : Turn σ)
    {s : Stage Relay (Recorded σ)} (hdecided : s.self.Decided) :
    Task.Ends (turn.take t) s fun _ s' => s'.self.Decided := by
  cases turn with
  | elsewhere f => exact hdecided
  | act a =>
      refine (perform_acted t a s).imp fun answer s' h => ?_
      obtain ⟨result, calls, h⟩ := h
      obtain ⟨r', hturned, hself⟩ := h.turned
      rw [hself]
      exact hturned.decided hdecided

theorem Turn.take_unmoved (t : Transport σ) {turn : Turn σ}
    (hturn : turn.kills = false) : Unmoved (turn.take t) := by
  cases turn with
  | act a =>
      refine perform_unmoved _ fun ha => ?_
      subst ha
      cases hturn
  | elsewhere f => exact .bind (unmoved_serve _) fun _ => .pure _

theorem Turn.take_blind (t : Transport σ) (turn : Turn σ) :
    Task.Covers id (turn.take t) (turn.take t) := by
  cases turn with
  | act a => exact perform_covers (Transport.covers_id _) a
  | elsewhere f => exact .bind (Task.covers_serve fun _ => rfl) fun _ => .pure _

/-! ## Runs -/

/-- The runs differ in requests to stop only. -/
structure History.Same (h h' : History σ) : Prop where
  alike : Alike h.state h'.state
  answers : h.answers (fun turn => !turn.kills) =
    h'.answers fun turn => !turn.kills

theorem History.Same.refl (h : History σ) : h.Same h :=
  ⟨.refl _, rfl⟩

theorem History.Same.kill {t : Transport σ} {h h' : History σ}
    (hsame : h.Same h') (hdecided : h.state.self.Decided) :
    History.Same (Run.take (Turn.take t) h (.act .kill)) h' := by
  refine ⟨hsame.alike.kill hdecided, ?_⟩
  rw [Run.answers_take]
  exact (List.append_nil _).trans hsame.answers

theorem History.Same.take {t : Transport σ} {h h' : History σ}
    (hsame : h.Same h') {turn : Turn σ} (hturn : turn.kills = false) :
    History.Same (Run.take (Turn.take t) h turn)
      (Run.take (Turn.take t) h' turn) := by
  obtain ⟨hanswer, halike⟩ := hsame.alike.of_unmoved
    (turn.take_unmoved t hturn) (turn.take_blind t)
  refine ⟨halike, ?_⟩
  rw [Run.answers_take, Run.answers_take, hsame.answers, hturn]
  exact congrArg (fun answer => _ ++ [answer]) hanswer.symm

theorem Turn.eq_kill {turn : Turn σ} (h : turn.kills = true) :
    turn = .act .kill := by
  cases turn with
  | act a => cases a <;> first | rfl | cases h
  | elsewhere => cases h

theorem killed_decided (t : Transport σ) (s : Stage Relay (Recorded σ))
    (more : List (Turn σ)) :
    (Run.of (Turn.take t) s (.act .kill :: more)).state.self.Decided :=
  Run.invariant_cons (P := fun h : History σ => h.state.self.Decided)
    (kill_decided s)
    fun _ turn _ hdecided => Turn.take_decided t turn hdecided

/-- The first request decides: from there on, however many follow, they change
nothing but what is noted of them. -/
theorem first_kill_decides (t : Transport σ) (s : Stage Relay (Recorded σ))
    (more : List (Turn σ)) :
    History.Same (Run.of (Turn.take t) s (.act .kill :: more))
      (Run.of (Turn.take t) s
        (.act .kill :: more.filter fun turn => !turn.kills)) := by
  induction more using List.reverseRecOn with
  | nil => exact .refl _
  | append_singleton more turn ih =>
      rw [← List.cons_append, Run.of_concat, List.filter_append,
        List.filter_cons, List.filter_nil]
      cases hturn : turn.kills with
      | true =>
          rw [Turn.eq_kill hturn, Bool.not_true, if_neg Bool.false_ne_true,
            List.append_nil]
          exact ih.kill (killed_decided t s more)
      | false =>
          rw [Bool.not_false, if_pos rfl, ← List.cons_append, Run.of_concat]
          exact ih.take hturn

end Relay

end Courier
