import Courier.Proofs.Relay.History
import Mathlib.Algebra.GroupWithZero.Nat

/-!
# What becomes of accepted messages

A message that was accepted is in the outbound queue until the worker takes
it out to send it, which it does once. The attempt shows on the record of the
transport: either the message was multicast and taken as a whole, or a
failure was counted.

`Turned.outgoing` says what one turn does to the queue, over any transport.
`outbound_conserved` is about all histories.
-/

namespace Courier

namespace Relay

variable {σ : Type}

/-! ## One turn -/

def Errand.Result.lost : Errand.Result → Nat
  | .sent _ result => Relay.lost result
  | _ => 0

/-- What a turn does with messages to be sent. -/
structure Outgoing (r r' : Relay) (accepted : List Message)
    (result : Errand.Result) : Prop where
  queue : r.outbound.items ++ accepted = result.tried ++ r'.outbound.items
  failures :
    r'.counters.sendFailures = r.counters.sendFailures + result.lost
  limit : r'.limit = r.limit
  checked : ∀ m ∈ accepted, m.check r.limit = .ok ()
  capacity : r'.outbound.capacity = r.outbound.capacity
  room : r.outbound.items.length ≤ r.outbound.capacity →
    r'.outbound.items.length ≤ r.outbound.capacity

/-- A turn that leaves the outbound queue alone. -/
theorem Outgoing.of_eq {r r' : Relay} {result : Errand.Result}
    (htried : result.tried = []) (hlost : result.lost = 0)
    (houtbound : r'.outbound = r.outbound)
    (hfailures : r'.counters.sendFailures = r.counters.sendFailures)
    (hlimit : r'.limit = r.limit) :
    Outgoing r r' [] result where
  queue := by rw [htried, houtbound, List.append_nil, List.nil_append]
  failures := by rw [hlost, hfailures, Nat.add_zero]
  limit := hlimit
  checked := by simp
  capacity := congrArg Queue.capacity houtbound
  room := by
    rw [houtbound]
    exact id

theorem Outgoing.withAgent {r r' : Relay} {accepted : List Message}
    {result : Errand.Result} (h : Outgoing r r' accepted result)
    (agent : Agent) : Outgoing r { r' with agent } accepted result :=
  ⟨h.queue, h.failures, h.limit, h.checked, h.capacity, h.room⟩

theorem looked_eq (r : Relay) :
    ∃ killRequested stopping,
      r.looked = { r with killRequested, stopping } := by
  rw [looked]
  split
  · exact ⟨_, _, rfl⟩
  · exact ⟨_, _, rfl⟩

theorem Worked.outgoing {r r' : Relay} {result : Errand.Result}
    (h : Worked r result r') : Outgoing r r' [] result := by
  obtain ⟨killRequested, stopping, hlooked⟩ := looked_eq r
  cases h with
  | start | noCommand | command | poll | retry | noMessage | wake | rest =>
      exact .of_eq rfl rfl rfl rfl rfl
  | stop | goOn =>
      rw [hlooked]
      exact .of_eq rfl rfl rfl rfl rfl
  | deliver =>
      rw [delivered]
      split
      · exact .of_eq rfl rfl rfl rfl rfl
      · split
        · rw [hlooked]
          exact .of_eq rfl rfl rfl rfl rfl
        · exact .of_eq rfl rfl rfl rfl rfl
  | send at_ oldest =>
      refine ⟨?_, rfl, rfl, by simp, rfl, fun hroom => ?_⟩
      · rw [oldest, List.append_nil]
        rfl
      · rw [oldest, List.length_cons] at hroom
        exact Nat.le_of_succ_le hroom

theorem Turned.outgoing {r r' : Relay} {a : Act} {answer : Answer}
    {result : Errand.Result} (h : Turned r a answer result r') :
    Outgoing r r' (a.accepted answer) result := by
  cases h with
  | work worked => exact worked.outgoing
  | queued checked active room =>
      refine ⟨rfl, rfl, rfl, fun m hm => ?_, rfl, fun _ => ?_⟩
      · obtain rfl := List.mem_singleton.mp hm
        exact checked
      · exact Queue.length_push_le room _
  | received | killed | abandoned => exact .of_eq rfl rfl rfl rfl rfl
  | aside accepted =>
      rw [accepted]
      exact .of_eq rfl rfl rfl rfl rfl

/-- A message that is to be sent has been queued. -/
theorem mem_outbound_of_tried {r : Relay} {a : Act} {m : Message}
    (hm : m ∈ (errand r a).tried) : m ∈ r.outbound.items := by
  cases a with
  | work =>
      rw [errand, workErrand] at hm
      split at hm
      · split at hm <;> cases hm
      · split at hm <;> cases hm
      · cases hm
      · split at hm
        · cases hm
        · next oldest rest hitems =>
            obtain rfl := List.mem_singleton.mp hm
            rw [hitems]
            exact List.mem_cons_self
      · cases hm
  | _ => cases hm

/-- A relay that has stopped moves no message to be sent. -/
theorem Turned.of_stopped {r r' : Relay} {a : Act} {answer : Answer}
    {result : Errand.Result} (h : Turned r a answer result r')
    (hstopped : r.isStopped = true) :
    r'.isStopped = true ∧ a.accepted answer = [] ∧ result.tried = [] := by
  have hphase : r.phase = .stopped := of_decide_eq_true hstopped
  cases h with
  | work worked =>
      cases worked with
      | rest => exact ⟨hstopped, rfl, rfl⟩
      | start at_ | stop at_ | goOn at_ | noCommand at_ | command at_
      | poll at_ | deliver at_ | retry at_ | noMessage at_ | send at_
      | wake at_ =>
          rw [hphase] at at_
          cases at_
  | queued checked active =>
      rw [hstopped] at active
      cases active
  | received | killed | abandoned => exact ⟨hstopped, rfl, rfl⟩
  | aside accepted => exact ⟨hstopped, accepted, rfl⟩

/-! ## All turns -/

/-- The worker's one attempt to send a message: the calls that it made, and
how many failures it counted. -/
structure Attempt where
  message : Message
  calls : List Exchange
  failures : Nat

namespace Attempt

/-- The message was multicast as a whole. -/
def IsSent (a : Attempt) : Prop :=
  a.failures = 0 ∧ a.message.SentBy a.calls

/-- A failure was counted. -/
def IsFailed (a : Attempt) : Prop :=
  a.failures = 1 ∧ a.message.LostBy a.calls

end Attempt

/-- The attempts of a turn. There is one if the worker's errand was to send. -/
def attemptsAt (m : Moment (Stage Relay (Recorded σ)) (Turn σ) Answer) :
    List Attempt :=
  match m.turn with
  | .elsewhere _ => []
  | .act a => (errand m.before.self a).tried.map fun message =>
    { message
      calls := m.after.site.net.calls.toList.drop
        m.before.site.net.calls.toList.length
      failures := m.after.self.counters.sendFailures -
        m.before.self.counters.sendFailures }

def History.attempts (h : History σ) : List Attempt :=
  h.past.flatMap attemptsAt

theorem History.attempts_push {h : History σ} {s : Stage Relay (Recorded σ)}
    {m : Moment (Stage Relay (Recorded σ)) (Turn σ) Answer} :
    attempts ⟨s, h.past ++ [m]⟩ = h.attempts ++ attemptsAt m := by
  rw [attempts, List.flatMap_append, List.flatMap_singleton]
  rfl

/-- What holds of accepted messages at every point of a history. -/
structure Conserves (pace : Pace) (h : History σ) : Prop where
  /-- Messages leave the queue in the order in which they were accepted, and
  each of them is attempted once. -/
  order : h.accepted =
    h.attempts.map Attempt.message ++ h.state.self.outbound.items
  each : ∀ a ∈ h.attempts, a.IsSent ∨ a.IsFailed
  /-- No message is posted but by the attempts. -/
  postings : Exchange.postings h.calls =
    h.attempts.flatMap fun a => Exchange.multicasts a.calls
  failures : h.state.self.counters.sendFailures =
    (h.attempts.map Attempt.failures).sum
  limit : h.state.self.limit = h.state.self.agent.profile.limit
  checked : ∀ m ∈ h.state.self.outbound.items,
    m.check h.state.self.limit = .ok ()
  capacity : h.state.self.outbound.capacity = max pace.outbound 1
  bounded : h.state.self.outbound.items.length ≤
    h.state.self.outbound.capacity

theorem Conserves.begin (agent : Agent) (pace : Pace) (site : Site σ) :
    Conserves pace { state := begin agent pace site } where
  order := rfl
  each := fun a ha => by cases ha
  postings := rfl
  failures := rfl
  limit := rfl
  checked := fun m hm => by cases hm
  capacity := rfl
  bounded := Nat.zero_le _

theorem postings_of_sentBy {m : Message} {calls : List Exchange}
    (h : m.SentBy calls) :
    Exchange.postings calls = Exchange.multicasts calls := by
  rw [Exchange.postings, h]
  rfl

theorem postings_of_lostBy {m : Message} {calls : List Exchange}
    (h : m.LostBy calls) :
    Exchange.postings calls = Exchange.multicasts calls := by
  obtain ⟨hnone, -⟩ | ⟨outcome, -, hone⟩ := h
  · rw [Exchange.postings, hnone, List.filter_nil]
  · rw [Exchange.postings, hone]
    rfl

namespace Errand.Result

/-- The attempt that an errand was. -/
def attempts (calls : List Exchange) : Errand.Result → List Attempt
  | .sent message result =>
    [{ message, calls, failures := Relay.lost result }]
  | _ => []

variable {limit : Nat} {calls : List Exchange} {result : Errand.Result}

theorem messages_attempts :
    (result.attempts calls).map Attempt.message = result.tried := by
  cases result <;> rfl

theorem failures_attempts :
    ((result.attempts calls).map Attempt.failures).sum = result.lost := by
  cases result <;> rfl

/-- An errand posts the message that it was to send, and nothing else. -/
theorem Shows.postings (h : result.Shows limit calls)
    (hcheck : ∀ m ∈ result.tried, m.check limit = .ok ()) :
    Exchange.postings calls = (result.attempts calls).flatMap fun a =>
      Exchange.multicasts a.calls := by
  cases result with
  | nothing => exact Exchange.postings_of_silent h
  | polled result => exact h.2
  | sent m result =>
      rw [attempts, List.flatMap_singleton]
      obtain ⟨-, hsent⟩ | ⟨-, hlost⟩ := h.2 (hcheck m (by simp [tried]))
      · exact postings_of_sentBy hsent
      · exact postings_of_lostBy hlost

/-- A message that passes the check is sent, or a failure is counted. -/
theorem Shows.each (h : result.Shows limit calls)
    (hcheck : ∀ m ∈ result.tried, m.check limit = .ok ()) :
    ∀ a ∈ result.attempts calls, a.IsSent ∨ a.IsFailed := by
  cases result with
  | nothing | polled => simp [attempts]
  | sent m result =>
      intro a ha
      obtain rfl := List.mem_singleton.mp ha
      obtain ⟨rfl, hsent⟩ | ⟨⟨failure, rfl⟩, hlost⟩ :=
        h.2 (hcheck m (by simp [tried]))
      · exact .inl ⟨rfl, hsent⟩
      · exact .inr ⟨rfl, hlost⟩

end Errand.Result

namespace Acted

variable {s s' : Stage Relay (Recorded σ)} {a : Act} {answer : Answer}
  {result : Errand.Result} {calls : List Exchange}

theorem outgoing (h : Acted s a answer s' result calls) :
    Outgoing s.self s'.self (a.accepted answer) result := by
  obtain ⟨r', hturned, hself⟩ := h.turned
  rw [hself]
  exact hturned.outgoing.withAgent _

theorem attempts {m : Moment (Stage Relay (Recorded σ)) (Turn σ) Answer}
    (h : Acted m.before a m.answer m.after result calls)
    (hturn : m.turn = .act a) : attemptsAt m = result.attempts calls := by
  rw [attemptsAt, hturn]
  simp only
  rw [← h.tried, h.adds.drop_eq, h.outgoing.failures, Nat.add_sub_cancel_left]
  cases result <;> rfl

end Acted

theorem Conserves.elsewhere {t : Transport σ} {pace : Pace} {h : History σ}
    (hinv : Conserves pace h) (f : σ → Served σ Unit) :
    Conserves pace (Run.take (Turn.take t) h (.elsewhere f)) := by
  have haccepted : History.accepted (Run.take (Turn.take t) h (.elsewhere f)) =
      h.accepted := History.accepted_push.trans (List.append_nil _)
  have hattempts : History.attempts (Run.take (Turn.take t) h (.elsewhere f)) =
      h.attempts := History.attempts_push.trans (List.append_nil _)
  refine ⟨?_, ?_, ?_, ?_, hinv.limit, hinv.checked, hinv.capacity,
    hinv.bounded⟩
  · rw [haccepted, hattempts]
    exact hinv.order
  · rw [hattempts]
    exact hinv.each
  · rw [hattempts]
    exact hinv.postings
  · rw [hattempts]
    exact hinv.failures

theorem Conserves.act {t : Transport σ} {pace : Pace} {h : History σ}
    (hinv : Conserves pace h) (a : Act) :
    Conserves pace (Run.take (Turn.take t) h (.act a)) := by
  obtain ⟨m, result, calls, hrun, hbefore, hturn, hacted⟩ := h.take_act t a
  have hattempts := hacted.attempts hturn
  have haccepted : acceptedAt m = a.accepted m.answer := by
    rw [acceptedAt, hturn]
  rw [hbefore] at hacted
  have hout := hacted.outgoing
  have hchecked : ∀ message ∈ result.tried ++ m.after.self.outbound.items,
      message.check h.state.self.limit = .ok () := by
    intro message hmem
    rw [← hout.queue] at hmem
    rcases List.mem_append.mp hmem with hmem | hmem
    · exact hinv.checked message hmem
    · exact hout.checked message hmem
  have htried : ∀ message ∈ result.tried,
      message.check h.state.self.agent.profile.limit = .ok () :=
    fun message hmem =>
      hinv.limit ▸ hchecked message (List.mem_append_left _ hmem)
  rw [hrun]
  constructor
  · rw [History.accepted_push, History.attempts_push, haccepted, hattempts,
      hinv.order, List.append_assoc, hout.queue, List.map_append,
      Errand.Result.messages_attempts, List.append_assoc]
  · rw [History.attempts_push, hattempts]
    intro attempt hattempt
    rcases List.mem_append.mp hattempt with hattempt | hattempt
    · exact hinv.each attempt hattempt
    · exact hacted.shown.each htried attempt hattempt
  · rw [History.attempts_push, hattempts, List.flatMap_append,
      ← hinv.postings, ← hacted.shown.postings htried,
      ← Exchange.postings_append]
    exact congrArg Exchange.postings hacted.adds
  · rw [History.attempts_push, hattempts, List.map_append, List.sum_append,
      ← hinv.failures, Errand.Result.failures_attempts]
    exact hout.failures
  · rw [hout.limit, hacted.limit]
    exact hinv.limit
  · intro message hmem
    rw [hout.limit]
    exact hchecked message (List.mem_append_right _ hmem)
  · exact hout.capacity.trans hinv.capacity
  · rw [hout.capacity]
    exact hout.room hinv.bounded

/-! ## All histories -/

theorem conserves_history (t : Transport σ) (agent : Agent) (pace : Pace)
    (site : Site σ) (turns : List (Turn σ)) :
    Conserves pace (history t agent pace site turns) := by
  refine Run.invariant (.begin agent pace site) fun h turn _ hinv => ?_
  cases turn with
  | act a => exact hinv.act a
  | elsewhere f => exact hinv.elsewhere f

theorem history_limit (t : Transport σ) (agent : Agent) (pace : Pace)
    (site : Site σ) (turns : List (Turn σ)) :
    (history t agent pace site turns).state.self.limit =
      agent.profile.limit := by
  refine Run.invariant (P := fun h : History σ =>
    h.state.self.limit = agent.profile.limit) rfl fun h turn _ hlimit => ?_
  cases turn with
  | elsewhere f => exact hlimit
  | act a =>
      obtain ⟨m, result, calls, hrun, hbefore, hturn, hacted⟩ :=
        History.take_act h t a
      rw [hrun]
      refine hacted.outgoing.limit.trans ?_
      rw [hbefore]
      exact hlimit

theorem Attempt.requests_isSent {a : Attempt} (h : a.IsSent) :
    (Exchange.multicasts a.calls).countP Multicast.isComplete = 1 ∧
      (Exchange.multicasts a.calls).map Multicast.request =
        [a.message.request] := by
  rw [h.2]
  simp [Message.multicast, Multicast.isComplete, Multicast.request,
    Message.request]

theorem Attempt.requests_isFailed {a : Attempt} (h : a.IsFailed) :
    (Exchange.multicasts a.calls).countP Multicast.isComplete = 0 ∧
      ((Exchange.multicasts a.calls).map Multicast.request).Sublist
        [a.message.request] := by
  obtain ⟨hnone, -⟩ | ⟨outcome, hshort, hone⟩ := h.2
  · rw [hnone]
    exact ⟨rfl, List.nil_sublist _⟩
  · rw [hone]
    refine ⟨?_, List.Sublist.refl _⟩
    cases outcome with
    | error cause => rfl
    | ok sent =>
        have hne : sent ≠ a.message.payload.length :=
          fun heq => hshort (congrArg _ heq)
        simpa [Message.multicast, Multicast.isComplete] using hne

section Attempts

variable {attempts : List Attempt}
  (each : ∀ a ∈ attempts, a.IsSent ∨ a.IsFailed)

include each

/-- Attempts are complete multicasts or counted failures. -/
theorem length_attempts :
    attempts.length =
      (attempts.flatMap fun a => Exchange.multicasts a.calls).countP
        Multicast.isComplete + (attempts.map Attempt.failures).sum := by
  induction attempts with
  | nil => rfl
  | cons a rest ih =>
      have hrest := ih fun b hb => each b (List.mem_cons_of_mem a hb)
      rw [List.length_cons, List.flatMap_cons, List.countP_append,
        List.map_cons, List.sum_cons]
      rcases each a List.mem_cons_self with hsent | hfailed
      · have hone := (Attempt.requests_isSent hsent).1
        have hnone := hsent.1
        omega
      · have hnone := (Attempt.requests_isFailed hfailed).1
        have hone := hfailed.1
        omega

/-- What attempts ask for are their messages, in their order. -/
theorem requests_sublist :
    ((attempts.flatMap fun a => Exchange.multicasts a.calls).map
        Multicast.request).Sublist
      (attempts.map fun a => a.message.request) := by
  induction attempts with
  | nil => exact List.Sublist.refl _
  | cons a rest ih =>
      have hrest := ih fun b hb => each b (List.mem_cons_of_mem a hb)
      rw [List.flatMap_cons, List.map_append, List.map_cons,
        ← List.singleton_append]
      refine List.Sublist.append ?_ hrest
      rcases each a List.mem_cons_self with hsent | hfailed
      · have hsame := (Attempt.requests_isSent hsent).2
        exact hsame ▸ List.Sublist.refl _
      · exact (Attempt.requests_isFailed hfailed).2

end Attempts

/-- A relay that has stopped neither accepts a message nor tries to send one
in another turn. -/
theorem stopped_take (t : Transport σ) {h : History σ}
    (hstopped : h.state.self.isStopped = true) (turn : Turn σ) :
    (Run.take (Turn.take t) h turn).state.self.isStopped = true ∧
      History.accepted (Run.take (Turn.take t) h turn) = h.accepted ∧
      History.attempts (Run.take (Turn.take t) h turn) = h.attempts := by
  cases turn with
  | elsewhere f =>
      exact ⟨hstopped, History.accepted_push.trans (List.append_nil _),
        History.attempts_push.trans (List.append_nil _)⟩
  | act a =>
      obtain ⟨m, result, calls, hrun, hbefore, hturn, hacted⟩ := h.take_act t a
      obtain ⟨r', hturned, hself⟩ := hacted.turned
      rw [hbefore] at hturned
      obtain ⟨hstopped', hnone, htried⟩ := hturned.of_stopped hstopped
      have hnone' : attemptsAt m = [] := by
        rw [hacted.attempts hturn, ← List.map_eq_nil_iff,
          Errand.Result.messages_attempts, htried]
      rw [hrun]
      refine ⟨?_, ?_, ?_⟩
      · rw [hself]
        exact hstopped'
      · rw [History.accepted_push, acceptedAt, hturn]
        show h.accepted ++ a.accepted m.answer = h.accepted
        rw [hnone, List.append_nil]
      · rw [History.attempts_push, hnone', List.append_nil]

theorem stopped_history (t : Transport σ) {agent : Agent} {pace : Pace}
    {site : Site σ} {turns : List (Turn σ)}
    (hstopped : (history t agent pace site turns).state.self.isStopped = true)
    (more : List (Turn σ)) :
    (history t agent pace site (turns ++ more)).state.self.isStopped = true ∧
      (history t agent pace site (turns ++ more)).accepted =
        (history t agent pace site turns).accepted ∧
      (history t agent pace site (turns ++ more)).attempts =
        (history t agent pace site turns).attempts := by
  induction more using List.reverseRecOn with
  | nil =>
      rw [List.append_nil]
      exact ⟨hstopped, rfl, rfl⟩
  | append_singleton more turn ih =>
      obtain ⟨hstopped', haccepted, hattempts⟩ := ih
      have hturn := stopped_take t hstopped' turn
      rw [history, ← List.append_assoc, Run.of_concat]
      exact ⟨hturn.1, hturn.2.1.trans haccepted, hturn.2.2.trans hattempts⟩

/-- A caller whose message is not accepted leaves the queue as it was. -/
theorem outbound_of_not_accepted {s s' : Stage Relay (Recorded σ)}
    {message : Message} {answer : Answer} {result : Errand.Result}
    {calls : List Exchange}
    (hacted : Acted s (.send message) answer s' result calls)
    (hanswer : answer ≠ .submitted .accepted) :
    s'.self.outbound = s.self.outbound := by
  obtain ⟨r', hturned, hself⟩ := hacted.turned
  rw [hself]
  cases hturned with
  | queued => exact absurd rfl hanswer
  | aside => rfl

/-- What holds of messages to be sent at every point of a history. -/
structure Accounted (pace : Pace) (h : History σ) : Prop
    extends Conserves pace h where
  balance : h.accepted.length =
    (Exchange.postings h.calls).countP Multicast.isComplete +
      h.state.self.counters.sendFailures + h.state.self.outbound.items.length
  /-- What was asked of the transport, in the order of acceptance. -/
  subsequence : ((Exchange.postings h.calls).map Multicast.request).Sublist
    (h.accepted.map Message.request)
  /-- A message that is not accepted is not queued. -/
  givenUp : ∀ m ∈ h.past, ∀ message, m.turn = .act (.send message) →
    m.answer ≠ .submitted .accepted →
    m.after.self.outbound = m.before.self.outbound

/-- Every message that was accepted is sent once, or counted once as a
failure, or still queued. Once the relay has stopped, what is queued stays
queued, and no message is posted any more. -/
theorem outbound_conserved (t : Transport σ) (agent : Agent) (pace : Pace)
    (site : Site σ) (turns more : List (Turn σ)) :
    let h := history t agent pace site turns
    let later := history t agent pace site (turns ++ more)
    Accounted pace h ∧
      (h.state.self.isStopped = true →
        later.accepted = h.accepted ∧
          later.state.self.outbound.items = h.state.self.outbound.items ∧
          Exchange.postings later.calls = Exchange.postings h.calls) := by
  intro h later
  have hinv : Conserves pace h := conserves_history t agent pace site turns
  refine ⟨⟨hinv, ?_, ?_, ?_⟩, fun hstopped => ?_⟩
  · rw [hinv.order, hinv.postings, hinv.failures, List.length_append,
      List.length_map, length_attempts hinv.each]
  · rw [hinv.order, hinv.postings, List.map_append, List.map_map]
    exact (requests_sublist hinv.each).trans (List.sublist_append_left _ _)
  · refine Run.forall_past (fun h turn message hturn hanswer => ?_) _ turns
    obtain rfl : turn = .act (.send message) := hturn
    obtain ⟨result, calls, hacted⟩ := perform_acted t (.send message) h.state
    exact outbound_of_not_accepted hacted hanswer
  · have hlater : Conserves pace later := conserves_history ..
    obtain ⟨-, haccepted, hattempts⟩ := stopped_history t hstopped more
    refine ⟨haccepted, ?_, ?_⟩
    · have horder := hlater.order
      rw [haccepted, hattempts, hinv.order] at horder
      exact (List.append_cancel_left horder).symm
    · rw [hlater.postings, hattempts, ← hinv.postings]

end Relay

end Courier
