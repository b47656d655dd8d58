import Courier.Hub
import Courier.Proofs.Relay.Inbound
import Courier.Proofs.Relay.Provenance

/-!
# Messages and sessions

Whatever callers receive from a relay was read from the deliveries on record,
also if the relay is killed: it stops reading then, drops what it cannot queue
any more, and adds nothing. So what holds of messages that are read holds of
messages that are received.

A relay does not look at its open messages when a session ends. It goes on
with them in the next one, and what it missed between is missing in the
message that it hands out (`received_across_sessions`).
-/

namespace Courier

theorem Reading.after_after (r : Reading) (messages more : List Message) :
    (r.after more).after messages = r.after (messages ++ more) := by
  simp only [after, List.append_assoc]

namespace Relay

variable {σ : Type}

/-- What a turn hands on, whoever may have told the relay to stop. -/
structure Handing (r r' : Relay) (received : List Message)
    (result : Errand.Result) : Prop where
  messages : received ++ r'.inbound.items ++ r'.phase.inHand ⊆
    r.inbound.items ++ r.phase.inHand ++ (r.readingAfter result).messages
  reading : r'.phase = .stopped ∨ r.phase ≠ .stopped ∧
    r'.reading.after (r.readingAfter result).messages = r.readingAfter result
  idle : r.phase = .stopped → result.deliveries = []

/-- A turn without deliveries. -/
theorem Handing.of_eq {r r' : Relay} {received : List Message}
    {result : Errand.Result} (hdeliveries : result.deliveries = [])
    (hmessages : received ++ r'.inbound.items ++ r'.phase.inHand ⊆
      r.inbound.items ++ r.phase.inHand)
    (hreading : r'.phase = .stopped ∨
      r.phase ≠ .stopped ∧ r'.reading = r.reading) :
    Handing r r' received result where
  messages := List.Subset.trans hmessages (List.subset_append_left ..)
  reading := by
    rw [readingAfter, hdeliveries]
    refine hreading.imp_right fun h => ⟨h.1, ?_⟩
    rw [h.2]
    rfl
  idle := fun _ => hdeliveries

/-- A turn that leaves the inbound queue alone, and takes nothing up. -/
theorem Handing.of_same {r r' : Relay} {result : Errand.Result}
    (hdeliveries : result.deliveries = []) (hinbound : r'.inbound = r.inbound)
    (hhand : r'.phase.inHand ⊆ r.phase.inHand)
    (hreading : r'.phase = .stopped ∨
      r.phase ≠ .stopped ∧ r'.reading = r.reading) :
    Handing r r' [] result := by
  refine .of_eq hdeliveries ?_ hreading
  rw [hinbound, List.nil_append]
  exact List.append_subset.mpr ⟨List.subset_append_left .., fun m hm =>
    List.mem_append_right _ (hhand hm)⟩

theorem Worked.handing {r r' : Relay} {result : Errand.Result}
    (h : Worked r result r') : Handing r r' [] result := by
  cases h with
  | start at_ | noCommand at_ | command at_ | wake at_ | send at_ =>
      exact .of_same rfl rfl (List.nil_subset _) (.inr ⟨by simp [at_], rfl⟩)
  | retry at_ =>
      refine .of_same rfl rfl ?_ (.inr ⟨by simp [at_], rfl⟩)
      rw [at_]
      exact List.Subset.refl _
  | goOn at_ =>
      exact .of_same rfl r.inbound_looked (List.nil_subset _)
        (.inr ⟨by simp [at_], r.reading_looked⟩)
  | rest at_ => exact .of_same rfl rfl (List.Subset.refl _) (.inl at_)
  | stop at_ =>
      exact .of_same rfl r.inbound_looked (List.nil_subset _) (.inl rfl)
  | @noMessage busy at_ =>
      refine .of_same rfl rfl ?_ (.inr ⟨by simp [at_], rfl⟩)
      cases busy <;> exact List.nil_subset _
  | poll at_ reads holds =>
      subst reads
      refine ⟨?_, .inr ⟨by simp [at_], ?_⟩, fun h => by simp [at_] at h⟩
      · rw [holds, at_, List.nil_append]
        refine List.append_subset.mpr ⟨fun m hm => ?_,
          List.subset_append_right ..⟩
        rw [List.append_assoc]
        exact List.mem_append_left _ hm
      · show Reading.after _ _ = _
        simp [reading, withReading, Reading.after, readingAfter,
          Errand.Result.deliveries]
  | @deliver m now at_ =>
      rw [delivered]
      split
      · exact .of_same rfl rfl (List.nil_subset _) (.inr ⟨by simp [at_], rfl⟩)
      · split
        · refine .of_same rfl r.inbound_looked ?_
            (.inr ⟨by simp [at_], r.reading_looked⟩)
          rw [at_]
          split
          · exact List.nil_subset _
          · exact List.Subset.refl _
        · refine .of_eq rfl ?_ (.inr ⟨by simp [at_], rfl⟩)
          rw [at_]
          simp [Queue.push, Phase.inHand]

theorem Turned.handing {r r' : Relay} {a : Act} {answer : Answer}
    {result : Errand.Result} (h : Turned r a answer result r') :
    Handing r r' (a.received answer) result := by
  have hsame : r.phase = .stopped ∨ r.phase ≠ .stopped ∧ r.reading = r.reading :=
    (Decidable.em _).imp_right fun h => ⟨h, rfl⟩
  cases h with
  | work worked => exact worked.handing
  | queued | killed | abandoned =>
      exact .of_same rfl rfl (List.Subset.refl _) hsame
  | received oldest =>
      refine .of_eq rfl ?_ hsame
      rw [oldest]
      exact List.Subset.refl _
  | aside accepted nothing =>
      rw [nothing]
      exact .of_same rfl rfl (List.Subset.refl _) hsame

/-- What callers have received, and may receive yet, was read from the
deliveries on record. A relay that has not stopped has read all of them. -/
structure Handed (h : History σ) : Prop where
  messages : h.received ++ h.state.self.inbound.items ++
      h.state.self.phase.inHand ⊆
    (Reading.all (Exchange.deliveries h.calls)).messages
  reading : h.state.self.phase = .stopped ∨
    h.state.self.reading.after
        (Reading.all (Exchange.deliveries h.calls)).messages =
      Reading.all (Exchange.deliveries h.calls)

theorem Handed.begin (agent : Agent) (pace : Pace) (site : Site σ) :
    Handed { state := begin agent pace site } where
  messages := List.Subset.refl _
  reading := .inr rfl

theorem Handed.act {t : Transport σ} {h : History σ} (hinv : Handed h)
    (a : Act) : Handed (Run.take (Turn.take t) h (.act a)) := by
  obtain ⟨m, result, calls, hrun, hbefore, hturn, hacted⟩ := h.take_act t a
  have hreceived : receivedAt m = a.received m.answer := by
    rw [receivedAt, hturn]
  rw [hbefore] at hacted
  obtain ⟨r', hturned, hself⟩ := hacted.turned
  obtain ⟨hmessages, hreading, hidle⟩ := hturned.handing
  have hall : (Reading.all (Exchange.deliveries
      m.after.site.net.calls.toList)).messages =
      (Reading.all (Exchange.deliveries h.calls)).messages ++
        (h.state.self.readingAfter result).messages := by
    obtain hstopped | hread := hinv.reading
    · rw [hacted.adds, Exchange.deliveries_append, hacted.shown.deliveries,
        readingAfter, hidle hstopped, List.append_nil]
      exact (List.append_nil _).symm
    · rw [hacted.all_after hread]
      rfl
  rw [hrun]
  constructor
  · rw [History.received_push, hreceived, hself]
    intro x hx
    rw [List.append_assoc, List.append_assoc, List.mem_append] at hx
    refine hall ▸ List.mem_append.mpr ?_
    have hold := hinv.messages
    rw [List.append_assoc] at hold
    obtain hx | hx := hx
    · exact .inl (hold (List.mem_append_left _ hx))
    · rw [← List.append_assoc] at hx
      refine (List.mem_append.mp (hmessages hx)).imp_left fun hx => ?_
      exact hold (List.mem_append_right _ hx)
  · rw [hself]
    refine hreading.imp_right fun h => ?_
    obtain ⟨hactive, hread⟩ := h
    have hafter := hacted.all_after (hinv.reading.resolve_left hactive)
    show r'.reading.after (Reading.all
      (Exchange.deliveries m.after.site.net.calls.toList)).messages =
      Reading.all (Exchange.deliveries m.after.site.net.calls.toList)
    rw [hafter]
    show r'.reading.after (_ ++ (h.state.self.readingAfter result).messages) = _
    rw [← Reading.after_after, hread]

theorem Handed.elsewhere {t : Transport σ} {h : History σ}
    (hinv : Handed h) (f : σ → Served σ Unit) :
    Handed (Run.take (Turn.take t) h (.elsewhere f)) := by
  have hreceived : History.received (Run.take (Turn.take t) h (.elsewhere f)) =
      h.received := History.received_push.trans (List.append_nil _)
  refine ⟨?_, hinv.reading⟩
  rw [hreceived]
  exact hinv.messages

theorem handed_history (t : Transport σ) (agent : Agent) (pace : Pace)
    (site : Site σ) (turns : List (Turn σ)) :
    Handed (history t agent pace site turns) := by
  refine Run.invariant (.begin agent pace site) fun h turn _ hinv => ?_
  cases turn with
  | act a => exact hinv.act a
  | elsewhere f => exact hinv.elsewhere f

/-- Every message that callers receive came as a whole, or in pieces of one
sender with no other piece of that sender between them. If nothing of the
sender's was open whenever the relay opened a session, all its pieces came in
one session. -/
theorem received_in_pieces (t : Transport σ) (agent : Agent) (pace : Pace)
    (site : Site σ) (turns : List (Turn σ)) :
    let h := history t agent pace site turns
    ∀ m ∈ h.received, m.InOne (Exchange.deliveries h.calls) ∨
      ∃ sender, m.InPieces (Exchange.marks false sender h.calls) ∧
        (Exchange.ClosedAtSessions sender h.calls →
          m.InPieces (Exchange.marks true sender h.calls)) := by
  intro h m hm
  have hhanded : Handed h := handed_history t agent pace site turns
  exact Exchange.provenance (hhanded.messages (by simp [hm]))

/-- A piece of a message from one sender is multicast. -/
def multicastPiece (piece : Piece) (text : String) : Turn Hub :=
  .elsewhere fun h =>
    { value := ()
      net := h.pass
        { sender := "#s#hub", group := "news", flags := piece.flags,
          payload := Bytes.ofText text } }

def working (steps : Nat) : List (Turn Hub) :=
  List.replicate steps (.act .work)

/-- A relay on a hub takes turns. -/
def historyOnHub (turns : List (Turn Hub)) : History Hub :=
  history Hub.transport { profile := { client := "relay", keepAlive := none } }
    {} { net := { name := "hub" } } turns

/-- The hub drops its clients between two messages. -/
def apartTurns : List (Turn Hub) :=
  .act (.subscribe "news") :: working 8 ++
    multicastPiece .first "news\tto be " :: multicastPiece .last "or " ::
    working 12 ++ .elsewhere Hub.dropAll :: working 12 ++
    multicastPiece .first "news\tnot " :: multicastPiece .middle "to " ::
    multicastPiece .last "be" :: working 16 ++
    [.act .receive, .act .receive]

theorem received_in_pieces_apart :
    let h := historyOnHub apartTurns
    let m : Message := { topic := "news", text := "not to be" }
    m ∈ h.received ∧ Exchange.ClosedAtSessions "#s#hub" h.calls ∧
      m.InPieces (Exchange.marks true "#s#hub" h.calls) := by
  intro h m
  have hm : m ∈ h.received := by decide +kernel
  have hclosed : Exchange.ClosedAtSessions "#s#hub" h.calls := by decide +kernel
  have hdeliveries : ∀ d ∈ Exchange.deliveries h.calls, d.sender = "#s#hub" ∧
      Piece.ofFlags? d.flags ≠ some .single ∧ d.flags ≠ .empty := by
    decide +kernel
  obtain ⟨d, hd, ⟨hsingle, -⟩ | ⟨hempty, -⟩⟩ | ⟨sender, hin, happen⟩ :=
    received_in_pieces Hub.transport _ {} _ apartTurns m hm
  · exact absurd hsingle (hdeliveries d hd).2.1
  · exact absurd hempty (hdeliveries d hd).2.2
  · obtain ⟨first, next, hpair, -⟩ := hin.exists_next
    obtain ⟨d, hd, rfl⟩ :=
      Exchange.exists_delivery_of_mem_marks (List.of_mem_zip hpair).1
    rw [(hdeliveries d hd).1] at happen
    exact ⟨hm, hclosed, happen hclosed⟩

/-- The hub drops its clients in the middle of a message. -/
def interruptedTurns : List (Turn Hub) :=
  .act (.subscribe "news") :: working 8 ++
    multicastPiece .first "news\tto be " :: working 8 ++
    .elsewhere Hub.dropAll :: multicastPiece .middle "or not " :: working 12 ++
    multicastPiece .last "to be" :: working 8 ++ [.act .receive]

/-- The message that callers receive then was sent by nobody: its first piece
came in one session, its last one in another, and between them one is
missing. -/
theorem received_across_sessions :
    let h := historyOnHub interruptedTurns
    let m : Message := { topic := "news", text := "to be to be" }
    h.received = [m] ∧ ¬ m.InOne (Exchange.deliveries h.calls) ∧
      ¬ ∃ sender, m.InPieces (Exchange.marks true sender h.calls) := by
  intro h m
  have hmarks : Exchange.marks true "#s#hub" h.calls =
      [.session, .piece .first (Bytes.ofText "news\tto be "), .session,
        .piece .last (Bytes.ofText "to be")] := by decide +kernel
  refine ⟨by decide +kernel, ?_, ?_⟩
  · have hpieces : ∀ d ∈ Exchange.deliveries h.calls,
        Piece.ofFlags? d.flags ≠ some .single ∧ d.flags ≠ .empty := by
      decide +kernel
    rintro ⟨d, hd, ⟨hsingle, -⟩ | ⟨hempty, -⟩⟩
    · exact (hpieces d hd).1 hsingle
    · exact (hpieces d hd).2 hempty
  · rintro ⟨sender, hin⟩
    obtain ⟨first, next, hpair, hnext⟩ := hin.exists_next
    have hsenders : ∀ d ∈ Exchange.deliveries h.calls, d.sender = "#s#hub" := by
      decide +kernel
    obtain ⟨d, hd, rfl⟩ :=
      Exchange.exists_delivery_of_mem_marks (List.of_mem_zip hpair).1
    rw [hsenders d hd, hmarks] at hpair
    -- Behind the one first piece that there is, a session opens.
    have hsession : first = Bytes.ofText "news\tto be " ∧ next = .session := by
      simpa using hpair
    exact hnext hsession.2

end Relay

end Courier
