import Courier.Proofs.Agent.Record
import Courier.Proofs.Payload
import Courier.Proofs.Relay.Reading

/-!
# Where messages come from

A message that is read from deliveries came as a whole, or in pieces: a first
piece, middle pieces and a last one, which are all of one sender, follow each
other without another piece of that sender, and carry the payload of the
message together.

Sessions may open between pieces, and whatever was multicast while there was
no session has been missed. Nothing is dropped then, so pieces are joined
across sessions. But only what is open can be joined: a sender of whom nothing
was open whenever a session opened has all pieces of each message in one.

The induction is on the record, from its end. What carries it is what a table
of open messages knows about the past (`OpenFrom`): behind the first piece of
what is open there are middle pieces, and nothing else.
-/

namespace Courier

/-- What a record shows of a sender: pieces that came, and sessions that
opened. -/
inductive Mark where
  | piece (piece : Piece) (payload : Bytes)
  | session
  deriving DecidableEq

namespace Exchange

def opensSession : Exchange → Bool
  | connect _ _ (.ok _) => true
  | _ => false

/-- What a call shows of a sender, with or without sessions. Complete messages
are not shown. -/
def mark? (sessions : Bool) (sender : String) : Exchange → Option Mark
  | connect _ _ (.ok _) => if sessions then some .session else none
  | receive (.ok d) =>
    if d.sender = sender then
      match Piece.ofFlags? d.flags with
      | none | some .single => none
      | some piece => some (.piece piece d.payload)
    else none
  | _ => none

def marks (sessions : Bool) (sender : String) (calls : List Exchange) :
    List Mark :=
  calls.filterMap (mark? sessions sender)

/-- Nothing of the sender's was open when a session opened. -/
def ClosedAtSessions (sender : String) (calls : List Exchange) : Prop :=
  ∀ i < calls.length, calls[i]?.any opensSession = true →
    (Reading.all (deliveries (calls.take i))).assemblies.get? sender = none

instance (sender : String) (calls : List Exchange) :
    Decidable (ClosedAtSessions sender calls) :=
  inferInstanceAs (Decidable (∀ i < calls.length, _))

end Exchange

/-- The message came in pieces: a first one, middle ones and a last one, which
follow each other and carry its payload together. -/
def Message.InPieces (m : Message) (marks : List Mark) : Prop :=
  ∃ before first, ∃ middles : List Bytes, ∃ last after,
    marks = before ++ .piece .first first ::
        (middles.map (Mark.piece .middle) ++ .piece .last last :: after) ∧
      Message.ofPayload (first ++ middles.flatten ++ last) = .ok m

/-- The message came in one delivery, or stands for a keep-alive. -/
def Message.InOne (m : Message) (deliveries : List Delivery) : Prop :=
  ∃ d ∈ deliveries,
    Piece.ofFlags? d.flags = some .single ∧
        Message.ofPayload d.payload = .ok m ∨
      d.flags = .empty ∧ keepAlivePayload.isPrefixOf d.payload = true ∧
        m = ⟨keepAliveGroup, d.sender⟩

/-- An open message has begun with a first piece, and only middle pieces have
come since. -/
def Assembly.OpenFrom (assembly : Assembly) (marks : List Mark) : Prop :=
  ∃ before first, ∃ middles : List Bytes, ∃ begun,
    marks = before ++ .piece .first first ::
        middles.map (Mark.piece .middle) ∧
      Assemblies.begin? first = .ok begun ∧
      assembly = { begun with text := begun.text ++ middles.flatten }

namespace Exchange

variable {calls more : List Exchange} {call : Exchange} {sessions : Bool}
  {sender : String}

theorem marks_append :
    marks sessions sender (calls ++ more) =
      marks sessions sender calls ++ marks sessions sender more :=
  List.filterMap_append ..

theorem ClosedAtSessions.of_append (h : ClosedAtSessions sender (calls ++ more)) :
    ClosedAtSessions sender calls := by
  intro i hi hopens
  have := h i (by simp; omega)
  rw [List.getElem?_append_left hi, List.take_append_of_le_length (by omega)]
    at this
  exact this hopens

/-- What was open when the last call opened a session. -/
theorem ClosedAtSessions.last (h : ClosedAtSessions sender (calls ++ [call]))
    (hopens : call.opensSession = true) :
    (Reading.all (deliveries calls)).assemblies.get? sender = none := by
  have := h calls.length (by simp)
  rw [List.getElem?_concat_length, List.take_left] at this
  exact this hopens

end Exchange

/-! ## Pieces -/

theorem Message.InPieces.append {m : Message} {marks : List Mark}
    (h : m.InPieces marks) (more : List Mark) : m.InPieces (marks ++ more) := by
  obtain ⟨before, first, middles, last, after, rfl, hm⟩ := h
  exact ⟨before, first, middles, last, after ++ more, by simp, hm⟩

theorem Message.InOne.mono {m : Message} {deliveries more : List Delivery}
    (h : m.InOne deliveries) (hsub : deliveries ⊆ more) : m.InOne more := by
  obtain ⟨d, hd, hm⟩ := h
  exact ⟨d, hsub hd, hm⟩

/-- Right behind the first piece of a message comes another piece. -/
theorem Message.InPieces.exists_next {m : Message} {marks : List Mark}
    (h : m.InPieces marks) :
    ∃ first next, (.piece .first first, next) ∈ marks.zip marks.tail ∧
      next ≠ .session := by
  obtain ⟨before, first, middles, last, after, rfl, -⟩ := h
  have hzip : ∀ next rest, (Mark.piece .first first, next) ∈
      List.zip (before ++ .piece .first first :: next :: rest)
        (before ++ .piece .first first :: next :: rest).tail := by
    intro next rest
    refine List.mem_of_getElem? (i := before.length) ?_
    simp
  cases middles with
  | nil => exact ⟨first, _, hzip _ _, nofun⟩
  | cons middle rest => exact ⟨first, _, hzip _ _, nofun⟩

namespace Assembly.OpenFrom

variable {assembly : Assembly} {marks : List Mark}

theorem begin {first : Bytes} (h : Assemblies.begin? first = .ok assembly)
    (marks : List Mark) :
    assembly.OpenFrom (marks ++ [.piece .first first]) :=
  ⟨marks, first, [], assembly, rfl, h, by simp⟩

theorem middle (h : assembly.OpenFrom marks) (payload : Bytes) :
    OpenFrom { assembly with text := assembly.text ++ payload }
      (marks ++ [.piece .middle payload]) := by
  obtain ⟨before, first, middles, begun, rfl, hbegin, rfl⟩ := h
  exact ⟨before, first, middles ++ [payload], begun, by simp, hbegin, by simp⟩

theorem last (h : assembly.OpenFrom marks) {payload : Bytes} {text : String}
    (htext : Message.readText (assembly.text ++ payload) = .ok text) :
    Message.InPieces { topic := assembly.topic, text }
      (marks ++ [.piece .last payload]) := by
  obtain ⟨before, first, middles, begun, rfl, hbegin, rfl⟩ := h
  refine ⟨before, first, middles, payload, [], by simp, ?_⟩
  rw [List.append_assoc, Assemblies.ofPayload_of_begin? hbegin,
    ← List.append_assoc, htext]
  rfl

end Assembly.OpenFrom

namespace Reading

variable {r : Reading} {d : Delivery}

theorem assemblies_take_none (h : Piece.ofFlags? d.flags = none) :
    (r.take d).assemblies = r.assemblies := by
  simp only [take, h, takeOther]
  split
  · split <;> rfl
  · rfl

theorem assemblies_take_some {piece : Piece}
    (h : Piece.ofFlags? d.flags = some piece) :
    (r.take d).assemblies =
      (r.assemblies.push ⟨d.sender, piece, d.payload⟩).assemblies := by
  simp only [take, h]
  split <;> rfl

/-- What is open after a delivery was begun or continued by it, or it was open
before, and the delivery is no piece of the sender's. -/
theorem get?_take {sender : String} {assembly : Assembly}
    (h : (r.take d).assemblies.get? sender = some assembly) :
    (d.sender = sender ∧ Piece.ofFlags? d.flags = some .first ∧
        Assemblies.begin? d.payload = .ok assembly) ∨
      (d.sender = sender ∧ Piece.ofFlags? d.flags = some .middle ∧
        ∃ before, r.assemblies.get? sender = some before ∧
          assembly = { before with text := before.text ++ d.payload }) ∨
      (∀ sessions, Exchange.mark? sessions sender (.receive (.ok d)) = none) ∧
        r.assemblies.get? sender = some assembly := by
  cases hpiece : Piece.ofFlags? d.flags with
  | none =>
      rw [assemblies_take_none hpiece] at h
      refine .inr (.inr ⟨fun sessions => ?_, h⟩)
      simp [Exchange.mark?, hpiece]
  | some piece =>
      rw [assemblies_take_some hpiece] at h
      by_cases hsender : d.sender = sender
      · subst hsender
        cases piece with
        | single =>
            refine .inr (.inr ⟨fun sessions => ?_, h⟩)
            simp [Exchange.mark?, hpiece]
        | first =>
            simp only [Assemblies.push, Assemblies.pushFirst] at h
            split at h
            · simp [Assemblies.get?_discard] at h
            · next begun hbegin =>
                simp only [Assemblies.get?_insert, if_true,
                  Option.some.injEq] at h
                exact .inl ⟨rfl, rfl, h ▸ hbegin⟩
        | middle =>
            simp only [Assemblies.push, Assemblies.pushMiddle] at h
            split at h
            · next hnone => simp [hnone] at h
            · next before hbefore =>
                simp only [Assemblies.get?_insert, if_true,
                  Option.some.injEq] at h
                exact .inr (.inl ⟨rfl, rfl, before, hbefore, h.symm⟩)
        | last =>
            simp only [Assemblies.push, Assemblies.pushLast] at h
            split at h
            · next hnone => simp [hnone] at h
            · split at h <;> simp [Assemblies.get?_discard] at h
      · rw [Assemblies.get?_push_of_ne hsender] at h
        refine .inr (.inr ⟨fun sessions => ?_, h⟩)
        simp [Exchange.mark?, hsender]

/-- A message that comes of a delivery came as a whole, or the delivery is the
last piece of what was open. -/
theorem messages_take {m : Message} (h : m ∈ (r.take d).messages) :
    m ∈ r.messages ∨ m.InOne [d] ∨
      Piece.ofFlags? d.flags = some .last ∧
        ∃ assembly text, r.assemblies.get? d.sender = some assembly ∧
          Message.readText (assembly.text ++ d.payload) = .ok text ∧
          m = { topic := assembly.topic, text } := by
  simp only [take] at h
  cases hpiece : Piece.ofFlags? d.flags with
  | none =>
      simp only [hpiece, takeOther] at h
      split at h
      · next hempty =>
          split at h
          · next hprefix =>
              refine (List.mem_append.mp h).imp_right fun hm => .inl ?_
              exact ⟨d, by simp, .inr ⟨hempty, hprefix, List.mem_singleton.mp hm⟩⟩
          · exact .inl h
      · exact .inl h
  | some piece =>
      simp only [hpiece] at h
      split at h
      · next m? hm? =>
          refine (List.mem_append.mp h).imp_right fun hm => ?_
          obtain rfl := Option.mem_toList.mp hm
          cases piece with
          | single =>
              simp only [Assemblies.push] at hm?
              split at hm?
              · next m' hm' =>
                  cases hm?
                  exact .inl ⟨d, by simp, .inl ⟨hpiece, hm'⟩⟩
              · cases hm?
          | first =>
              simp only [Assemblies.push, Assemblies.pushFirst] at hm?
              split at hm?
              · cases hm?
              · simp only at hm?
                split at hm? <;> cases hm?
          | middle =>
              simp only [Assemblies.push, Assemblies.pushMiddle] at hm?
              split at hm? <;> cases hm?
          | last =>
              simp only [Assemblies.push, Assemblies.pushLast] at hm?
              split at hm?
              · cases hm?
              · next assembly hassembly =>
                  split at hm?
                  · cases hm?
                  · next text htext =>
                      cases hm?
                      exact .inr ⟨rfl, assembly, text, hassembly, htext, rfl⟩
      · exact .inl h

end Reading

/-! ## Records -/

namespace Exchange

variable {calls : List Exchange} {sender : String}

theorem all_concat_of_delivery {call : Exchange} {d : Delivery}
    (h : call.delivery? = some d) :
    Reading.all (deliveries (calls ++ [call])) =
      (Reading.all (deliveries calls)).take d := by
  simp [deliveries, h, Reading.all]

theorem deliveries_concat_of_none {call : Exchange}
    (h : call.delivery? = none) :
    deliveries (calls ++ [call]) = deliveries calls := by
  simp [deliveries, h]

/-- A call that returns no delivery shows nothing, or it opens a session. -/
theorem marks_of_no_delivery {call : Exchange} (h : call.delivery? = none)
    (sessions : Bool) (sender : String) :
    marks sessions sender [call] = [] ∨
      sessions = true ∧ call.opensSession = true := by
  match call with
  | .receive (.ok d) => cases h
  | .receive (.error _) | .join .. | .leave .. | .multicast .. | .poll _
  | .disconnect | .connect _ _ (.error _) => exact .inl rfl
  | .connect _ _ (.ok _) =>
      cases sessions with
      | false => exact .inl rfl
      | true => exact .inr ⟨rfl, rfl⟩

theorem exists_of_delivery {call : Exchange} {d : Delivery}
    (h : call.delivery? = some d) : call = .receive (.ok d) := by
  match call with
  | .receive (.ok _) =>
      cases h
      rfl
  | .receive (.error _) | .join .. | .leave .. | .multicast .. | .poll _
  | .disconnect | .connect .. => cases h

theorem marks_of_piece {d : Delivery} {piece : Piece} (sessions : Bool)
    (hpiece : Piece.ofFlags? d.flags = some piece) (hne : piece ≠ .single) :
    marks sessions d.sender [.receive (.ok d)] = [.piece piece d.payload] := by
  cases piece with
  | single => exact absurd rfl hne
  | _ => simp [marks, mark?, hpiece]

/-- Only senders of deliveries have pieces. -/
theorem exists_delivery_of_mem_marks {sessions : Bool} {piece : Piece}
    {payload : Bytes} (h : .piece piece payload ∈ marks sessions sender calls) :
    ∃ d ∈ deliveries calls, d.sender = sender := by
  obtain ⟨call, hcall, hmark⟩ := List.mem_filterMap.mp h
  match call with
  | .receive (.ok d) =>
      refine ⟨d, List.mem_filterMap.mpr ⟨_, hcall, rfl⟩, ?_⟩
      by_contra hne
      simp [mark?, hne] at hmark
  | .connect _ _ (.ok _) => cases sessions <;> cases hmark
  | .receive (.error _) | .join .. | .leave .. | .multicast .. | .poll _
  | .disconnect | .connect _ _ (.error _) => cases hmark

/-- What is open is made up of the last pieces of its sender. No session has
opened since it began, if nothing of the sender's is ever open then. -/
theorem openFrom_marks {sessions : Bool}
    (hclosed : sessions = true → ClosedAtSessions sender calls)
    {assembly : Assembly}
    (h : (Reading.all (deliveries calls)).assemblies.get? sender =
      some assembly) :
    assembly.OpenFrom (marks sessions sender calls) := by
  induction calls using List.reverseRecOn generalizing assembly with
  | nil =>
      simp [deliveries, Reading.all, Assemblies.get?, Assemblies.empty] at h
  | append_singleton calls call ih =>
      have ih := @ih fun hs => (hclosed hs).of_append
      rw [marks_append]
      cases hd : call.delivery? with
      | none =>
          rw [deliveries_concat_of_none hd] at h
          obtain hmarks | ⟨hs, hopens⟩ := marks_of_no_delivery hd sessions sender
          · rw [hmarks, List.append_nil]
            exact ih h
          · rw [(hclosed hs).last hopens] at h
            cases h
      | some d =>
          rw [all_concat_of_delivery hd] at h
          obtain rfl := exists_of_delivery hd
          obtain ⟨rfl, hpiece, hbegin⟩ |
            ⟨rfl, hpiece, before, hbefore, rfl⟩ | ⟨hmark, hsame⟩ :=
            Reading.get?_take h
          · rw [marks_of_piece sessions hpiece (by decide)]
            exact .begin hbegin _
          · rw [marks_of_piece sessions hpiece (by decide)]
            exact (ih hbefore).middle _
          · have hnone : marks sessions sender [.receive (.ok d)] = [] := by
              simp [marks, hmark]
            rw [hnone, List.append_nil]
            exact ih hsame

/-- What is read from the deliveries on a record came as a whole or in pieces,
and if its sender never had anything open when a session opened, then all
pieces came in one session. -/
theorem provenance {m : Message}
    (h : m ∈ (Reading.all (deliveries calls)).messages) :
    m.InOne (deliveries calls) ∨ ∃ sender,
      m.InPieces (marks false sender calls) ∧
        (ClosedAtSessions sender calls →
          m.InPieces (marks true sender calls)) := by
  induction calls using List.reverseRecOn with
  | nil => cases h
  | append_singleton calls call ih =>
      have hold : m ∈ (Reading.all (deliveries calls)).messages →
          m.InOne (deliveries (calls ++ [call])) ∨ ∃ sender,
            m.InPieces (marks false sender (calls ++ [call])) ∧
              (ClosedAtSessions sender (calls ++ [call]) →
                m.InPieces (marks true sender (calls ++ [call]))) := by
        intro hm
        obtain hone | ⟨sender, hpieces, hclosed⟩ := ih hm
        · left
          rw [deliveries_append]
          exact hone.mono (List.subset_append_left ..)
        · right
          refine ⟨sender, ?_, fun hc => ?_⟩
          · rw [marks_append]
            exact hpieces.append _
          · rw [marks_append]
            exact (hclosed hc.of_append).append _
      cases hd : call.delivery? with
      | none =>
          rw [deliveries_concat_of_none hd] at h
          exact hold h
      | some d =>
          rw [all_concat_of_delivery hd] at h
          obtain rfl := exists_of_delivery hd
          obtain hm | hone |
            ⟨hpiece, assembly, text, hassembly, htext, rfl⟩ :=
            Reading.messages_take h
          · exact hold hm
          · left
            rw [deliveries_append]
            exact hone.mono (List.subset_append_right ..)
          · right
            refine ⟨d.sender, ?_, fun hc => ?_⟩
            · rw [marks_append, marks_of_piece false hpiece (by decide)]
              exact (openFrom_marks (fun h => by cases h) hassembly).last htext
            · rw [marks_append, marks_of_piece true hpiece (by decide)]
              exact (openFrom_marks (fun _ => hc.of_append) hassembly).last htext

end Exchange

end Courier
