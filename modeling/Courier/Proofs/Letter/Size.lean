import Courier.Letter
import Courier.Proofs.Frame.RoundTrip
import Courier.Proofs.Relay.Acceptance

/-!
# Sizes without writing

How long a frame will be is computed from its parts. All but one of them are
copied when the frame is written; of the length field the digits are counted by
dividing, and they are as many as are written (`Frame.digitCount_eq`). So a
frame is as long as computed, and so is whatever is made of frames.

A letter is therefore refused for its size exactly if the sizes of its topic,
of the frame of its body and of the frames of its attributes come to more than
the limit.
-/

namespace Courier

namespace Frame

theorem size_eq (f : Frame) : f.size = f.text.utf8ByteSize := by
  have hopen : "[".utf8ByteSize = 1 ∧ " (".utf8ByteSize = 2 := ⟨rfl, rfl⟩
  have hclose : " ".utf8ByteSize = 1 ∧ trailer.utf8ByteSize = 3 := ⟨rfl, rfl⟩
  rw [size, digitCount_eq, text]
  simp only [String.utf8ByteSize_append]
  omega

theorem size_encode (frames : List Frame) :
    (encode frames).utf8ByteSize = (frames.map size).sum := by
  induction frames with
  | nil => rfl
  | cons f frames ih =>
      rw [encode_cons, String.utf8ByteSize_append, ih, List.map_cons,
        List.sum_cons, size_eq]

end Frame

/-- Can the topic name a group, and can it be told from the text again? -/
def Message.NamesGroup (topic : String) : Prop :=
  checkTopic topic = .ok () ∧ topic.utf8ByteSize ≤ Transport.maxGroupSize

/-- The size is looked at last, when there is nothing wrong with the topic. -/
theorem Message.check_eq_tooLarge_iff {m : Message} {limit size bound : Nat} :
    m.check limit = .error (.tooLarge size bound) ↔
      NamesGroup m.topic ∧ limit < m.size ∧ size = m.size ∧ bound = limit := by
  rw [Agent.checkMessage_eq, NamesGroup, ← Nat.not_lt]
  cases checkTopic m.topic with
  | error cause => simp
  | ok u =>
      by_cases hgroup : Transport.maxGroupSize < m.topic.utf8ByteSize
      · simp [hgroup]
      · by_cases hsize : limit < m.size
        · simp [hgroup, hsize, eq_comm]
        · simp [hgroup, hsize]

namespace Letter

variable {σ : Type}

/-- The size of the payload of a letter: its topic, a tab, the frame of the
body and those of the attributes. -/
def size (l : Letter) : Nat :=
  l.topic.utf8ByteSize + 1 + Frame.size ⟨bodyName, l.body⟩ +
    (l.attributes.toList.map fun (name, value) => Frame.size ⟨name, value⟩).sum

theorem size_toMessage (l : Letter) : l.toMessage.size = l.size := by
  rw [Message.size, toMessage, Frame.size_encode, frames, List.map_cons,
    List.sum_cons, List.map_map, size, Nat.add_assoc (_ + 1)]
  rfl

theorem check_toMessage {l : Letter} {limit : Nat} :
    l.toMessage.check limit = .ok () ↔
      Message.NamesGroup l.topic ∧ l.size ≤ limit := by
  rw [Agent.check_eq_ok_iff, size_toMessage, Message.NamesGroup, and_assoc]
  rfl

/-- The size of a frame, and with it that of frames and of letters, is that of
the text that would be written. A letter with a proper topic is refused for its
size exactly if its size so computed is above the limit, and what is reported
is this size. -/
theorem sizes_agree_with_texts :
    (∀ n : Nat, Frame.digitCount n = n.repr.utf8ByteSize) ∧
    (∀ f : Frame, f.size = f.text.utf8ByteSize) ∧
    (∀ frames : List Frame,
      (Frame.encode frames).utf8ByteSize = (frames.map Frame.size).sum) ∧
    ∀ l : Letter, l.toMessage.size = l.size ∧
      (∀ limit, l.toMessage.check limit = .ok () ↔
        Message.NamesGroup l.topic ∧ l.size ≤ limit) ∧
      ∀ s : Stage Relay σ,
        Task.Ends (Relay.sendLetter l) s fun answer _ =>
          ∀ size bound,
            answer = .refused (.tooLarge size bound) ↔
              Message.NamesGroup l.topic ∧ s.self.limit < l.size ∧
                size = l.size ∧ bound = s.self.limit := by
  refine ⟨Frame.digitCount_eq, Frame.size_eq, Frame.size_encode, fun l =>
    ⟨l.size_toMessage, fun limit => check_toMessage, fun s size bound => ?_⟩⟩
  obtain ⟨hrefused, -⟩ :=
    Relay.send_refused_iff l.toMessage (.tooLarge size bound) s
  rw [Message.check_eq_tooLarge_iff, size_toMessage] at hrefused
  exact (and_iff_left trivial).symm.trans hrefused

end Letter

end Courier
