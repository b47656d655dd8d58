import Courier.Proofs.ByteOrder
import Courier.Proofs.Letter.RoundTrip

/-!
# The normal form of the messages of a letter

Many messages are read as one letter. Their frames may come in any order, a
name may come more than once with only its last value counting, and length
fields may have zeros in front. Among them is the one message that the letter
is written as: the body first, then each attribute once, in the order of the
bytes of the names.

That this message is read as the letter again needs no bound on its size. Each
of its frames is one that was read, but for the frame of an empty body where
none came (`legible_frames`), so it has a name without a space and a length
that can be read.
-/

namespace Courier

namespace Frame

variable {frames : List Frame}

/-- If the frame is written, it is read as it was. -/
def Legible (f : Frame) : Prop :=
  f.declared < 2 ^ 64 ∧ ' ' ∉ f.name.toList

theorem legible_of_decode {text : String} (h : decode text = .ok frames) :
    ∀ f ∈ frames, f.Legible := by
  obtain ⟨blocks, -, rfl⟩ := Block.exists_of_decode h
  rw [List.forall_mem_map]
  exact fun b _ => ⟨b.bounded, b.unspaced⟩

theorem decode_encode_of_legible (h : ∀ f ∈ frames, f.Legible) :
    decode (encode frames) = .ok frames := by
  rw [decode_encode_of_declared fun f hf => (h f hf).1,
    map_ofPhrase_eq_iff.mpr fun f hf => (h f hf).2]

end Frame

namespace Letter

variable {topic text name : String} {frames : List Frame} {m : Message}
  {l : Letter}

theorem ofMessage_of_decode (h : Frame.decode m.text = .ok frames) :
    ofMessage m = .ok (ofFrames m.topic frames) := by
  rw [ofMessage, h]
  rfl

/-- The frames of the attributes, as they are written. -/
def attributeFrames (l : Letter) : List Frame :=
  l.attributes.toList.map fun (name, value) => { name, value }

theorem frames_eq (l : Letter) :
    l.frames = ⟨bodyName, l.body⟩ :: l.attributeFrames :=
  rfl

theorem mem_attributeFrames {f : Frame} :
    f ∈ l.attributeFrames ↔ l.get? f.name = some f.value := by
  rw [attributeFrames, List.mem_map, get?,
    ← Std.ExtTreeMap.mem_toList_iff_getElem?_eq_some]
  constructor
  · rintro ⟨⟨name, value⟩, hmem, rfl⟩
    exact hmem
  · exact fun hmem => ⟨_, hmem, rfl⟩

theorem attributeFrames_ordered (l : Letter) :
    (l.attributeFrames.map fun f => Bytes.ofText f.name).Pairwise (· < ·) := by
  rw [attributeFrames, List.map_map]
  exact pairwise_ofText_keys l.attributes

/-! ## Letters that were read -/

theorem get?_eq_some_iff {value : String} :
    (ofFrames topic frames).get? name = some value ↔
      name ≠ bodyName ∧ Frame.lastValue? name frames = some value := by
  rw [get?_ofFrames]
  split
  · next hname => simp [hname]
  · next hname => simp [hname]

theorem legible_frames (h : Frame.decode text = .ok frames) :
    ∀ f ∈ (ofFrames topic frames).frames, f.Legible := by
  have hlegible := Frame.legible_of_decode h
  rw [frames_eq, List.forall_mem_cons]
  refine ⟨?_, fun f hf => ?_⟩
  · rw [body_ofFrames]
    -- Without a body the letter is written with one that was not read.
    cases hbody : Frame.lastValue? bodyName frames with
    | none => exact ⟨by decide, by decide⟩
    | some value => exact hlegible _ (Frame.mem_of_lastValue? hbody)
  · obtain ⟨-, hvalue⟩ := get?_eq_some_iff.mp (mem_attributeFrames.mp hf)
    exact hlegible _ (Frame.mem_of_lastValue? hvalue)

theorem decode_toMessage (h : Frame.decode text = .ok frames) :
    Frame.decode (ofFrames topic frames).toMessage.text =
      .ok (ofFrames topic frames).frames :=
  Frame.decode_encode_of_legible (legible_frames h)

/-- A letter that was read is read off its own message. -/
theorem ofMessage_toMessage_of_decode (h : Frame.decode text = .ok frames) :
    ofMessage (ofFrames topic frames).toMessage =
      .ok (ofFrames topic frames) := by
  rw [ofMessage_of_decode (decode_toMessage h)]
  refine congrArg Except.ok (Eq.trans ?_ (ofFrames_frames bodyName_notMem_ofFrames))
  rfl

/-! ## Written anew -/

/-- The message of the letter that a message is read as. -/
def renewed (m : Message) : Except FormatError Message :=
  toMessage <$> ofMessage m

theorem renewed_of_decode (h : Frame.decode m.text = .ok frames) :
    renewed m = .ok (ofFrames m.topic frames).toMessage := by
  rw [renewed, ofMessage_of_decode h]
  rfl

theorem renewed_eq_iff {m' : Message} {frames' : List Frame}
    (h : Frame.decode m.text = .ok frames)
    (h' : Frame.decode m'.text = .ok frames') :
    renewed m = renewed m' ↔ ofMessage m = ofMessage m' := by
  refine ⟨fun hsame => ?_, congrArg (toMessage <$> ·)⟩
  rw [renewed_of_decode h, renewed_of_decode h', Except.ok.injEq] at hsame
  rw [ofMessage_of_decode h, ofMessage_of_decode h',
    ← ofMessage_toMessage_of_decode h, hsame, ofMessage_toMessage_of_decode h']

/-- A message is read as the letter in which each name has its last value. This
letter is written with one frame for the body and then one for each other name,
in the order of their bytes; what is so written is read as the same letter, and
written anew it stays as it is. Messages are written anew in the same way
exactly if they are read as the same letter. -/
theorem renewed_in_normal_form (m : Message) (frames : List Frame)
    (h : Frame.decode m.text = .ok frames) :
    ∃ l, ofMessage m = .ok l ∧ l.topic = m.topic ∧
      l.body = (Frame.lastValue? bodyName frames).getD "" ∧
      (∀ name, name ∈ l.attributes ↔
        name ≠ bodyName ∧ ∃ f ∈ frames, f.name = name) ∧
      (∀ name, name ≠ bodyName →
        l.get? name = Frame.lastValue? name frames) ∧
      (∃ others, l.toMessage =
          ⟨m.topic, Frame.encode (⟨bodyName, l.body⟩ :: others)⟩ ∧
        Frame.decode l.toMessage.text = .ok (⟨bodyName, l.body⟩ :: others) ∧
        (others.map fun f => Bytes.ofText f.name).Pairwise (· < ·) ∧
        ∀ f, f ∈ others ↔ f.name ≠ bodyName ∧
          Frame.lastValue? f.name frames = some f.value) ∧
      ofMessage l.toMessage = .ok l ∧
      renewed m = .ok l.toMessage ∧ renewed l.toMessage = .ok l.toMessage ∧
      ∀ m' frames', Frame.decode m'.text = .ok frames' →
        (renewed m = renewed m' ↔ ofMessage m = ofMessage m') := by
  have hagain : ofMessage (ofFrames m.topic frames).toMessage = _ :=
    ofMessage_toMessage_of_decode h
  refine ⟨ofFrames m.topic frames, ofMessage_of_decode h, topic_ofFrames,
    body_ofFrames, fun name => ?_, fun name hname => ?_,
    ⟨(ofFrames m.topic frames).attributeFrames, ?_, decode_toMessage h,
      attributeFrames_ordered _, fun f => ?_⟩,
    hagain, renewed_of_decode h, congrArg (toMessage <$> ·) hagain,
    fun m' frames' h' => renewed_eq_iff h h'⟩
  · rw [mem_attributes_iff, get?_ofFrames, ← Frame.lastValue?_ne_none_iff]
    split
    · next hname => simp [hname]
    · next hname => simp [hname]
  · rw [get?_ofFrames, if_neg hname]
  · rw [toMessage, topic_ofFrames, frames_eq]
  · rw [mem_attributeFrames, get?_eq_some_iff]

/-- Names that come twice, the body among them, a value that imitates a frame,
and zeros in front of lengths. -/
theorem renewed_in_normal_form_scattered :
    let frames : List Frame := [⟨"b", "1"⟩, ⟨"m_body", "x"⟩,
      ⟨"ä", " [6 (b c)\n]"⟩, ⟨"b", "2"⟩, ⟨"m_body", "y z"⟩]
    let m : Message := ⟨"T", "[6 (b 1)\n][11 (m_body x)\n]" ++
      "[0017 (ä  [6 (b c)\n])\n][06 (b 2)\n][13 (m_body y z)\n]"⟩
    Frame.decode m.text = .ok frames ∧
      ∃ l, ofMessage m = .ok l ∧ l.body = "y z" ∧ l.get? "b" = some "2" ∧
        ofMessage l.toMessage = .ok l ∧
        renewed l.toMessage = .ok l.toMessage := by
  intro frames m
  have h : Frame.decode m.text = .ok frames := by decide +kernel
  obtain ⟨l, hl, -, hbody, -, hget, -, hagain, -, hsame, -⟩ :=
    renewed_in_normal_form m frames h
  exact ⟨h, l, hl, hbody.trans (by decide),
    (hget "b" (by decide)).trans (by decide), hagain, hsame⟩

end Letter

end Courier
