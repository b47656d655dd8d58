import Courier.Assembly

/-!
# Payloads and their first tab

A payload is cut at its first tab, whatever follows. So more bytes at its end
never move the cut, and this is why a message may be sent in pieces: the
first piece alone decides the topic, and the rest is appended to the text.
-/

namespace Courier

namespace Bytes

/-- An ASCII byte in the UTF-8 form of a character is the character. -/
theorem mem_utf8EncodeChar {b : UInt8} (hb : b.toNat < 128) {c : Char} :
    b ∈ String.utf8EncodeChar c ↔ c.toNat = b.toNat := by
  have hof : ∀ n, b = UInt8.ofNat n ↔ n % 256 = b.toNat := by
    intro n
    rw [← UInt8.toNat_inj, UInt8.toNat_ofNat', eq_comm]
  simp only [String.utf8EncodeChar]
  show _ ↔ c.val.toNat = b.toNat
  split
  · rw [List.mem_singleton, hof]
    omega
  · split
    · simp only [List.mem_cons, hof, List.not_mem_nil, or_false]
      omega
    · split
      · simp only [List.mem_cons, hof, List.not_mem_nil, or_false]
        omega
      · simp only [List.mem_cons, hof, List.not_mem_nil, or_false]
        omega

theorem toNat_ofChar {c : Char} (hc : c.toNat < 128) :
    (ofChar c).toNat = c.toNat := by
  rw [ofChar, Nat.toUInt8, UInt8.toNat_ofNat']
  omega

theorem ofChar_mem_utf8EncodeChar {c d : Char} (hc : c.toNat < 128) :
    ofChar c ∈ String.utf8EncodeChar d ↔ d = c := by
  have hb := toNat_ofChar hc
  rw [mem_utf8EncodeChar (by omega), hb, Char.toNat_inj]

/-- An ASCII character is one byte. -/
theorem utf8EncodeChar_of_lt {c : Char} (hc : c.toNat < 128) :
    String.utf8EncodeChar c = [ofChar c] := by
  have hsize : c.utf8Size = 1 := by
    rw [Char.utf8Size_eq_one_iff, UInt32.le_iff_toNat_le]
    show c.toNat ≤ 127
    omega
  exact String.utf8EncodeChar_eq_singleton hsize

theorem ofText_eq_flatMap (s : String) :
    ofText s = s.toList.flatMap String.utf8EncodeChar := by
  rw [ofText, ← String.utf8Encode_toList, List.utf8Encode]
  simp

theorem ofChar_mem_ofText {c : Char} (hc : c.toNat < 128) {s : String} :
    ofChar c ∈ ofText s ↔ c ∈ s.toList := by
  simp only [ofText_eq_flatMap, List.mem_flatMap,
    ofChar_mem_utf8EncodeChar hc, exists_eq_right]

theorem ofText_inj {s t : String} : ofText s = ofText t ↔ s = t := by
  refine ⟨fun h => ?_, congrArg ofText⟩
  have htext := text?_ofText s
  rw [h, text?_ofText] at htext
  exact (Option.some.inj htext).symm

/-- The first place of a byte cuts a list in two. -/
theorem idxOf?_eq_some_iff {b : Bytes} {x : UInt8} {i : Nat} :
    b.idxOf? x = some i ↔
      ∃ before after, b = before ++ x :: after ∧ x ∉ before ∧
        before.length = i := by
  constructor
  · intro h
    obtain ⟨hlt, hx, hbefore⟩ := List.idxOf?_eq_some_iff.mp h
    refine ⟨b.take i, b.drop (i + 1), ?_, fun hmem => ?_, ?_⟩
    · rw [← hx, ← List.drop_eq_getElem_cons hlt, List.take_append_drop]
    · obtain ⟨j, hj, hjx⟩ := List.mem_iff_getElem.mp hmem
      rw [List.length_take] at hj
      rw [List.getElem_take] at hjx
      exact hbefore j (by omega) hjx
    · rw [List.length_take]
      omega
  · rintro ⟨before, after, rfl, hnot, rfl⟩
    rw [List.idxOf?_eq_some_iff]
    refine ⟨by simp, by simp, fun j hj hjx => hnot ?_⟩
    rw [List.getElem_append_left hj] at hjx
    exact hjx ▸ List.getElem_mem hj

end Bytes

namespace Message

/-- Does the payload name a topic: does it hold a tab, and are the bytes
before the first one text? -/
def NamesTopic (payload : Bytes) : Prop :=
  tab ∈ payload ∧ (Bytes.text? (payload.takeWhile (· ≠ tab))).isSome

instance (payload : Bytes) : Decidable (NamesTopic payload) :=
  inferInstanceAs (Decidable (_ ∧ _))

theorem split_eq_ok_iff {payload topic text : Bytes} :
    split payload = .ok (topic, text) ↔
      payload = topic ++ tab :: text ∧ tab ∉ topic := by
  constructor
  · intro h
    simp only [split] at h
    split at h
    · next i hi =>
        obtain ⟨before, after, rfl, hnot, rfl⟩ := Bytes.idxOf?_eq_some_iff.mp hi
        simp only [Except.ok.injEq, Prod.mk.injEq] at h
        obtain ⟨rfl, rfl⟩ := h
        simp [hnot]
    · cases h
  · rintro ⟨rfl, hnot⟩
    have hi : (topic ++ tab :: text).idxOf? tab = some topic.length :=
      Bytes.idxOf?_eq_some_iff.mpr ⟨topic, text, rfl, hnot, rfl⟩
    simp only [split, hi]
    simp

theorem split_eq_error_iff {payload : Bytes} {cause : FormatError} :
    split payload = .error cause ↔ tab ∉ payload ∧ cause = .noTab := by
  simp only [split]
  split
  · next i hi =>
      have hmem : tab ∈ payload := by
        obtain ⟨hlt, htab, -⟩ := List.idxOf?_eq_some_iff.mp hi
        exact htab ▸ List.getElem_mem hlt
      simp [hmem]
  · next hnone =>
      rw [List.idxOf?_eq_none_iff] at hnone
      simp [hnone, eq_comm]

/-- More bytes at the end of a payload belong to its text. -/
theorem split_append {payload topic text : Bytes}
    (h : split payload = .ok (topic, text)) (more : Bytes) :
    split (payload ++ more) = .ok (topic, text ++ more) := by
  rw [split_eq_ok_iff] at h ⊢
  obtain ⟨rfl, hnot⟩ := h
  exact ⟨by simp, hnot⟩

theorem takeWhile_of_split {payload topic text : Bytes}
    (h : split payload = .ok (topic, text)) :
    payload.takeWhile (· ≠ tab) = topic := by
  obtain ⟨rfl, hnot⟩ := split_eq_ok_iff.mp h
  rw [List.takeWhile_append_of_pos fun b hb => by
    simpa using ne_of_mem_of_not_mem hb hnot]
  simp

theorem tab_mem_ofText {s : String} :
    tab ∈ Bytes.ofText s ↔ '\t' ∈ s.toList :=
  Bytes.ofChar_mem_ofText (by decide)

theorem readText_eq_ok_iff {b : Bytes} {s : String} :
    readText b = .ok s ↔ b.text? = some s := by
  simp only [readText]
  split <;> simp_all

theorem checkTopic_eq_ok_iff {topic : String} :
    checkTopic topic = .ok () ↔ topic ≠ "" ∧ '\t' ∉ topic.toList := by
  rw [checkTopic, ← not_or]
  split
  · next h => simp [h]
  · next h => simp [h]

/-- What is read off a payload is the message that it is the payload of, and
whose topic holds no tab. -/
theorem ofPayload_eq_ok_iff {payload : Bytes} {m : Message} :
    ofPayload payload = .ok m ↔
      m.payload = payload ∧ tab ∉ Bytes.ofText m.topic := by
  rw [ofPayload]
  constructor
  · intro h
    cases hsplit : split payload with
    | error cause =>
        rw [hsplit] at h
        cases h
    | ok parts =>
        obtain ⟨topic, text⟩ := parts
        obtain ⟨rfl, htab⟩ := split_eq_ok_iff.mp hsplit
        rw [hsplit] at h
        simp only [bind, Except.bind] at h
        cases htopic : readText topic with
        | error cause =>
            rw [htopic] at h
            cases h
        | ok name =>
            rw [htopic] at h
            simp only at h
            cases htext : readText text with
            | error cause =>
                rw [htext] at h
                cases h
            | ok body =>
                rw [htext] at h
                cases h
                rw [readText_eq_ok_iff] at htopic htext
                obtain rfl := Bytes.eq_ofText_of_text? htopic
                obtain rfl := Bytes.eq_ofText_of_text? htext
                exact ⟨rfl, htab⟩
  · rintro ⟨rfl, htab⟩
    have hsplit : split m.payload =
        .ok (Bytes.ofText m.topic, Bytes.ofText m.text) :=
      split_eq_ok_iff.mpr ⟨rfl, htab⟩
    have hread : ∀ s, readText (Bytes.ofText s) = .ok s := fun s =>
      readText_eq_ok_iff.mpr (Bytes.text?_ofText s)
    rw [hsplit]
    simp only [bind, Except.bind, hread]
    rfl

/-- A message can be read off its payload, since its topic holds no tab. -/
theorem ofPayload_payload {m : Message} (htopic : checkTopic m.topic = .ok ()) :
    ofPayload m.payload = .ok m := by
  refine ofPayload_eq_ok_iff.mpr ⟨rfl, ?_⟩
  rw [tab_mem_ofText]
  exact (checkTopic_eq_ok_iff.mp htopic).2

end Message

namespace Assemblies

theorem begin?_eq_ok_iff {payload : Bytes} {assembly : Assembly} :
    begin? payload = .ok assembly ↔
      ∃ topic, Message.split payload = .ok (topic, assembly.text) ∧
        topic.text? = some assembly.topic := by
  simp only [begin?]
  cases hsplit : Message.split payload with
  | error cause => simp [bind, Except.bind]
  | ok parts =>
      obtain ⟨topic, text⟩ := parts
      cases hread : Message.readText topic with
      | error cause =>
          have hnone : topic.text? ≠ some assembly.topic := fun h => by
            rw [Message.readText_eq_ok_iff.mpr h] at hread
            cases hread
          simp [bind, Except.bind, hread, hnone]
      | ok name =>
          rw [Message.readText_eq_ok_iff] at hread
          simp only [bind, Except.bind, pure, Except.pure, Message.readText,
            hread, Except.ok.injEq]
          constructor
          · rintro rfl
            exact ⟨topic, rfl, hread⟩
          · rintro ⟨topic', heq, hname⟩
            obtain ⟨rfl, rfl⟩ := Prod.mk.inj heq
            rw [hread, Option.some.injEq] at hname
            rw [hname]

theorem begin?_isOk_iff {payload : Bytes} :
    (∃ assembly, begin? payload = .ok assembly) ↔
      Message.NamesTopic payload := by
  constructor
  · rintro ⟨assembly, h⟩
    obtain ⟨topic, hsplit, htopic⟩ := begin?_eq_ok_iff.mp h
    refine ⟨?_, ?_⟩
    · rw [(Message.split_eq_ok_iff.mp hsplit).1]
      simp
    · rw [Message.takeWhile_of_split hsplit, htopic]
      rfl
  · rintro ⟨htab, hread⟩
    obtain ⟨name, hname⟩ := Option.isSome_iff_exists.mp hread
    cases hsplit : Message.split payload with
    | error cause =>
        exact absurd htab (Message.split_eq_error_iff.mp hsplit).1
    | ok parts =>
        obtain ⟨topic, text⟩ := parts
        rw [Message.takeWhile_of_split hsplit] at hname
        exact ⟨⟨name, text⟩, begin?_eq_ok_iff.mpr ⟨topic, hsplit, hname⟩⟩

/-- Where a payload names a topic, reading it as a whole message is reading
its text, and so it is with more bytes at the end. -/
theorem ofPayload_of_begin? {payload : Bytes} {assembly : Assembly}
    (h : begin? payload = .ok assembly) (more : Bytes) :
    Message.ofPayload (payload ++ more) =
      (Message.readText (assembly.text ++ more)).map fun text =>
        { topic := assembly.topic, text } := by
  obtain ⟨topic, hsplit, htopic⟩ := begin?_eq_ok_iff.mp h
  rw [Message.ofPayload, Message.split_append hsplit]
  simp only [bind, Except.bind, Message.readText_eq_ok_iff.mpr htopic]
  cases Message.readText (assembly.text ++ more) <;> rfl

/-- A payload that names no topic is refused as a whole message for the same
reason for which it opens none. -/
theorem ofPayload_of_begin?_error {payload : Bytes} {cause : FormatError}
    (h : begin? payload = .error cause) :
    Message.ofPayload payload = .error cause := by
  rw [begin?] at h
  rw [Message.ofPayload]
  cases hsplit : Message.split payload with
  | error cause' =>
      rw [hsplit] at h
      cases h
      rfl
  | ok parts =>
      rw [hsplit] at h
      simp only [bind, Except.bind] at h ⊢
      cases hread : Message.readText parts.1 with
      | error cause' =>
          rw [hread] at h
          cases h
          rfl
      | ok name =>
          rw [hread] at h
          cases h

end Assemblies

end Courier
