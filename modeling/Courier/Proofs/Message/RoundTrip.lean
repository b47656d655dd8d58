import Courier.Proofs.CutPoints

/-!
# Payloads and messages

A payload is read by cutting it at its first tab, and both parts have to be
texts. A tab is ASCII, so they are texts if and only if the payload is one: a
payload can be read exactly if it is a text with a tab in it, and what is read
is the one message without a tab in its topic that has this payload
(`ofPayload_eq_ok_iff`).

So writing and reading undo each other but for topics that hold a tab. The
payload of such a message is read as well, and the topic then ends where the
payload is cut.
-/

namespace Courier

namespace Message

variable {payload : Bytes} {m : Message}

theorem payload_eq_ofText (m : Message) :
    m.payload = Bytes.ofText (m.topic ++ "\t" ++ m.text) := by
  rw [Bytes.ofText_append, Bytes.ofText_append, List.append_assoc]
  rfl

theorem tab_mem_payload (m : Message) : tab ∈ m.payload := by
  rw [payload]
  exact List.mem_append_right _ List.mem_cons_self

/-! ## What can be read -/

theorem exists_ofPayload_iff :
    (∃ m, ofPayload payload = .ok m) ↔ payload.IsText ∧ tab ∈ payload := by
  constructor
  · rintro ⟨m, h⟩
    obtain ⟨rfl, -⟩ := ofPayload_eq_ok_iff.mp h
    exact ⟨⟨_, (payload_eq_ofText m).symm⟩, tab_mem_payload m⟩
  · rintro ⟨htext, htab⟩
    obtain ⟨before, after, rfl, hnot⟩ := List.eq_append_cons_of_mem htab
    obtain ⟨⟨topic, rfl⟩, ⟨text, rfl⟩⟩ :=
      Bytes.IsText.cut (c := '\t') (by decide) htext
    exact ⟨⟨topic, text⟩, ofPayload_eq_ok_iff.mpr ⟨rfl, hnot⟩⟩

/-! ## What cannot -/

theorem cause_of_readText {b : Bytes} {cause : FormatError}
    (h : readText b = .error cause) : cause = .notText := by
  rw [readText] at h
  split at h
  · cases h
  · exact (Except.error.inj h).symm

/-- The tab is looked for first. -/
theorem cause_of_ofPayload {cause : FormatError}
    (h : ofPayload payload = .error cause) :
    tab ∉ payload ∧ cause = .noTab ∨ tab ∈ payload ∧ cause = .notText := by
  rw [ofPayload] at h
  cases hsplit : split payload with
  | error cause' =>
      rw [hsplit] at h
      obtain rfl := Except.error.inj h
      exact .inl (split_eq_error_iff.mp hsplit)
  | ok parts =>
      obtain ⟨topic, text⟩ := parts
      obtain ⟨rfl, -⟩ := split_eq_ok_iff.mp hsplit
      refine .inr ⟨by simp, ?_⟩
      rw [hsplit] at h
      simp only [bind, Except.bind] at h
      cases htopic : readText topic with
      | error cause' =>
          rw [htopic] at h
          obtain rfl := Except.error.inj h
          exact cause_of_readText htopic
      | ok name =>
          rw [htopic] at h
          simp only at h
          cases htext : readText text with
          | error cause' =>
              rw [htext] at h
              obtain rfl := Except.error.inj h
              exact cause_of_readText htext
          | ok body =>
              rw [htext] at h
              cases h

theorem ofPayload_eq_noTab_iff :
    ofPayload payload = .error .noTab ↔ tab ∉ payload := by
  constructor
  · intro h
    obtain ⟨hnot, -⟩ | ⟨-, hcause⟩ := cause_of_ofPayload h
    · exact hnot
    · cases hcause
  · intro hnot
    rw [ofPayload, split_eq_error_iff.mpr ⟨hnot, rfl⟩]
    rfl

theorem ofPayload_eq_notText_iff :
    ofPayload payload = .error .notText ↔ tab ∈ payload ∧ ¬ payload.IsText := by
  constructor
  · intro h
    obtain ⟨-, hcause⟩ | ⟨htab, -⟩ := cause_of_ofPayload h
    · cases hcause
    · refine ⟨htab, fun htext => ?_⟩
      obtain ⟨m, hm⟩ := exists_ofPayload_iff.mpr ⟨htext, htab⟩
      rw [hm] at h
      cases h
  · rintro ⟨htab, hnot⟩
    cases h : ofPayload payload with
    | ok m => exact absurd (exists_ofPayload_iff.mp ⟨m, h⟩).1 hnot
    | error cause =>
        obtain ⟨hnone, -⟩ | ⟨-, rfl⟩ := cause_of_ofPayload h
        · exact absurd htab hnone
        · rfl

/-! ## There and back -/

/-- A topic ends at its first tab when its message is read again. -/
theorem ofPayload_cut {front back : String}
    (htopic : m.topic = front ++ "\t" ++ back) (hfront : '\t' ∉ front.toList) :
    ofPayload m.payload =
      .ok { topic := front, text := back ++ "\t" ++ m.text } := by
  rw [← tab_mem_ofText] at hfront
  refine ofPayload_eq_ok_iff.mpr ⟨?_, hfront⟩
  rw [payload_eq_ofText, payload_eq_ofText, htopic]
  simp only [String.append_assoc]

/-- A payload can be read exactly if it is a text with a tab in it, and what is
read has this payload again. Every message can be read off its payload; it is
the same message exactly if its topic holds no tab, and otherwise its topic is
cut at the first tab and the rest moves into the text. -/
theorem payloads_match_messages (payload : Bytes) (m : Message) :
    ((∃ r, ofPayload payload = .ok r) ↔ payload.IsText ∧ tab ∈ payload) ∧
    (ofPayload payload = .error .noTab ↔ tab ∉ payload) ∧
    (ofPayload payload = .error .notText ↔ tab ∈ payload ∧ ¬ payload.IsText) ∧
    (ofPayload payload = .ok m →
      '\t' ∉ m.topic.toList ∧ m.payload = payload ∧ m.size = payload.length) ∧
    m.size = m.payload.length ∧
    (∃ r, ofPayload m.payload = .ok r) ∧
    (ofPayload m.payload = .ok m ↔ '\t' ∉ m.topic.toList) ∧
    ∀ front back : String, m.topic = front ++ "\t" ++ back →
      '\t' ∉ front.toList →
      ofPayload m.payload =
        .ok { topic := front, text := back ++ "\t" ++ m.text } := by
  refine ⟨exists_ofPayload_iff, ofPayload_eq_noTab_iff,
    ofPayload_eq_notText_iff, ?_, m.length_payload.symm, ?_, ?_, ?_⟩
  · intro h
    obtain ⟨rfl, htab⟩ := ofPayload_eq_ok_iff.mp h
    rw [tab_mem_ofText] at htab
    exact ⟨htab, rfl, m.length_payload.symm⟩
  · exact exists_ofPayload_iff.mpr
      ⟨⟨_, (payload_eq_ofText m).symm⟩, tab_mem_payload m⟩
  · rw [ofPayload_eq_ok_iff, tab_mem_ofText]
    exact and_iff_right rfl
  · intro front back htopic hfront
    exact ofPayload_cut htopic hfront

end Message

end Courier
