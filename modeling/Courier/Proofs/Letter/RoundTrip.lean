import Mathlib.Data.List.Nodup
import Courier.Letter
import Courier.Proofs.Frame.RoundTrip

/-!
# Letters that come back as they were

A letter is read off its frames one by one, and a later value replaces an
earlier one. So of each name the last value counts (`Frame.lastValue?`): it is
the body under the reserved name, and an attribute under any other.

Written frames are read again with their names cut at the first space. A
letter that was read has therefore no attribute whose name holds a space or is
reserved, and a letter that had one does not come back, whatever else the cut
name may have replaced. Any other letter does, since its frames are read as
they were written.
-/

namespace Courier

namespace Frame

variable {name value : String} {f : Frame} {frames : List Frame}

/-- The value of the last frame of a name. -/
def lastValue? (name : String) (frames : List Frame) : Option String :=
  (frames.filter fun f => f.name = name).getLast?.map Frame.value

theorem lastValue?_concat :
    lastValue? name (frames ++ [f]) =
      if f.name = name then some f.value else lastValue? name frames := by
  rw [lastValue?, List.filter_append]
  split
  · next h => simp [h]
  · next h => simp [h, lastValue?]

theorem lastValue?_cons :
    lastValue? name (f :: frames) = (lastValue? name frames).or
      (if f.name = name then some f.value else none) := by
  induction frames using List.reverseRecOn with
  | nil => exact @lastValue?_concat name f []
  | append_singleton frames g ih =>
      rw [← List.cons_append, lastValue?_concat, lastValue?_concat, ih]
      split <;> rfl

theorem mem_of_lastValue? (h : lastValue? name frames = some value) :
    ⟨name, value⟩ ∈ frames := by
  obtain ⟨f, hf, rfl⟩ := Option.map_eq_some_iff.mp h
  obtain ⟨hmem, hname⟩ := List.mem_filter.mp (List.mem_of_getLast? hf)
  obtain rfl : f.name = name := by simpa using hname
  exact hmem

theorem lastValue?_ne_none_iff :
    lastValue? name frames ≠ none ↔ ∃ f ∈ frames, f.name = name := by
  rw [lastValue?, ne_eq, Option.map_eq_none_iff, List.getLast?_eq_none_iff,
    List.filter_eq_nil_iff]
  simp

end Frame

namespace Letter

variable {l : Letter} {topic name : String} {frames : List Frame}

theorem eq_of_get? {r : Letter} (htopic : l.topic = r.topic)
    (hbody : l.body = r.body) (hget : ∀ name, l.get? name = r.get? name) :
    l = r := by
  obtain ⟨topic, body, attributes⟩ := l
  obtain rfl : topic = r.topic := htopic
  obtain rfl : body = r.body := hbody
  obtain rfl : attributes = r.attributes := Std.ExtTreeMap.ext_getElem? hget
  rfl

theorem mem_attributes_iff : name ∈ l.attributes ↔ l.get? name ≠ none := by
  rw [Std.ExtTreeMap.mem_iff_isSome_getElem?, Option.isSome_iff_ne_none]
  rfl

/-! ## One frame after the other -/

theorem ofFrames_concat (f : Frame) :
    ofFrames topic (frames ++ [f]) =
      (ofFrames topic frames).set f.name f.value := by
  rw [ofFrames, List.foldl_append]
  rfl

@[simp]
theorem topic_set (name value : String) : (l.set name value).topic = l.topic := by
  rw [set]
  split <;> rfl

theorem body_set (name value : String) :
    (l.set name value).body = if name = bodyName then value else l.body := by
  rw [set]
  split <;> rfl

theorem get?_set (n value name : String) :
    (l.set n value).get? name =
      if n = name ∧ name ≠ bodyName then some value else l.get? name := by
  rw [set]
  by_cases hn : n = bodyName
  · rw [if_pos hn, if_neg (by rintro ⟨rfl, hname⟩; exact hname hn)]
    rfl
  · rw [if_neg hn, get?, Std.ExtTreeMap.getElem?_insert]
    by_cases hname : n = name
    · simp [← hname, hn]
    · simp [hname, get?]

/-! ## What is read off frames -/

theorem topic_ofFrames : (ofFrames topic frames).topic = topic := by
  induction frames using List.reverseRecOn with
  | nil => rfl
  | append_singleton frames f ih => rw [ofFrames_concat, topic_set, ih]

theorem body_ofFrames :
    (ofFrames topic frames).body =
      (Frame.lastValue? bodyName frames).getD "" := by
  induction frames using List.reverseRecOn with
  | nil => rfl
  | append_singleton frames f ih =>
      rw [ofFrames_concat, body_set, ih, Frame.lastValue?_concat]
      split <;> rfl

theorem get?_ofFrames :
    (ofFrames topic frames).get? name =
      if name = bodyName then none else Frame.lastValue? name frames := by
  induction frames using List.reverseRecOn with
  | nil => exact (ite_self _).symm
  | append_singleton frames f ih =>
      rw [ofFrames_concat, get?_set, ih, Frame.lastValue?_concat]
      by_cases hname : name = bodyName
      · simp [hname]
      · simp [hname]

theorem bodyName_notMem_ofFrames :
    bodyName ∉ (ofFrames topic frames).attributes := by
  rw [mem_attributes_iff, get?_ofFrames, if_pos rfl]
  exact not_not.mpr rfl

/-! ## What was written -/

/-- An attribute is in one frame of its letter. -/
theorem filter_attributes (l : Letter) (name : String) :
    (l.attributes.toList.map fun (name, value) => (⟨name, value⟩ : Frame)).filter
        (fun f => f.name = name) =
      (l.get? name).toList.map (⟨name, ·⟩) := by
  rw [List.filter_map, get?]
  cases hvalue : l.attributes[name]? with
  | none =>
      rw [List.filter_eq_nil_iff.mpr]
      · rfl
      rintro ⟨n, v⟩ hmem hname
      obtain rfl : n = name := by simpa using hname
      rw [Std.ExtTreeMap.mem_toList_iff_getElem?_eq_some, hvalue] at hmem
      cases hmem
  | some value =>
      have hmem := Std.ExtTreeMap.mem_toList_iff_getElem?_eq_some.mpr hvalue
      have hnodup : l.attributes.toList.Nodup :=
        Std.ExtTreeMap.distinct_keys_toList.imp fun hkeys hpair =>
          hkeys (by rw [hpair]; exact Std.ReflCmp.compare_self)
      have hfilter : l.attributes.toList.filter
          ((fun f : Frame => f.name = name) ∘ fun (name, value) => ⟨name, value⟩) =
          l.attributes.toList.filter (· == (name, value)) := by
        refine List.filter_congr fun ⟨n, v⟩ hpair => ?_
        rw [Std.ExtTreeMap.mem_toList_iff_getElem?_eq_some] at hpair
        by_cases hn : n = name
        · subst hn
          rw [hvalue] at hpair
          simp [Option.some.inj hpair]
        · simp [hn]
      rw [hfilter, List.filter_beq, List.count_eq_one_of_mem hnodup hmem]
      rfl

theorem lastValue?_attributes (l : Letter) (name : String) :
    Frame.lastValue? name (l.attributes.toList.map fun (name, value) =>
      { name, value }) = l.get? name := by
  rw [Frame.lastValue?, filter_attributes]
  cases l.get? name <;> rfl

theorem lastValue?_frames (l : Letter) (name : String) :
    Frame.lastValue? name l.frames =
      (l.get? name).or (if bodyName = name then some l.body else none) := by
  rw [frames, Frame.lastValue?_cons, lastValue?_attributes]

/-- A letter is read off its own frames if no attribute bears the name of the
body. -/
theorem ofFrames_frames (h : bodyName ∉ l.attributes) :
    ofFrames l.topic l.frames = l := by
  have hbody : l.get? bodyName = none := Std.ExtTreeMap.getElem?_eq_none h
  refine eq_of_get? topic_ofFrames ?_ fun name => ?_
  · rw [body_ofFrames, lastValue?_frames, hbody, if_pos rfl]
    rfl
  · rw [get?_ofFrames, lastValue?_frames]
    by_cases hname : name = bodyName
    · rw [if_pos hname, hname, hbody]
    · rw [if_neg hname, if_neg (Ne.symm hname), Option.or_none]

theorem unspaced_frames (h : ∀ name ∈ l.attributes, ' ' ∉ name.toList) :
    ∀ f ∈ l.frames, ' ' ∉ f.name.toList := by
  intro f hf
  rw [frames, List.mem_cons, List.mem_map] at hf
  obtain rfl | ⟨⟨name, value⟩, hmem, rfl⟩ := hf
  · show ' ' ∉ bodyName.toList
    decide
  · have hvalue := Std.ExtTreeMap.mem_toList_iff_getElem?_eq_some.mp hmem
    refine h name (Std.ExtTreeMap.mem_iff_isSome_getElem?.mpr ?_)
    rw [hvalue]
    rfl

/-- A letter that was written can be read. It comes back as it was if and only
if no attribute has a space in its name or the reserved name; nothing is asked
of the body or of the values. -/
theorem ofMessage_toMessage (l : Letter)
    (h : l.toMessage.text.utf8ByteSize < 2 ^ 63) :
    (∃ r, ofMessage l.toMessage = .ok r) ∧
      (ofMessage l.toMessage = .ok l ↔
        ∀ name ∈ l.attributes, ' ' ∉ name.toList ∧ name ≠ bodyName) := by
  obtain ⟨hdecode, hsame⟩ := Frame.decode_encode l.frames h
  have hread : ofMessage l.toMessage =
      .ok (ofFrames l.topic (l.frames.map fun f => .ofPhrase f.phrase)) := by
    rw [ofMessage, toMessage, hdecode]
    rfl
  refine ⟨⟨_, hread⟩, fun hl name hname => ?_, fun hnames => ?_⟩
  · -- The attribute was read, so it is not the body and was cut at no space.
    obtain ⟨value, hvalue⟩ := Option.isSome_iff_exists.mp
      (Std.ExtTreeMap.mem_iff_isSome_getElem?.mp hname)
    rw [hread, Except.ok.injEq] at hl
    have hget : (ofFrames l.topic
        (l.frames.map fun f => .ofPhrase f.phrase)).get? name = some value := by
      rw [hl]
      exact hvalue
    rw [get?_ofFrames] at hget
    split at hget
    · cases hget
    · next hbody =>
        obtain ⟨f, -, hf⟩ := List.mem_map.mp (Frame.mem_of_lastValue? hget)
        have hunspaced := Frame.name_ofPhrase f.phrase
        rw [hf] at hunspaced
        exact ⟨hunspaced, hbody⟩
  · have hframes := hsame.mpr (unspaced_frames fun name hname =>
      (hnames name hname).1)
    have hbody : bodyName ∉ l.attributes := fun hmem =>
      (hnames bodyName hmem).2 rfl
    rw [ofMessage, toMessage, hframes]
    exact congrArg Except.ok (ofFrames_frames hbody)

/-- A letter whose body and values imitate frames, and one with an attribute
whose name, cut at its space, is the name of the body. -/
theorem ofMessage_toMessage_imitation :
    let plain : Letter :=
      { topic := "T", body := "x)\n][6 (b c)\n]",
        attributes := .ofList [("näme", " ("), ("", "m_body")] }
    let crossed : Letter :=
      { plain with attributes := plain.attributes.insert "m_body x" "y" }
    (plain.toMessage.text.utf8ByteSize < 2 ^ 63 ∧
      ofMessage plain.toMessage = .ok plain) ∧
    crossed.toMessage.text.utf8ByteSize < 2 ^ 63 ∧
      (∃ r, ofMessage crossed.toMessage = .ok r) ∧
      ofMessage crossed.toMessage ≠ .ok crossed := by
  intro plain crossed
  have hplain : plain.toMessage.text.utf8ByteSize < 2 ^ 63 := by decide
  have hcrossed : crossed.toMessage.text.utf8ByteSize < 2 ^ 63 := by decide
  obtain ⟨hread, hsame⟩ := ofMessage_toMessage crossed hcrossed
  refine ⟨⟨hplain, (ofMessage_toMessage plain hplain).2.mpr ?_⟩, hcrossed,
    hread, fun h => ?_⟩
  · intro name hname
    rw [← Std.ExtTreeMap.mem_keys] at hname
    revert name
    decide
  · exact (hsame.mp h "m_body x" (by decide)).1 (by decide)

end Letter

end Courier
