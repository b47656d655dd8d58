import Courier.Proofs.Frame.Grammar

/-!
# Reading what was written

Frames that were written are read again, whatever their values hold. A name
that holds a space does not come back as it was, since the reader takes the
first space for the end of the name. What comes back then is the frame that
has the same bytes between its parentheses and no space in its name.
-/

namespace Courier

namespace Frame

/-- The frame whose name and value are the parts of a text before and behind
its first space. -/
def ofPhrase (phrase : String) : Frame where
  name := String.ofList (phrase.toList.takeWhile (· ≠ ' '))
  value := String.ofList ((phrase.toList.dropWhile (· ≠ ' ')).drop 1)

/-- The name and the value, with the space between them. -/
def phrase (f : Frame) : String :=
  f.name ++ " " ++ f.value

theorem name_ofPhrase (s : String) : ' ' ∉ (ofPhrase s).name.toList := by
  rw [ofPhrase, String.toList_ofList]
  intro hmem
  simpa using List.mem_takeWhile_imp hmem

theorem toList_phrase (f : Frame) :
    f.phrase.toList = f.name.toList ++ ' ' :: f.value.toList := by
  simp [phrase]

theorem ofPhrase_phrase_eq_iff {f : Frame} :
    ofPhrase f.phrase = f ↔ ' ' ∉ f.name.toList := by
  constructor
  · intro h
    rw [← h]
    exact name_ofPhrase f.phrase
  · intro h
    have hname : ∀ c ∈ f.name.toList, decide (c ≠ ' ') = true := fun c hc => by
      simpa using ne_of_mem_of_not_mem hc h
    rw [ofPhrase, toList_phrase, List.takeWhile_append_of_pos hname,
      List.dropWhile_append_of_pos hname]
    simp

/-- To split a phrase is to move none of its bytes. -/
theorem phrase_ofPhrase (f : Frame) : (ofPhrase f.phrase).phrase = f.phrase := by
  have hspace : ' ' ∈ f.phrase.toList := by
    rw [toList_phrase]
    simp
  have hcut := List.takeWhile_append_dropWhile
    (p := fun c => decide (c ≠ ' ')) (l := f.phrase.toList)
  generalize htail : f.phrase.toList.dropWhile (· ≠ ' ') = tail at hcut
  cases tail with
  | nil =>
      rw [List.dropWhile_eq_nil_iff] at htail
      simpa using htail ' ' hspace
  | cons c rest =>
      have hc : c = ' ' := by
        have hhead := List.head?_dropWhile_not (fun c => decide (c ≠ ' '))
          f.phrase.toList
        rw [htail] at hhead
        simpa using hhead
      rw [← String.toList_inj, toList_phrase, ← hcut, hc]
      simp only [ofPhrase, String.toList_ofList, htail, List.drop_one,
        List.tail_cons, hc]

/-! ## Frames as blocks -/

theorem declared_eq (f : Frame) : f.declared = f.phrase.utf8ByteSize + 3 := by
  have hspace : " ".utf8ByteSize = 1 := rfl
  rw [declared, phrase, overhead, String.utf8ByteSize_append,
    String.utf8ByteSize_append]
  omega

theorem text_eq (f : Frame) :
    f.text = "[" ++ f.declared.repr ++ " (" ++ f.phrase ++ trailer := by
  simp only [text, phrase, String.append_assoc]

theorem declared_le_size (f : Frame) : f.declared ≤ f.text.utf8ByteSize := by
  have htrailer : trailer.utf8ByteSize = 3 := rfl
  rw [text_eq, declared_eq]
  simp only [String.utf8ByteSize_append]
  omega

theorem encode_cons (f : Frame) (frames : List Frame) :
    encode (f :: frames) = f.text ++ encode frames := by
  rw [encode, List.map_cons, String.join_cons]
  rfl

/-- The block that is written for a frame. -/
def toBlock (f : Frame) (h : f.declared < 2 ^ 64) : Block where
  digits := Nat.toDigits 10 f.declared
  frame := ofPhrase f.phrase
  areDigits := fun _ hc =>
    Nat.isDigit_of_mem_toDigits (by decide) (by decide) hc
  value := by
    rw [Nat.ofDigitChars_ten_toDigits, declared_eq, declared_eq,
      phrase_ofPhrase]
  bounded := by
    rw [declared_eq, phrase_ofPhrase, ← declared_eq]
    exact h
  unspaced := name_ofPhrase f.phrase

theorem text_toBlock {f : Frame} (h : f.declared < 2 ^ 64) :
    (f.toBlock h).text = f.text := by
  have hphrase := phrase_ofPhrase f
  rw [phrase] at hphrase
  rw [text_eq, ← hphrase, Nat.repr_eq_ofList_toDigits, Block.text, toBlock]
  simp only [String.append_assoc]
  rfl

theorem declared_lt_of_encode {frames : List Frame} {limit : Nat}
    (h : (encode frames).utf8ByteSize < limit) :
    ∀ f ∈ frames, f.declared < limit := by
  induction frames with
  | nil => exact fun _ => List.not_mem_nil.elim
  | cons f frames ih =>
      rw [encode_cons, String.utf8ByteSize_append] at h
      have hf := f.declared_le_size
      rw [List.forall_mem_cons]
      exact ⟨by omega, ih (by omega)⟩

theorem exists_blocks {frames : List Frame}
    (h : ∀ f ∈ frames, f.declared < 2 ^ 64) :
    ∃ blocks, Block.write blocks = encode frames ∧
      blocks.map Block.frame = frames.map fun f => ofPhrase f.phrase := by
  induction frames with
  | nil => exact ⟨[], rfl, rfl⟩
  | cons f frames ih =>
      obtain ⟨hf, hrest⟩ := List.forall_mem_cons.mp h
      obtain ⟨blocks, hwrite, hframes⟩ := ih hrest
      refine ⟨f.toBlock hf :: blocks, ?_, ?_⟩
      · rw [Block.write_cons, text_toBlock, hwrite, encode_cons]
      · rw [List.map_cons, List.map_cons, hframes]
        rfl

/-- What was written is read with its names cut at the first space. -/
theorem decode_encode_of_declared {frames : List Frame}
    (h : ∀ f ∈ frames, f.declared < 2 ^ 64) :
    decode (encode frames) = .ok (frames.map fun f => ofPhrase f.phrase) := by
  obtain ⟨blocks, hwrite, hframes⟩ := exists_blocks h
  rw [← hwrite, Block.decode_write, hframes]

theorem map_ofPhrase_eq_iff {frames : List Frame} :
    frames.map (fun f => ofPhrase f.phrase) = frames ↔
      ∀ f ∈ frames, ' ' ∉ f.name.toList := by
  simp only [← ofPhrase_phrase_eq_iff]
  conv_lhs => rhs; rw [← List.map_id frames]
  exact List.map_inj_left

/-- What was written is read again, but for names that hold a space: each
frame comes back as its phrase split at the first space. -/
theorem decode_encode (frames : List Frame)
    (h : (encode frames).utf8ByteSize < 2 ^ 63) :
    decode (encode frames) = .ok (frames.map fun f => ofPhrase f.phrase) ∧
      (decode (encode frames) = .ok frames ↔
        ∀ f ∈ frames, ' ' ∉ f.name.toList) := by
  have hdecode := decode_encode_of_declared
    (declared_lt_of_encode (h.trans (by decide)))
  refine ⟨hdecode, ?_⟩
  rw [hdecode, Except.ok.injEq, map_ofPhrase_eq_iff]

/-- A value that imitates a frame, one in a wider alphabet, and a name with a
space. -/
theorem decode_encode_imitation :
    let frames : List Frame :=
      [⟨"a", "x)\n][6 (b c)\n]"⟩, ⟨"", "sää \t"⟩, ⟨"big day", "[ ("⟩]
    (encode frames).utf8ByteSize < 2 ^ 63 ∧
      decode (encode frames) =
        .ok [⟨"a", "x)\n][6 (b c)\n]"⟩, ⟨"", "sää \t"⟩, ⟨"big", "day [ ("⟩] := by
  intro frames
  have h : (encode frames).utf8ByteSize < 2 ^ 63 := by decide
  exact ⟨h, (decode_encode frames h).1.trans (by decide)⟩

end Frame

end Courier
