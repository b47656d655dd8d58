import Courier.Proofs.Frame.Refusal
import Courier.Proofs.Frame.RoundTrip

/-!
# Texts read in parts

Whether a frame is read, and as what, never depends on what comes behind it
(`read_append`). So a text that can be read may be put in front of any other:
its frames come first, and the rest is read as it would be alone
(`decode_append`).

A text that cannot be read consists of blocks and of a rest at whose beginning
no frame is read. The error tells where the rest begins. Nothing longer can be
read, since it would have to be read on into the rest, and for the same reason
a written text that is cut within a frame cannot be read.
-/

namespace Courier

namespace Frame

variable {offset : Nat} {f : Frame} {frames : List Frame}

/-! ## What comes behind -/

theorem read_append {b : Bytes} {stop : Nat}
    (h : read offset b = .ok (f, stop)) (more : Bytes) :
    read offset (b ++ more) = .ok (f, stop) := by
  rw [read_eq_ok_iff] at h ⊢
  obtain ⟨field, rest, rfl, hlength, hname, hstop⟩ := h
  exact ⟨field, rest ++ more, List.append_assoc .., hlength, hname, hstop⟩

/-- The first frame is read where anything is. -/
theorem exists_read_of_decodeFrom {b : Bytes} (hne : b ≠ [])
    (h : decodeFrom offset b = .ok frames) :
    ∃ f stop, read offset b = .ok (f, stop) := by
  cases hread : read offset b with
  | ok found => exact ⟨found.1, found.2, rfl⟩
  | error cause =>
      rw [decodeFrom_of_error hne hread] at h
      cases h

theorem decode_append {a : String} (h : decode a = .ok frames) (b : String) :
    decode (a ++ b) =
      (frames ++ ·) <$> (decode b).mapError (.shift a.utf8ByteSize) := by
  obtain ⟨blocks, rfl, rfl⟩ := Block.exists_of_decode h
  rw [decode, Bytes.ofText_append, Block.decodeFrom_write_append, Nat.zero_add,
    Bytes.length_ofText]
  exact congrArg _ (decodeFrom_shift _ 0 _)

/-! ## How far a text can be read -/

/-- Reading stops behind blocks, where no frame is read. -/
theorem Block.exists_of_decodeFrom_error {b : Bytes} {e : FormatError}
    (h : decodeFrom offset b = .error e) :
    ∃ blocks rest, b = Bytes.ofText (write blocks) ++ rest ∧ rest ≠ [] ∧
      read (offset + (Bytes.ofText (write blocks)).length) rest = .error e := by
  induction offset, b using decodeFrom.induct with
  | case1 offset =>
      rw [decodeFrom_nil] at h
      cases h
  | case2 offset b hne cause hread =>
      rw [decodeFrom_of_error hne hread] at h
      obtain rfl := Except.error.inj h
      exact ⟨[], b, rfl, hne, hread⟩
  | case3 offset b hne f stop hread ih =>
      rw [decodeFrom_of_read hread] at h
      obtain ⟨block, -, hb⟩ := exists_of_read hread
      have hstop : (Bytes.ofText block.text).length = stop := by
        have hlength := congrArg List.length hb
        have hle := (stop_of_read hread).2
        rw [List.length_append, List.length_drop] at hlength
        omega
      cases hrest : decodeFrom (offset + stop) (b.drop stop) with
      | ok frames =>
          rw [hrest] at h
          cases h
      | error cause =>
          rw [hrest] at h
          obtain rfl := Except.error.inj h
          obtain ⟨blocks, rest, hdrop, hne', herror⟩ := ih hrest
          refine ⟨block :: blocks, rest, ?_, hne', ?_⟩
          · rw [write_cons, Bytes.ofText_append, List.append_assoc, ← hdrop,
              ← hb]
          · rw [write_cons, Bytes.ofText_append, List.length_append, hstop,
              ← Nat.add_assoc]
            exact herror

/-- What is longer than the blocks before an error cannot be read. -/
theorem not_decode_of_longer {blocks : List Block} {back longer rest : String}
    {e : FormatError}
    (hread : read (Block.write blocks).utf8ByteSize (Bytes.ofText back) =
      .error e)
    (hsplit : Block.write blocks ++ back = longer ++ rest)
    (hlonger : (Block.write blocks).utf8ByteSize < longer.utf8ByteSize) :
    decode longer ≠ .ok frames := by
  intro h
  have hbytes := congrArg Bytes.ofText hsplit
  rw [Bytes.ofText_append, Bytes.ofText_append,
    List.append_eq_append_iff] at hbytes
  obtain ⟨middle, hlong, hback⟩ | ⟨middle, hfront, -⟩ := hbytes
  · have hne : middle ≠ [] := by
      rintro rfl
      have hlength := congrArg List.length hlong
      rw [List.append_nil, Bytes.length_ofText, Bytes.length_ofText] at hlength
      omega
    rw [decode, hlong, Block.decodeFrom_write_append, Nat.zero_add,
      Bytes.length_ofText] at h
    cases hmiddle : decodeFrom (Block.write blocks).utf8ByteSize middle with
    | error cause =>
        rw [hmiddle] at h
        cases h
    | ok more =>
        obtain ⟨f, stop, hfirst⟩ := exists_read_of_decodeFrom hne hmiddle
        rw [hback, read_append hfirst] at hread
        cases hread
  · have hlength := congrArg List.length hfront
    rw [List.length_append, Bytes.length_ofText, Bytes.length_ofText] at hlength
    omega

/-- The error points at the end of the longest part that can be read. -/
theorem exists_longest_of_decode {text : String} {e : FormatError}
    (h : decode text = .error e) :
    ∃ front back, text = front ++ back ∧
      e.offset? = some front.utf8ByteSize ∧
      front.utf8ByteSize < text.utf8ByteSize ∧
      (∃ frames, decode front = .ok frames) ∧
      ∀ longer rest : String, text = longer ++ rest →
        front.utf8ByteSize < longer.utf8ByteSize →
        ∀ frames, decode longer ≠ .ok frames := by
  obtain ⟨blocks, bytes, hbytes, hne, hread⟩ :=
    Block.exists_of_decodeFrom_error h
  obtain ⟨back, rfl, rfl⟩ := Bytes.exists_of_ofText_eq_append hbytes
  rw [Nat.zero_add, Bytes.length_ofText] at hread
  refine ⟨Block.write blocks, back, rfl, offset?_of_read ⟨back, rfl⟩ hread, ?_,
    ⟨_, Block.decode_write blocks⟩, fun longer rest hsplit hlonger frames => ?_⟩
  · have hpos := List.length_pos_of_ne_nil hne
    rw [Bytes.length_ofText] at hpos
    rw [String.utf8ByteSize_append]
    omega
  · exact not_decode_of_longer hread hsplit hlonger

/-! ## Written texts that are cut -/

theorem opening_inj {field field' tail tail' : Bytes}
    (hspace : Bytes.ofChar ' ' ∉ field) (hspace' : Bytes.ofChar ' ' ∉ field')
    (h : opening field ++ tail = opening field' ++ tail') : field = field' := by
  have hindex := idxOf?_opening hspace tail
  rw [h, idxOf?_opening hspace' tail', Option.some.injEq,
    Nat.add_right_cancel_iff] at hindex
  rw [← field_opening field tail, h, ← hindex, field_opening]

theorem ofText_text (f : Frame) :
    Bytes.ofText f.text =
      opening (Bytes.ofText f.declared.repr) ++
        (Bytes.ofText f.phrase ++ Bytes.ofText trailer) := by
  rw [text_eq]
  simp only [Bytes.ofText_append, opening, List.append_assoc, List.cons_append,
    List.nil_append]
  rfl

theorem length_ofText_text (f : Frame) :
    (Bytes.ofText f.text).length =
      (Bytes.ofText f.declared.repr).length + 3 + f.declared := by
  have htrailer : trailer.utf8ByteSize = 3 := rfl
  have hdeclared := f.declared_eq
  rw [ofText_text, List.length_append, List.length_append, length_opening,
    Bytes.length_ofText f.phrase, Bytes.length_ofText trailer]
  omega

theorem Block.length_ofText_text (b : Block) :
    (Bytes.ofText b.text).length =
      (Bytes.ofText (String.ofList b.digits)).length + 3 + b.frame.declared := by
  rw [Block.ofText_text, length_written]
  simp only [partsOf, declared, Bytes.length_ofText]

/-- A block that is found at the beginning of a written frame is this frame. -/
theorem text_eq_of_append {b : Block} {more more' : Bytes}
    (h : Bytes.ofText f.text ++ more = Bytes.ofText b.text ++ more') :
    f.text = b.text := by
  have hdigits : ' ' ∉ (Nat.toDigits 10 f.declared) := fun hmem =>
    absurd (Nat.isDigit_of_mem_toDigits (by decide) (by decide) hmem) (by decide)
  have hspace : Bytes.ofChar ' ' ∉ Bytes.ofText f.declared.repr := by
    rw [Block.space_mem_ofText, Nat.repr_eq_ofList_toDigits,
      String.toList_ofList]
    exact hdigits
  have hopening := h
  rw [ofText_text, Block.ofText_text, written] at hopening
  simp only [List.append_assoc] at hopening
  have hfield := opening_inj hspace (space_not_mem_field b.length?_digits)
    hopening
  have hdeclared : f.declared = b.frame.declared := by
    rw [Bytes.ofText_inj, Nat.repr_eq_ofList_toDigits,
      ← String.toList_inj, String.toList_ofList, String.toList_ofList] at hfield
    rw [← b.value, ← hfield, Nat.ofDigitChars_ten_toDigits]
  have hlength : (Bytes.ofText f.text).length = (Bytes.ofText b.text).length := by
    rw [length_ofText_text, Block.length_ofText_text, hfield, hdeclared]
  exact Bytes.ofText_inj.mp (List.append_inj h hlength).1

/-- What can be read of a written text ends where a frame does. -/
theorem exists_take_of_encode {blocks : List Block} {rest : String}
    (h : encode frames = Block.write blocks ++ rest) :
    ∃ k, Block.write blocks = encode (frames.take k) := by
  induction blocks generalizing frames with
  | nil => exact ⟨0, rfl⟩
  | cons b blocks ih =>
      rw [Block.write_cons, String.append_assoc] at h
      cases frames with
      | nil =>
          have hlength := congrArg (fun s => (Bytes.ofText s).length) h
          simp only [Bytes.ofText_append, List.length_append,
            Block.length_ofText_text] at hlength
          have hnil : (Bytes.ofText (encode [])).length = 0 := rfl
          omega
      | cons f frames =>
          rw [encode_cons] at h
          have hbytes := congrArg Bytes.ofText h
          rw [Bytes.ofText_append, Bytes.ofText_append] at hbytes
          have htext := text_eq_of_append hbytes
          rw [htext, String.append_right_inj] at h
          obtain ⟨k, hk⟩ := ih h
          refine ⟨k + 1, ?_⟩
          rw [Block.write_cons, List.take_succ_cons, encode_cons, htext, hk]

/-- A text that can be read is read in the same way in front of another one,
whose frames and errors only come later. The error of a text that cannot be
read points at the end of the longest part in front that can. A written text
that is cut can be read only if it was cut between frames. -/
theorem decode_in_parts (a b : String) (frames : List Frame) :
    (∀ p, decode a = .ok p → decode (a ++ b) =
      match decode b with
      | .ok q => .ok (p ++ q)
      | .error e => .error (e.shift a.utf8ByteSize)) ∧
    (∀ e, decode a = .error e → ∃ front back, a = front ++ back ∧
      e.offset? = some front.utf8ByteSize ∧
      front.utf8ByteSize < a.utf8ByteSize ∧
      (∃ p, decode front = .ok p) ∧
      ∀ longer rest : String, a = longer ++ rest →
        front.utf8ByteSize < longer.utf8ByteSize →
        ∀ p, decode longer ≠ .ok p) ∧
    (encode frames = a ++ b → (∃ p, decode a = .ok p) →
      ∃ k, a = encode (frames.take k)) := by
  refine ⟨fun p h => ?_, fun e h => exists_longest_of_decode h, ?_⟩
  · rw [decode_append h]
    cases decode b <;> rfl
  · rintro h ⟨p, hp⟩
    obtain ⟨blocks, rfl, -⟩ := Block.exists_of_decode hp
    exact exists_take_of_encode h

end Frame

end Courier
