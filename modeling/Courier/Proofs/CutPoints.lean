import Courier.Proofs.ByteOrder

/-!
# Where a text may be cut

The bytes of a text can be cut so that both parts are texts again at two kinds
of places. One is next to an ASCII byte, since such a byte belongs to no longer
form (`IsText.cut`). The other is behind a text, since no form of
a character begins another (`exists_of_ofText_eq_append`).

Whatever is looked for in payloads and in frames is ASCII. So what is found is
between texts, if the whole is a text.
-/

namespace Courier

namespace Bytes

/-- Are the bytes the UTF-8 form of a text? -/
def IsText (b : Bytes) : Prop :=
  ∃ s, ofText s = b

theorem IsText.text?_ne_none {b : Bytes} (h : b.IsText) : b.text? ≠ none := by
  obtain ⟨s, rfl⟩ := h
  rw [text?_ofText]
  exact Option.some_ne_none s

theorem exists_of_flatMap_eq_cons {chars : List Char} {c : Char}
    (hc : c.toNat < 128) {before after : Bytes}
    (h : chars.flatMap String.utf8EncodeChar = before ++ ofChar c :: after) :
    ∃ front back, chars = front ++ c :: back ∧
      front.flatMap String.utf8EncodeChar = before ∧
      back.flatMap String.utf8EncodeChar = after := by
  induction chars generalizing before with
  | nil => simp at h
  | cons d rest ih =>
      rw [List.flatMap_cons, List.append_eq_append_iff] at h
      obtain ⟨more, rfl, hrest⟩ | ⟨more, hd, hmore⟩ := h
      · obtain ⟨front, back, rfl, rfl, rfl⟩ := ih hrest
        exact ⟨d :: front, back, rfl, List.flatMap_cons, rfl⟩
      · cases more with
        | nil =>
            rw [List.append_nil] at hd
            have hrest : rest.flatMap String.utf8EncodeChar =
                [] ++ ofChar c :: after := hmore.symm
            obtain ⟨front, back, rfl, hfront, rfl⟩ := ih hrest
            refine ⟨d :: front, back, rfl, ?_, rfl⟩
            rw [List.flatMap_cons, hfront, List.append_nil, hd]
        | cons b more =>
            -- The byte is in the form of the first character.
            obtain ⟨rfl, rfl⟩ := List.cons.inj hmore
            obtain rfl : d = c := (ofChar_mem_utf8EncodeChar hc).mp (by rw [hd]; simp)
            rw [utf8EncodeChar_of_lt hc, List.singleton_eq_append_iff] at hd
            obtain ⟨rfl, hlast⟩ | ⟨-, hnil⟩ := hd
            · obtain ⟨-, rfl⟩ := List.cons.inj hlast
              exact ⟨[], rest, rfl, rfl, rfl⟩
            · cases hnil

theorem isText_flatMap (chars : List Char) :
    IsText (chars.flatMap String.utf8EncodeChar) :=
  ⟨String.ofList chars, by rw [ofText_eq_flatMap, String.toList_ofList]⟩

/-- Next to an ASCII byte a text may be cut. -/
theorem IsText.cut {before after : Bytes} {c : Char} (hc : c.toNat < 128)
    (h : IsText (before ++ ofChar c :: after)) :
    before.IsText ∧ after.IsText := by
  obtain ⟨s, hs⟩ := h
  rw [ofText_eq_flatMap] at hs
  obtain ⟨front, back, -, rfl, rfl⟩ := exists_of_flatMap_eq_cons hc hs
  exact ⟨isText_flatMap front, isText_flatMap back⟩

theorem exists_of_flatMap_eq_append {front chars : List Char} {after : Bytes}
    (h : chars.flatMap String.utf8EncodeChar =
      front.flatMap String.utf8EncodeChar ++ after) :
    ∃ back, chars = front ++ back ∧
      back.flatMap String.utf8EncodeChar = after := by
  induction front generalizing chars with
  | nil => exact ⟨chars, rfl, h⟩
  | cons d front ih =>
      rw [List.flatMap_cons, List.append_assoc] at h
      cases chars with
      | nil => simp at h
      | cons c rest =>
          rw [List.flatMap_cons] at h
          have hcd : ¬ c < d := fun hlt =>
            List.lt_irrefl _ (h ▸ utf8EncodeChar_append_lt hlt _ _)
          have hdc : ¬ d < c := fun hlt =>
            List.lt_irrefl _ (h ▸ utf8EncodeChar_append_lt hlt _ _)
          obtain rfl : c = d :=
            Char.le_antisymm (Char.not_lt.mp hdc) (Char.not_lt.mp hcd)
          obtain ⟨back, rfl, hback⟩ := ih (List.append_cancel_left h)
          exact ⟨back, rfl, hback⟩

/-- Behind a text that it begins with a text may be cut. -/
theorem exists_of_ofText_eq_append {s front : String} {after : Bytes}
    (h : ofText s = ofText front ++ after) :
    ∃ back, s = front ++ back ∧ ofText back = after := by
  rw [ofText_eq_flatMap, ofText_eq_flatMap] at h
  obtain ⟨back, hs, rfl⟩ := exists_of_flatMap_eq_append h
  refine ⟨String.ofList back, ?_, ?_⟩
  · rw [← String.toList_inj, String.toList_append, String.toList_ofList, hs]
  · rw [ofText_eq_flatMap, String.toList_ofList]

end Bytes

end Courier
