import Courier.Proofs.CutPoints
import Courier.Proofs.Frame.Grammar

/-!
# What the reader of frames refuses

An error says where the frame starts that could not be read. The bytes alone
decide whether and why a frame is refused, so with more bytes in front the
error is the same one further on (`decodeFrom_shift`).

All that the reader cuts out is next to marks, and marks are ASCII. So the
parts of a text are texts, the one error without a place does not occur where
a text is read, and every error is about the frame at which reading stopped
(`offset?_of_read`).
-/

namespace Courier

namespace FormatError

/-- Where the frame starts that could not be read, if the error tells. -/
def offset? : FormatError → Option Nat
  | .malformed offset _ | .badLength offset _ => some offset
  | _ => none

/-- The error in a text that has `n` bytes more in front. -/
def shift (n : Nat) : FormatError → FormatError
  | .malformed offset flaw => .malformed (n + offset) flaw
  | .badLength offset field => .badLength (n + offset) field
  | e => e

end FormatError

namespace Frame

variable {offset : Nat} {b : Bytes} {e : FormatError}

/-! ## More bytes in front -/

theorem Layout.locate_shift (n offset : Nat) (b : Bytes) :
    locate (n + offset) b = (locate offset b).mapError (.shift n) := by
  simp only [locate, bind, Except.bind, pure, Except.pure, throw, throwThe,
    MonadExceptOf.throw]
  repeat' split
  all_goals rfl

theorem read_shift (n offset : Nat) (b : Bytes) :
    read (n + offset) b = (read offset b).mapError (.shift n) := by
  rw [read, read, Layout.locate_shift]
  cases Layout.locate offset b with
  | error cause => rfl
  | ok layout =>
      simp only [Except.mapError, bind, Except.bind]
      cases (layout.name b).text? with
      | none => rfl
      | some name =>
          cases (layout.value b).text? with
          | none => rfl
          | some value => rfl

theorem decodeFrom_shift (n offset : Nat) (b : Bytes) :
    decodeFrom (n + offset) b = (decodeFrom offset b).mapError (.shift n) := by
  induction offset, b using decodeFrom.induct with
  | case1 offset =>
      rw [decodeFrom_nil, decodeFrom_nil]
      rfl
  | case2 offset b hne cause hread =>
      have hshift := read_shift n offset b
      rw [hread] at hshift
      rw [decodeFrom_of_error hne hshift, decodeFrom_of_error hne hread]
      rfl
  | case3 offset b hne f stop hread ih =>
      have hshift := read_shift n offset b
      rw [hread] at hshift
      rw [decodeFrom_of_read hshift, decodeFrom_of_read hread, Nat.add_assoc, ih]
      cases decodeFrom (offset + stop) (b.drop stop) <;> rfl

/-! ## Errors have a place -/

/-- The one error without a place is about a length field that is no text. -/
theorem Layout.offset?_of_locate (h : locate offset b = .error e) :
    e.offset? = some offset ∨
      b.head? = some (Bytes.ofChar '[') ∧
      ∃ space, b.idxOf? (Bytes.ofChar ' ') = some space ∧
        (field space b).text? = none := by
  simp only [locate, bind, Except.bind, pure, Except.pure, throw, throwThe,
    MonadExceptOf.throw] at h
  repeat' split at h
  all_goals try contradiction
  all_goals try
    obtain rfl := Except.error.inj h
    exact .inl rfl
  next hbracket _ space hspace _ hlength _ hfield =>
    exact .inr ⟨hbracket, space, hspace, hfield⟩

theorem isText_field {space : Nat} (htext : b.IsText)
    (hbracket : b.head? = some (Bytes.ofChar '['))
    (hspace : b.idxOf? (Bytes.ofChar ' ') = some space) :
    (Layout.field space b).IsText := by
  obtain ⟨before, after, rfl, -, rfl⟩ := Bytes.idxOf?_eq_some_iff.mp hspace
  rw [Layout.field, List.take_left]
  cases before with
  | nil => cases hbracket
  | cons x field =>
      obtain rfl : x = Bytes.ofChar '[' := Option.some.inj hbracket
      have hfront := (Bytes.IsText.cut (by decide) htext).1
      have hfield : Bytes.IsText ([] ++ Bytes.ofChar '[' :: field) := hfront
      exact (Bytes.IsText.cut (by decide) hfield).2

theorem isText_written {field name value rest : Bytes}
    (htext : (written field name value ++ rest).IsText) :
    name.IsText ∧ value.IsText := by
  have hparts : written field name value ++ rest =
      (Bytes.ofChar '[' :: field ++ [Bytes.ofChar ' ']) ++ Bytes.ofChar '(' ::
        (name ++ Bytes.ofChar ' ' :: (value ++ Bytes.ofChar ')' ::
          (Bytes.ofChar '\n' :: Bytes.ofChar ']' :: rest))) := by
    simp [written, opening]
    rfl
  rw [hparts] at htext
  have hname := Bytes.IsText.cut (by decide)
    (Bytes.IsText.cut (by decide) htext).2
  exact ⟨hname.1, (Bytes.IsText.cut (by decide) hname.2).1⟩

/-- Where a text is read, an error is about the frame that was to be read. -/
theorem offset?_of_read (htext : b.IsText) (h : read offset b = .error e) :
    e.offset? = some offset := by
  simp only [read, bind, Except.bind, pure, Except.pure, throw, throwThe,
    MonadExceptOf.throw] at h
  split at h
  · next cause hlocate =>
      obtain rfl := Except.error.inj h
      obtain hoffset | ⟨hbracket, space, hspace, hfield⟩ :=
        Layout.offset?_of_locate hlocate
      · exact hoffset
      · exact absurd hfield
          (isText_field htext hbracket hspace).text?_ne_none
  · next layout hlocate =>
      obtain ⟨space, length, gap, hchecked, rfl⟩ :=
        locate_eq_ok_iff_checked.mp hlocate
      obtain ⟨field, name, value, rest, rfl, -, rfl, -, rfl, rfl⟩ :=
        hchecked.exists_written
      obtain ⟨⟨name, rfl⟩, ⟨value, rfl⟩⟩ := isText_written htext
      rw [← partsOf, name_written, value_written, Bytes.text?_ofText,
        Bytes.text?_ofText] at h
      cases h

end Frame

end Courier
